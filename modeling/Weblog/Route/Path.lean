import Weblog.Http.Form

/-!
# Weblog.Route.Path

The paths under which routes are kept, as the router reads them.

* `PathPart`: a character, a parameter that runs to the next slash, or one that takes the rest.
* `PathPart.read`: the parts of a path: a colon begins a parameter, and an asterisk after a slash
  begins one that takes the rest.
* `PathPart.Fits`: a requested path fits parts, with given values of the parameters.
* `PathPart.decodeAll`: the parameters as texts.
-/

namespace Weblog

/-- A part of a path. -/
inductive PathPart where
  | char (c : Char)
  /-- A parameter: what stands before the next slash. -/
  | param (name : List Char)
  /-- A parameter that takes all that is left, which is not empty. -/
  | rest (name : List Char)
  deriving DecidableEq, Repr

namespace PathPart

/-- Where the reading of a path is: after a character, or within the name of a parameter, last
character first. -/
inductive Reading where
  | after (c : Char)
  | param (name : List Char)
  deriving DecidableEq, Repr

def readFrom : Reading → List Char → List PathPart
  | .after _, [] => []
  | .param n, [] => [.param n.reverse]
  | .after p, c :: cs =>
    if c = ':' then readFrom (.param []) cs
    else if c = '*' ∧ p = '/' then [.rest cs]
    else .char c :: readFrom (.after c) cs
  | .param n, c :: cs =>
    if c = '/' then .param n.reverse :: .char c :: readFrom (.after c) cs
    else readFrom (.param (c :: n)) cs

def read (path : String) : List PathPart := readFrom (.after ' ') path.toList

def names (parts : List PathPart) : List (List Char) :=
  parts.filterMap fun
    | .char _ => none
    | .param n => some n
    | .rest n => some n

/-- What stands before the first slash, and the rest. -/
def segment (cs : List Char) : List Char × List Char :=
  (cs.takeWhile (· ≠ '/'), cs.dropWhile (· ≠ '/'))

theorem segment_append (cs : List Char) : (segment cs).1 ++ (segment cs).2 = cs :=
  List.takeWhile_append_dropWhile

theorem length_segment_snd_le (cs : List Char) : (segment cs).2.length ≤ cs.length := by
  have h := congrArg List.length (segment_append cs)
  rw [List.length_append] at h
  omega

theorem segment_no_slash (cs : List Char) : ∀ c ∈ (segment cs).1, c ≠ '/' := by
  induction cs with
  | nil => intro c h; cases h
  | cons d cs ih =>
    intro c h
    by_cases hd : d = '/'
    · simp [segment, hd] at h
    · simp only [segment, List.takeWhile_cons, ne_eq, hd, not_false_eq_true, decide_true,
        if_true, List.mem_cons] at h
      rcases h with rfl | h
      · exact hd
      · exact ih c h

theorem segment_snd_head {cs es : List Char} {e : Char} (h : (segment cs).2 = e :: es) :
    e = '/' := by
  have stop := List.head?_dropWhile_not (· ≠ '/') cs
  have same : cs.dropWhile (· ≠ '/') = e :: es := h
  rw [same] at stop
  simpa using stop

/-- A path fits parts, with these values of the parameters. The value of a parameter holds no slash,
and only before one may it be empty; what takes the rest takes something. -/
inductive Fits : List PathPart → List (List Char) → List Char → Prop where
  | nil : Fits [] [] []
  | char {parts : List PathPart} {values : List (List Char)} {cs : List Char} (c : Char) :
      Fits parts values cs → Fits (.char c :: parts) values (c :: cs)
  | param {parts : List PathPart} {values : List (List Char)} {cs : List Char} (n value : List Char) :
      (∀ c ∈ value, c ≠ '/') → (cs = [] → value ≠ []) → Fits parts values cs →
        Fits (.param n :: parts) (value :: values) (value ++ cs)
  | rest {parts : List PathPart} (n value : List Char) :
      value ≠ [] → Fits (.rest n :: parts) [value] value

theorem Fits.run {parts : List PathPart} {values : List (List Char)} {cs : List Char}
    (run : List Char) (h : Fits parts values cs) :
    Fits (run.map .char ++ parts) values (run ++ cs) := by
  induction run with
  | nil => exact h
  | cons c run ih => exact .char c ih

/-- The decoded text of a captured value, if it is UTF-8. -/
def decode? (value : List Char) : Option String :=
  Text.Utf8.text? (Http.percentDecode (Text.Utf8.encode value))

/-- The decoded parameters: all of them, or none at all where one is not UTF-8. -/
def decodeAll (captured : List (List Char × List Char)) : List (String × String) :=
  (captured.mapM fun p => (decode? p.2).map fun v => (String.ofList p.1, v)).getD []

end PathPart
end Weblog
