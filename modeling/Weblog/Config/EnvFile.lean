import Weblog.Config.Basic
import Weblog.Text.Alphanumeric

/-!
# Weblog.Config.EnvFile

Files of environment variables.

* `logicalLines?`: the lines of a file; a quoted value may go on over several lines, and a comment
  after white space ends a line.
* `readLine`: the key and the value of a line, none where it is blank or a comment.
* `readValue`: a value with its quotes, escapes and references to variables.
* `load`: the environment with the variables of a file added; variables that are there already
  stay, and of a repeated key the first value counts.
-/

namespace Weblog
namespace EnvFile

/-- Where the end of a physical line leaves the logical one. -/
inductive LineState where
  | complete
  | space
  | escape
  | strong
  | strongEscape
  | weak
  | weakEscape
  deriving DecidableEq, Repr

/-- The state after a character, none where a comment begins. -/
def LineState.next : LineState → Char → Option LineState
  | .space, c =>
    if c = '#' then none
    else if c = '\\' then some .escape
    else if c = '"' then some .weak
    else if c = Char.ofNat 39 then some .strong
    else some .complete
  | .escape, _ => some .complete
  | .complete, c =>
    if Text.isBlank c ∧ c ≠ '\n' ∧ c ≠ '\r' then some .space
    else if c = '\\' then some .escape
    else if c = '"' then some .weak
    else if c = Char.ofNat 39 then some .strong
    else some .complete
  | .weak, c =>
    if c = '\\' then some .weakEscape else if c = '"' then some .complete else some .weak
  | .weakEscape, _ => some .weak
  | .strong, c =>
    if c = '\\' then some .strongEscape
    else if c = Char.ofNat 39 then some .complete
    else some .strong
  | .strongEscape, _ => some .strong

/-- Goes through a physical line: the state at its end, or what stands before its comment. -/
def scanLine (done : List Char) : LineState → List Char → Except (List Char) LineState
  | s, [] => .ok s
  | s, c :: rest =>
    match s.next c with
    | none => .error done.reverse
    | some s => scanLine (c :: done) s rest

/-- The physical lines of a text, each with its line feed; `line` is the one begun, last first. -/
def physicalLines (line : List Char) : List Char → List (List Char)
  | [] => if line.isEmpty then [] else [line.reverse]
  | '\n' :: rest => ('\n' :: line).reverse :: physicalLines [] rest
  | c :: rest => physicalLines (c :: line) rest

/-- A line without its line feed, and without a carriage return before it. -/
def withoutLineFeed (line : List Char) : List Char :=
  match line.reverse with
  | '\n' :: '\r' :: rest => rest.reverse
  | '\n' :: rest => rest.reverse
  | _ => line

/-- The logical lines of physical ones; `text` and `state` belong to the line begun. None where the
last line is not complete. -/
def logicalLines? (text : List Char) (state : LineState) :
    List (List Char) → Option (List (List Char))
  | [] => if state = .complete then some [] else none
  | line :: rest =>
    let whole := text ++ line
    if (whole.dropWhile Text.isBlank).head? = some '#' then
      (logicalLines? [] .complete rest).map ([] :: ·)
    else
      match scanLine [] state line with
      | .error before => (logicalLines? [] .complete rest).map ((text ++ before) :: ·)
      | .ok .complete => (logicalLines? [] .complete rest).map (withoutLineFeed whole :: ·)
      | .ok s => logicalLines? whole s rest

/-- What an unquoted reference to a variable is in the middle of. -/
inductive Reference where
  | none
  /-- A name after a dollar sign, last character first. -/
  | plain (name : List Char)
  /-- A name between braces, last character first. -/
  | braced (name : List Char)
  deriving DecidableEq, Repr

/-- Where a value is being read. -/
structure ValueState where
  strong : Bool := false
  weak : Bool := false
  escaped : Bool := false
  ending : Bool := false
  reference : Reference := .none
  /-- What was read, last character first. -/
  output : List Char := []
  deriving Repr

/-- The value of a referred variable, empty where there is none. -/
def resolve (env : String → Option String) (name : List Char) : List Char :=
  ((env (String.ofList name.reverse)).getD "").toList

/-- What may stand after a backslash, and what it stands for. -/
def unescape? (c : Char) : Option Char :=
  if c = '\\' ∨ c = Char.ofNat 39 ∨ c = '"' ∨ c = '$' ∨ c = ' ' then some c
  else if c = 'n' then some '\n'
  else none

def ValueState.endReference (env : String → Option String) (s : ValueState) (name : List Char) :
    ValueState :=
  { s with reference := .none, output := (resolve env name).reverse ++ s.output }

/-- One character outside escapes, references and strong quotes. -/
def ValueState.plainStep (s : ValueState) (c : Char) : ValueState :=
  if c = '$' then { s with reference := .plain [] }
  else if s.weak then
    if c = '"' then { s with weak := false }
    else if c = '\\' then { s with escaped := true }
    else { s with output := c :: s.output }
  else if c = Char.ofNat 39 then { s with strong := true }
  else if c = '"' then { s with weak := true }
  else if c = '\\' then { s with escaped := true }
  else if c = ' ' ∨ c = '\t' then { s with ending := true }
  else { s with output := c :: s.output }

/-- One character within a reference. A name after a dollar sign ends before the first character
that is neither letter nor numeral, which then stands for itself. -/
def ValueState.referenceStep (env : String → Option String) (s : ValueState) (c : Char) :
    ValueState :=
  match s.reference with
  | .none => s
  | .plain name =>
    if Text.isAlphanumeric c then { s with reference := .plain (c :: name) }
    else if c = '\x7b' ∧ name = [] then { s with reference := .braced [] }
    else if c = '$' then { s.endReference env name with reference := .plain [] }
    else
      let s := s.endReference env name
      { s with output := c :: s.output }
  | .braced name =>
    if c = '\x7d' then s.endReference env name else { s with reference := .braced (c :: name) }

/-- The value where its text ends. A quote or a brace that is still open makes it malformed. -/
def ValueState.finish (env : String → Option String) (s : ValueState) : Option (List Char) :=
  if s.strong ∨ s.weak then none
  else
    match s.reference with
    | .none => some s.output.reverse
    | .plain name => some (s.endReference env name).output.reverse
    | .braced _ => none

def readValueFrom (env : String → Option String) (s : ValueState) :
    List Char → Option (List Char)
  | [] => s.finish env
  | c :: rest =>
    if s.ending then
      if c = ' ' ∨ c = '\t' then readValueFrom env s rest
      else if c = '#' then s.finish env
      else none
    else if s.escaped then
      match unescape? c with
      | none => none
      | some d => readValueFrom env { s with escaped := false, output := d :: s.output } rest
    else if s.strong then
      if c = Char.ofNat 39 then readValueFrom env { s with strong := false } rest
      else readValueFrom env { s with output := c :: s.output } rest
    else if s.reference ≠ .none then readValueFrom env (s.referenceStep env c) rest
    else readValueFrom env (s.plainStep c) rest

def readValue (env : String → Option String) (cs : List Char) : Option String :=
  (readValueFrom env {} cs).map String.ofList

def skip (cs : List Char) : List Char := cs.dropWhile Text.isBlank

/-- Reads a key: a letter or an underscore, then letters, digits, underscores and points. -/
def readKey : List Char → Option (List Char × List Char)
  | [] => none
  | c :: rest =>
    if c.isAlpha ∨ c = '_' then
      let inKey (d : Char) : Bool := d.isAlphanum || d == '_' || d == '.'
      some (c :: rest.takeWhile inKey, rest.dropWhile inKey)
    else none

def readEquals (cs : List Char) : Option (List Char) :=
  match skip cs with
  | '=' :: rest => some rest
  | _ => none

/-- The key of a line and what stands after the equals sign. The word `export` may stand before
the key, or be the key. -/
def readAssignment (cs : List Char) : Option (List Char × List Char) := do
  let (key, rest) ← readKey cs
  match readEquals rest with
  | some value => return (key, value)
  | none =>
    if String.ofList key = "export" then
      let (key, rest) ← readKey (skip rest)
      return (key, ← readEquals rest)
    else none

/-- The key and the value of a line, none where it is blank or a comment; no outer value where it
is malformed. -/
def readLine (env : String → Option String) (line : List Char) : Option (Option (String × String)) :=
  let cs := skip (line.reverse.dropWhile Text.isBlank).reverse
  if cs.isEmpty ∨ cs.head? = some '#' then some none
  else do
    let (key, rest) ← readAssignment cs
    let value := skip rest
    if value.isEmpty ∨ value.head? = some '#' then return some (String.ofList key, "")
    else return some (String.ofList key, ← readValue env value)

/-- The first value of a key. -/
def lookup (env : List (String × String)) (key : String) : Option String :=
  (env.find? fun p => p.1 = key).map (·.2)

/-- Adds the variables of lines to an environment in order; a variable that is there stays. -/
def addLines (env : List (String × String)) :
    List (List Char) → Option (List (String × String))
  | [] => some env
  | line :: rest =>
    match readLine (lookup env) line with
    | none => none
    | some none => addLines env rest
    | some (some (key, value)) =>
      addLines (if (lookup env key).isSome then env else env ++ [(key, value)]) rest

/-- A text without the byte order mark at its beginning. -/
def withoutMark : List Char → List Char
  | '\uFEFF' :: rest => rest
  | cs => cs

/-- The environment with the variables of a file added. -/
def load (env : List (String × String)) (text : String) :
    Except ConfigError (List (String × String)) :=
  match logicalLines? [] .complete (physicalLines [] (withoutMark text.toList)) with
  | none => .error .load
  | some lines =>
    match addLines env lines with
    | none => .error .load
    | some env => .ok env

end EnvFile

/-- The configuration from an environment and a file of further variables. -/
def AppConfig.ofEnvironment (env : List (String × String)) (file : Option String) :
    Except ConfigError AppConfig :=
  match file with
  | none => AppConfig.ofLookup (EnvFile.lookup env)
  | some text =>
    match EnvFile.load env text with
    | .error e => .error e
    | .ok env => AppConfig.ofLookup (EnvFile.lookup env)

end Weblog
