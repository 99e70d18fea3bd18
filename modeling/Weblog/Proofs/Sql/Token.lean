import Weblog.Sql.Placeholder

/-!
# Weblog.Proofs.Sql.Token

The tokens of a statement, as the database reads them.

* `Token`: a word, an identifier in double quotes, a literal in apostrophes, or a sign.
* `Token.scan?`: the tokens of a text. Within quotes a doubled quote stands for one, and every other
  character for itself.
* `scan?_append_delimiter`: a character that no token goes on with ends the tokens before it, so that
  the tokens of a statement are put together from those of its parts.
* `scan?_quotedChars`: an identifier is read back as the name it was written for, whatever the name.
-/

namespace Weblog
namespace Sql

/-- A token of a statement. -/
inductive Token where
  /-- A keyword, a plain name, a number or a numbered marker. -/
  | word (cs : List Char)
  /-- An identifier in double quotes, by the name it stands for. -/
  | name (cs : List Char)
  /-- A literal in apostrophes, by the text it stands for. -/
  | literal (cs : List Char)
  | sign (c : Char)
  deriving DecidableEq, Repr

/-- What quotes stand around. -/
inductive Quoting where
  | name
  | literal
  deriving DecidableEq, Repr

namespace Quoting

def mark : Quoting → Char
  | .name => '"'
  | .literal => apostrophe

def ofMark? (c : Char) : Option Quoting :=
  if c = '"' then some .name else if c = apostrophe then some .literal else none

/-- What quotes around a text make of it. -/
def token : Quoting → List Char → Token
  | .name, cs => .name cs
  | .literal, cs => .literal cs

end Quoting

namespace Token

def isWordChar (c : Char) : Bool := c.isAlphanum || c == '_' || c == '$'

/-- What the reader of a statement is within; what was passed of it, last character first. -/
inductive Within where
  | nothing
  | word (passed : List Char)
  | quotes (q : Quoting) (passed : List Char)
  /-- After a quote within quotes: their end, unless another quote follows. -/
  | closing (q : Quoting) (passed : List Char)
  deriving DecidableEq, Repr

/-- What the end of a text leaves: quotes that are open have no end. -/
def Within.finish? : Within → Option (List Token)
  | .nothing => some []
  | .word passed => some [.word passed.reverse]
  | .quotes _ _ => none
  | .closing q passed => some [q.token passed.reverse]

/-- A character between tokens: what the reader is within after it, and the tokens it ends. -/
def enter (c : Char) : Within × List Token :=
  match Quoting.ofMark? c with
  | some q => (.quotes q [], [])
  | none =>
    if isWordChar c then (.word [c], [])
    else if c.isWhitespace then (.nothing, [])
    else (.nothing, [.sign c])

def leave (t : Token) (c : Char) : Within × List Token := ((enter c).1, t :: (enter c).2)

/-- One character: what the reader is within after it, and the tokens it ends. -/
def step : Within → Char → Within × List Token
  | .nothing, c => enter c
  | .word passed, c =>
    if isWordChar c then (.word (c :: passed), []) else leave (.word passed.reverse) c
  | .quotes q passed, c =>
    if c = q.mark then (.closing q passed, []) else (.quotes q (c :: passed), [])
  | .closing q passed, c =>
    if c = q.mark then (.quotes q (c :: passed), []) else leave (q.token passed.reverse) c

def scanFrom : Within → List Char → Option (List Token)
  | w, [] => w.finish?
  | w, c :: rest => (scanFrom (step w c).1 rest).map ((step w c).2 ++ ·)

/-- The tokens of a text, if every quote has its end. -/
def scan? (cs : List Char) : Option (List Token) := scanFrom .nothing cs

/-- No token goes on with the character, and none begins with it. -/
def IsDelimiter (c : Char) : Prop := (enter c).1 = .nothing

instance (c : Char) : Decidable (IsDelimiter c) := inferInstanceAs (Decidable ((enter c).1 = .nothing))

/-- The token that a delimiter is: none where it is white space. -/
def signOf (c : Char) : List Token := (enter c).2

theorem IsDelimiter.not_mark {c : Char} (h : IsDelimiter c) (q : Quoting) : c ≠ q.mark := by
  rintro rfl
  revert h
  cases q <;> decide

theorem IsDelimiter.not_word {c : Char} (h : IsDelimiter c) : isWordChar c = false := by
  cases hw : isWordChar c with
  | false => rfl
  | true =>
    simp only [IsDelimiter, enter, hw, if_true] at h
    split at h <;> cases h

theorem step_delimiter {c : Char} (hc : IsDelimiter c) {w : Within} {ts : List Token}
    (h : w.finish? = some ts) : step w c = (.nothing, ts ++ signOf c) := by
  have hn : (enter c).1 = .nothing := hc
  cases w with
  | nothing =>
    cases h
    rw [step, List.nil_append, signOf, ← hn]
  | word passed =>
    cases h
    rw [step, if_neg (by simp [hc.not_word]), leave, hn]
    rfl
  | quotes q passed => cases h
  | closing q passed =>
    cases h
    rw [step, if_neg (hc.not_mark q), leave, hn]
    rfl

theorem scanFrom_append_delimiter {c : Char} (hc : IsDelimiter c) {w : Within} {x : List Char}
    {ts : List Token} (h : scanFrom w x = some ts) (rest : List Char) :
    scanFrom w (x ++ c :: rest) = (scan? rest).map fun us => ts ++ (signOf c ++ us) := by
  induction x generalizing w ts with
  | nil =>
    rw [List.nil_append, scanFrom, step_delimiter hc h, scan?]
    simp only [List.append_assoc]
  | cons d x ih =>
    obtain ⟨us, hus, rfl⟩ := Option.map_eq_some_iff.1 h
    rw [List.cons_append, scanFrom, ih hus, Option.map_map]
    congr 1
    funext vs
    simp

theorem scan?_append_delimiter {c : Char} (hc : IsDelimiter c) {x rest : List Char}
    {ts us : List Token} (hx : scan? x = some ts) (hrest : scan? rest = some us) :
    scan? (x ++ c :: rest) = some (ts ++ (signOf c ++ us)) := by
  rw [scan?, scanFrom_append_delimiter hc hx, hrest]
  rfl

theorem scan?_nil : scan? [] = some [] := rfl

theorem scan?_delimiter {c : Char} (hc : IsDelimiter c) {rest : List Char} {us : List Token}
    (hrest : scan? rest = some us) : scan? (c :: rest) = some (signOf c ++ us) :=
  scan?_append_delimiter hc scan?_nil hrest

theorem scanFrom_word {passed w : List Char} (h : ∀ c ∈ w, isWordChar c = true) :
    scanFrom (.word passed) w = some [.word (passed.reverse ++ w)] := by
  induction w generalizing passed with
  | nil => simp [scanFrom, Within.finish?]
  | cons c w ih =>
    have hc : isWordChar c = true := h c List.mem_cons_self
    rw [scanFrom, step, if_pos hc, ih fun d hd => h d (List.mem_cons_of_mem c hd)]
    simp

theorem ofMark?_of_isWordChar {c : Char} (h : isWordChar c = true) : Quoting.ofMark? c = none := by
  have hq : c ≠ '"' := by
    rintro rfl
    exact absurd h (by decide)
  have ha : c ≠ apostrophe := by
    rintro rfl
    exact absurd h (by decide)
  rw [Quoting.ofMark?, if_neg hq, if_neg ha]

theorem scan?_word {w : List Char} (hne : w ≠ []) (h : ∀ c ∈ w, isWordChar c = true) :
    scan? w = some [.word w] := by
  cases w with
  | nil => exact absurd rfl hne
  | cons c w =>
    have hc : isWordChar c = true := h c List.mem_cons_self
    have henter : enter c = (.word [c], []) := by
      rw [enter, ofMark?_of_isWordChar hc]
      exact if_pos hc
    rw [scan?, scanFrom, step, henter, scanFrom_word fun d hd => h d (List.mem_cons_of_mem c hd)]
    rfl

/-- Within quotes every character of a name stands for itself, a doubled quote for one. -/
theorem scanFrom_quoted (passed cs : List Char) :
    scanFrom (.quotes .name passed)
        (cs.flatMap (fun c => if c = '"' then ['"', '"'] else [c]) ++ ['"']) =
      some [.name (passed.reverse ++ cs)] := by
  induction cs generalizing passed with
  | nil => simp [scanFrom, step, Quoting.mark, Within.finish?, Quoting.token]
  | cons c cs ih =>
    by_cases hc : c = '"'
    · subst hc
      simp only [List.flatMap_cons, if_true, List.cons_append, List.nil_append, scanFrom, step,
        Quoting.mark, ih]
      simp
    · simp only [List.flatMap_cons, hc, if_false, List.cons_append, List.nil_append, scanFrom, step,
        Quoting.mark, ih]
      simp

/-- An identifier is read back as the name it was written for. -/
theorem scan?_quotedChars (cs : List Char) : scan? (quotedChars cs) = some [.name cs] := by
  have henter : enter '"' = (.quotes .name [], []) := by decide
  rw [scan?, quotedChars, scanFrom, step, henter, scanFrom_quoted]
  rfl

theorem isWordChar_of_isDigit {c : Char} (h : c.isDigit = true) : isWordChar c = true := by
  simp [isWordChar, Char.isAlphanum, h]

/-- White space: it ends a token and is none itself. -/
def isGap (c : Char) : Bool := decide (IsDelimiter c) && (signOf c).isEmpty

theorem scan?_blanks (blanks : List Char) (hblanks : blanks.all isGap = true) {rest : List Char}
    {us : List Token} (hrest : scan? rest = some us) : scan? (blanks ++ rest) = some us := by
  induction blanks with
  | nil => exact hrest
  | cons c blanks ih =>
    rw [List.all_cons, Bool.and_eq_true] at hblanks
    obtain ⟨hc, hsign⟩ : IsDelimiter c ∧ signOf c = [] := by simpa [isGap] using hblanks.1
    have hscan := scan?_delimiter hc (ih hblanks.2)
    rwa [hsign, List.nil_append] at hscan

/-- Texts with a comma and blanks between them are read as their tokens with commas between
them. -/
theorem scan?_separated (blanks : List Char) (hblanks : blanks.all isGap = true) {α : Type}
    {text : α → List Char} {tokens : α → List Token} {xs : List α}
    (h : ∀ x ∈ xs, scan? (text x) = some (tokens x)) :
    scan? ((',' :: blanks).intercalate (xs.map text)) =
      some ([Token.sign ','].intercalate (xs.map tokens)) := by
  induction xs with
  | nil => rfl
  | cons x rest ih =>
    have hx := h x List.mem_cons_self
    cases rest with
    | nil => simpa using hx
    | cons y rest =>
      have hrest := ih fun z hz => h z (List.mem_cons_of_mem x hz)
      have hnext := scan?_blanks blanks hblanks hrest
      simp only [List.map_cons, List.intercalate_cons_cons, List.append_assoc, List.cons_append,
        List.nil_append] at hnext ⊢
      exact scan?_append_delimiter (c := ',') (by decide) hx hnext

theorem scan?_intercalate {α : Type} {text : α → List Char} {tokens : α → List Token} {xs : List α}
    (h : ∀ x ∈ xs, scan? (text x) = some (tokens x)) :
    scan? ([',', ' '].intercalate (xs.map text)) =
      some ([Token.sign ','].intercalate (xs.map tokens)) :=
  scan?_separated [' '] (by decide) h

end Token
end Sql
end Weblog
