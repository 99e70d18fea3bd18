import Weblog.Text.Numeral

/-!
# Weblog.Sql.Placeholder

Quoting identifiers and numbering markers.

* `quoted`: a name as an identifier in double quotes.
* `markers`: neutral markers `?` for a list of arguments.
* `native`: a text with its neutral markers numbered `$1`, `$2`, … from left to right. Markers
  inside quotes of either kind stay as they are.
-/

namespace Weblog
namespace Sql

/-- An identifier in double quotes; a quote inside it is written twice. -/
def quotedChars (cs : List Char) : List Char :=
  '"' :: (cs.flatMap (fun c => if c = '"' then ['"', '"'] else [c]) ++ ['"'])

/-- An identifier in double quotes; a quote inside it is written twice. -/
def quoted (name : String) : String := String.ofList (quotedChars name.toList)

/-- Texts with a comma and a space between them. -/
def commaSeparated (items : List String) : String := ", ".intercalate items

/-- So many neutral markers. -/
def markers (count : Nat) : String := commaSeparated (List.replicate count "?")

def apostrophe : Char := Char.ofNat 39

/-- The quote that is open after a character, given the one that was open before it. -/
def quoteAfter (opened : Option Char) (c : Char) : Option Char :=
  match opened with
  | none => if c = apostrophe ∨ c = '"' then some c else none
  | some q => if q = c then none else some q

/-- Numbers the markers outside quotes, from `count + 1` on. -/
def renumber (opened : Option Char) (count : Nat) : List Char → List Char
  | [] => []
  | c :: rest =>
    if opened = none ∧ c = '?' then
      '$' :: (Text.digits (count + 1) ++ renumber none (count + 1) rest)
    else c :: renumber (quoteAfter opened c) count rest

/-- A text with its neutral markers numbered. -/
def native (sql : String) : String := String.ofList (renumber none 0 sql.toList)

/-- The quote that is open at the end of a text. -/
def openAfter (opened : Option Char) (cs : List Char) : Option Char :=
  cs.foldl quoteAfter opened

/-- How many markers outside quotes a text has. -/
def markerCount (opened : Option Char) : List Char → Nat
  | [] => 0
  | c :: rest =>
    if opened = none ∧ c = '?' then markerCount none rest + 1
    else markerCount (quoteAfter opened c) rest

theorem quoteAfter_question : quoteAfter none '?' = none := by decide

theorem renumber_append (opened : Option Char) (count : Nat) (xs ys : List Char) :
    renumber opened count (xs ++ ys) =
      renumber opened count xs ++
        renumber (openAfter opened xs) (count + markerCount opened xs) ys := by
  induction xs generalizing opened count with
  | nil => simp [renumber, openAfter, markerCount]
  | cons c rest ih =>
    simp only [List.cons_append, renumber, markerCount, openAfter, List.foldl_cons]
    by_cases h : opened = none ∧ c = '?'
    · obtain ⟨rfl, rfl⟩ := h
      simp only [and_self, if_true, quoteAfter_question, ih, openAfter, List.cons_append,
        List.append_assoc]
      simp only [Nat.add_assoc, Nat.add_comm 1]
    · simp only [if_neg h, ih, openAfter, List.cons_append]

end Sql
end Weblog
