import Weblog.Proofs.Sql.Native
import Weblog.Proofs.Text.Numeral
import Weblog.Sql.FindAll

/-!
# Weblog.Proofs.Sql.Markers

The markers that the database finds in a text, and the texts of a model.

* `numbers`: the numbers of the markers outside quotes.
* `Quiet`: a part in which there are none, before and after markers are numbered.
* `Marks`: a text that is put together from quiet parts and so many neutral markers;
  `numbers_native`: as it is sent, its markers are numbered from one on.
* `Schema.templates`: the texts of a model; `numbers_templates`: each of them has the markers of its
  arguments, whatever the names of the model are.
-/

namespace Weblog
namespace Sql

/-- The numbers of the markers outside quotes, in their order; a marker without a number counts as
zero. -/
def numbers (opened : Option Char) : List Char → List Nat
  | [] => []
  | c :: rest =>
    if opened = none ∧ c = '$' then
      (Text.nat? (rest.takeWhile Char.isDigit)).getD 0 :: numbers none rest
    else numbers (quoteAfter opened c) rest

theorem numbers_append_of_nil {opened : Option Char} {xs : List Char}
    (h : numbers opened xs = []) (ys : List Char) :
    numbers opened (xs ++ ys) = numbers (openAfter opened xs) ys := by
  induction xs generalizing opened with
  | nil => rfl
  | cons c xs ih =>
    rw [numbers] at h
    by_cases hc : opened = none ∧ c = '$'
    · rw [if_pos hc] at h
      cases h
    · rw [if_neg hc] at h
      rw [List.cons_append, numbers, if_neg hc, ih h]
      rfl

/-- A part without markers, neutral or numbered, that ends outside quotes. -/
structure Quiet (xs : List Char) : Prop where
  inert : Inert xs
  unnumbered : numbers none xs = []

instance (xs : List Char) : Decidable (Quiet xs) :=
  decidable_of_iff (Inert xs ∧ numbers none xs = [])
    ⟨fun h => ⟨h.1, h.2⟩, fun h => ⟨h.inert, h.unnumbered⟩⟩

theorem Quiet.numbers_append {xs : List Char} (h : Quiet xs) (ys : List Char) :
    numbers none (xs ++ ys) = numbers none ys := by
  rw [numbers_append_of_nil h.unnumbered, h.inert.closed]

theorem Quiet.append {xs ys : List Char} (hx : Quiet xs) (hy : Quiet ys) : Quiet (xs ++ ys) where
  inert := hx.inert.append hy.inert
  unnumbered := by rw [hx.numbers_append, hy.unnumbered]

theorem quiet_intercalate {sep : List Char} {items : List (List Char)} (hsep : Quiet sep)
    (h : ∀ x ∈ items, Quiet x) : Quiet (sep.intercalate items) := by
  induction items with
  | nil => exact ⟨⟨rfl, rfl⟩, rfl⟩
  | cons x rest ih =>
    have hx := h x List.mem_cons_self
    have hrest := ih fun y hy => h y (List.mem_cons_of_mem x hy)
    cases rest with
    | nil => simpa using hx
    | cons y rest =>
      rw [List.intercalate_cons_cons]
      exact (hx.append hsep).append hrest

/-- Within double quotes a name has no marker. -/
theorem numbers_doubled (cs : List Char) :
    numbers (some '"') (cs.flatMap fun c => if c = '"' then ['"', '"'] else [c]) = [] := by
  induction cs with
  | nil => rfl
  | cons c cs ih =>
    by_cases h : c = '"'
    · subst h
      simpa [numbers, quoteAfter] using ih
    · have hq : ¬ '"' = c := Ne.symm h
      simpa [numbers, quoteAfter, h, hq] using ih

/-- An identifier is quiet, whatever characters its name has. -/
theorem quiet_quotedChars (cs : List Char) : Quiet (quotedChars cs) where
  inert := inert_quotedChars cs
  unnumbered := by
    have hopen : numbers none ['"'] = [] := by decide
    have hopened : openAfter none ['"'] = some '"' := by decide
    have hsplit : quotedChars cs = ['"'] ++
        (cs.flatMap (fun c => if c = '"' then ['"', '"'] else [c]) ++ ['"']) := rfl
    rw [hsplit, numbers_append_of_nil hopen, hopened, numbers_append_of_nil (numbers_doubled cs),
      openAfter_doubled (q := '"') (by decide)]
    decide

theorem quiet_digit {c : Char} (h : c.isDigit = true) : Quiet [c] := by
  have hne : ∀ d : Char, d.isDigit = false → c ≠ d := by
    rintro d hd rfl
    rw [hd] at h
    cases h
  have hopen : quoteAfter none c = none :=
    if_neg (not_or.2 ⟨hne apostrophe (by decide), hne '"' (by decide)⟩)
  refine ⟨⟨hopen, ?_⟩, ?_⟩
  · rw [markerCount, if_neg (by simp [hne '?' (by decide)])]
    rfl
  · rw [numbers, if_neg (by simp [hne '$' (by decide)])]
    rfl

theorem quiet_digits {ds : List Char} (h : ∀ c ∈ ds, c.isDigit = true) : Quiet ds := by
  induction ds with
  | nil => exact ⟨⟨rfl, rfl⟩, rfl⟩
  | cons c ds ih =>
    exact (quiet_digit (h c List.mem_cons_self)).append
      (ih fun d hd => h d (List.mem_cons_of_mem c hd))

/-- No digit begins a text, so that none is taken for one of the number before it. -/
def Apart (xs : List Char) : Prop := xs.head?.any Char.isDigit = false

/-- A text out of quiet parts and so many neutral markers. -/
inductive Marks : List Char → Nat → Prop where
  | nil : Marks [] 0
  | quiet {xs ys : List Char} {n : Nat} : Quiet xs → Marks ys n → Marks (xs ++ ys) n
  | mark {ys : List Char} {n : Nat} : Apart ys → Marks ys n → Marks ('?' :: ys) (n + 1)

theorem Apart.takeWhile_append {ds ys : List Char} (h : Apart ys)
    (hds : ∀ c ∈ ds, c.isDigit = true) : (ds ++ ys).takeWhile Char.isDigit = ds := by
  have hnone : ys.takeWhile Char.isDigit = [] := by
    cases ys with
    | nil => rfl
    | cons c ys => exact List.takeWhile_cons_of_neg (by simpa [Apart] using h)
  rw [List.takeWhile_append_of_pos hds, hnone, List.append_nil]

theorem Apart.renumber {ys : List Char} (h : Apart ys) (count : Nat) :
    Apart (renumber none count ys) := by
  cases ys with
  | nil => exact h
  | cons c ys =>
    rw [Sql.renumber]
    split
    · exact (by decide : ('$' : Char).isDigit = false)
    · exact h

/-- A number is read back where the text goes on with no digit. -/
theorem numbers_numberedMarker (k : Nat) {ys : List Char} (h : Apart ys) :
    numbers none (numberedMarker k ++ ys) = k :: numbers none ys := by
  have hdigits : ∀ c ∈ Text.digits k, c.isDigit = true := fun _ hc => Text.isDigit_of_mem_digits hc
  rw [numberedMarker, List.cons_append, numbers, if_pos ⟨rfl, rfl⟩, h.takeWhile_append hdigits,
    Text.nat?_digits, (quiet_digits hdigits).numbers_append]
  rfl

theorem numbers_renumber {xs : List Char} {n : Nat} (h : Marks xs n) (count : Nat) :
    numbers none (renumber none count xs) = List.range' (count + 1) n := by
  induction h generalizing count with
  | nil => rfl
  | quiet hx _ ih => rw [renumber_inert hx.inert, hx.numbers_append, ih]
  | @mark ys n hapart _ ih =>
    have hmark : renumber none count ('?' :: ys) =
        numberedMarker (count + 1) ++ renumber none (count + 1) ys := by
      rw [renumber, if_pos ⟨rfl, rfl⟩]
      rfl
    rw [hmark, numbers_numberedMarker _ (hapart.renumber _), ih, List.range'_succ]

/-- The markers of a text are numbered from one on as it is sent. -/
theorem numbers_native {sql : String} {n : Nat} (h : Marks sql.toList n) :
    numbers none (native sql).toList = List.range' 1 n := by
  rw [toList_native, numbers_renumber h]

theorem marks_alone : Marks ['?'] 1 := .mark rfl .nil

theorem Quiet.marks {xs : List Char} (h : Quiet xs) : Marks xs 0 := by
  rw [← List.append_nil xs]
  exact .quiet h .nil

/-- Quiet parts that end in one marker each, with commas between them. -/
theorem marks_intercalate {parts : List (List Char)} (hparts : ∀ x ∈ parts, Quiet x)
    {ys : List Char} {n : Nat} (hapart : Apart ys) (hys : Marks ys n) :
    Marks ([',', ' '].intercalate (parts.map (· ++ ['?'])) ++ ys) (n + parts.length) := by
  induction parts with
  | nil => exact hys
  | cons x rest ih =>
    have hx := hparts x List.mem_cons_self
    have hrest := ih fun y hy => hparts y (List.mem_cons_of_mem x hy)
    cases rest with
    | nil => simpa using Marks.quiet hx (.mark hapart hys)
    | cons y rest =>
      have hcomma : Quiet [',', ' '] := by decide
      have hmarks := Marks.quiet hx (.mark (by rfl) (.quiet hcomma hrest))
      simpa [List.intercalate_cons_cons, Nat.add_assoc] using hmarks

theorem marks_markers (count : Nat) {ys : List Char} {n : Nat} (hapart : Apart ys)
    (hys : Marks ys n) : Marks ((markers count).toList ++ ys) (n + count) := by
  have hparts : ∀ x ∈ List.replicate count ([] : List Char), Quiet x := by
    intro x hx
    rw [List.eq_of_mem_replicate hx]
    decide
  have hmarks := marks_intercalate hparts hapart hys
  rw [List.map_replicate, List.length_replicate] at hmarks
  rw [markers, toList_commaSeparated, List.map_replicate]
  exact hmarks

theorem quiet_quoted (name : String) : Quiet (quoted name).toList := by
  rw [toList_quoted]
  exact quiet_quotedChars _

theorem quiet_commaSeparated {items : List String} (h : ∀ item ∈ items, Quiet item.toList) :
    Quiet (commaSeparated items).toList := by
  have hcomma : Quiet [',', ' '] := by decide
  rw [toList_commaSeparated]
  exact quiet_intercalate hcomma (List.forall_mem_map.2 h)

end Sql

namespace Schema

open Sql

variable (s : Schema)

/-- The texts of a model with neutral markers, each with the number of its arguments: a select, a
select by the key, an insert, an update, a delete, the number of all rows, the rows with an e-mail
address, and a page of the rows from the newest on or from the oldest. -/
def templates : List (String × Nat) :=
  [(s.selectSql, 0), (s.selectByKeySql, 1), (s.insertSql, s.writeOrder.length),
    (s.updateSql, s.writeOrder.length), (s.deleteSql, 1), (s.numberSql "COUNT(id)" none, 0),
    (s.selectSql ++ " WHERE email = ?", 1),
    (s.selectSql ++ " ORDER BY created_at DESC LIMIT ? OFFSET ?", 2),
    (s.selectSql ++ " ORDER BY created_at LIMIT ? OFFSET ?", 2)]

theorem quiet_columnOf (attr : String) : Quiet (s.columnOf attr).toList := quiet_quoted _

theorem quiet_selectItem (attr : String) : Quiet (s.selectItem attr).toList := by
  have has : Quiet " AS ".toList := by decide
  unfold selectItem
  split
  · split
    · rw [String.toList_append, String.toList_append]
      exact ((quiet_quoted _).append has).append (quiet_quoted _)
    · exact quiet_quoted _
  · exact quiet_quoted _

theorem quiet_selectSql : Quiet s.selectSql.toList := by
  have hselect : Quiet "SELECT ".toList := by decide
  have hfrom : Quiet " FROM ".toList := by decide
  have hitems : Quiet (commaSeparated ((s.key :: s.attrs).map s.selectItem)).toList :=
    quiet_commaSeparated (List.forall_mem_map.2 fun attr _ => s.quiet_selectItem attr)
  simp only [selectSql, quotedTable, String.toList_append]
  exact ((hselect.append hitems).append hfrom).append (quiet_quoted _)

theorem marks_keyCondition : Marks s.keyCondition.toList 1 := by
  rw [keyCondition, String.toList_append]
  have hequals : Quiet " = ".toList := by decide
  exact .quiet (s.quiet_columnOf _) (.quiet hequals marks_alone)

theorem marks_insertSql : Marks s.insertSql.toList s.writeOrder.length := by
  have hinsert : Quiet "INSERT INTO ".toList := by decide
  have hopen : Quiet " (".toList := by decide
  have hvalues : Quiet ") VALUES (".toList := by decide
  have hclose : Quiet ")".toList := by decide
  have hcolumns : Quiet (commaSeparated (s.writeOrder.map s.columnOf)).toList :=
    quiet_commaSeparated (List.forall_mem_map.2 fun attr _ => s.quiet_columnOf attr)
  have hapart : Apart ")".toList := rfl
  have hmarkers := marks_markers s.writeOrder.length hapart hclose.marks
  rw [Nat.zero_add] at hmarkers
  have hlead := (((hinsert.append (quiet_quoted s.table)).append hopen).append hcolumns).append
    hvalues
  have hmarks := Marks.quiet hlead hmarkers
  unfold insertSql quotedTable
  rw [String.toList_append, String.toList_append, String.toList_append, String.toList_append,
    String.toList_append, String.toList_append, List.append_assoc _ _ ")".toList]
  exact hmarks

theorem marks_updateSql : Marks s.updateSql.toList s.writeOrder.length := by
  have hupdate : Quiet "UPDATE ".toList := by decide
  have hset : Quiet " SET ".toList := by decide
  have hwhere : Quiet " WHERE ".toList := by decide
  have hequals : Quiet " = ".toList := by decide
  have hparts : ∀ x ∈ s.attrs.map fun attr => (s.columnOf attr).toList ++ " = ".toList, Quiet x :=
    List.forall_mem_map.2 fun attr _ => (s.quiet_columnOf attr).append hequals
  have hitems : (s.attrs.map fun attr => s.columnOf attr ++ " = ?").map String.toList =
      (s.attrs.map fun attr => (s.columnOf attr).toList ++ " = ".toList).map (· ++ ['?']) := by
    rw [List.map_map, List.map_map]
    refine List.map_congr_left fun attr _ => ?_
    simp only [Function.comp_apply, String.toList_append, List.append_assoc]
    rfl
  have hcondition := Marks.quiet hwhere s.marks_keyCondition
  have hapart : Apart (" WHERE ".toList ++ s.keyCondition.toList) := rfl
  have hassignments := marks_intercalate hparts hapart hcondition
  have hlength : 1 + (s.attrs.map fun attr => (s.columnOf attr).toList ++ " = ".toList).length =
      s.writeOrder.length := by
    rw [writeOrder, List.length_map, List.length_append, List.length_singleton, Nat.add_comm]
  rw [hlength, ← hitems, ← toList_commaSeparated] at hassignments
  have hlead := (hupdate.append (quiet_quoted s.table)).append hset
  have hmarks := Marks.quiet hlead hassignments
  unfold updateSql quotedTable
  rw [String.toList_append, String.toList_append, String.toList_append, String.toList_append,
    String.toList_append, List.append_assoc _ _ s.keyCondition.toList, List.append_assoc]
  exact hmarks

theorem marks_deleteSql : Marks s.deleteSql.toList 1 := by
  have hdelete : Quiet "DELETE FROM ".toList := by decide
  have hwhere : Quiet " WHERE ".toList := by decide
  unfold deleteSql quotedTable
  rw [String.toList_append, String.toList_append, String.toList_append]
  exact .quiet ((hdelete.append (quiet_quoted _)).append hwhere) s.marks_keyCondition

/-- Clauses after a select of all rows. -/
theorem marks_select {clauses : String} {n : Nat} (h : Marks clauses.toList n) :
    Marks (s.selectSql ++ clauses).toList n := by
  rw [String.toList_append]
  exact .quiet s.quiet_selectSql h

theorem marks_page (order : String) (h : Quiet order.toList) :
    Marks (" ORDER BY " ++ order ++ " LIMIT ? OFFSET ?").toList 2 := by
  have horder : Quiet " ORDER BY ".toList := by decide
  have hlimit : Quiet " LIMIT ".toList := by decide
  have hoffset : Quiet " OFFSET ".toList := by decide
  have hapart : Apart (" OFFSET ".toList ++ ['?']) := rfl
  have hend := Marks.quiet hlimit (.mark hapart (.quiet hoffset marks_alone))
  simp only [String.toList_append]
  exact .quiet (horder.append h) hend

theorem marks_templates : ∀ t ∈ s.templates, Marks t.1.toList t.2 := by
  have hkey : Marks s.selectByKeySql.toList 1 := by
    have hwhere : Quiet " WHERE ".toList := by decide
    have hcondition := Marks.quiet hwhere s.marks_keyCondition
    rw [← String.toList_append] at hcondition
    rw [selectByKeySql, String.append_assoc]
    exact s.marks_select hcondition
  have hnumber : Marks (s.numberSql "COUNT(id)" none).toList 0 := by
    have hlead : Quiet ("SELECT " ++ "COUNT(id)" ++ " AS " ++ numberLabel ++ " FROM ").toList := by
      decide
    have hnone : clause " WHERE " none = "" := rfl
    rw [numberSql, hnone, String.append_empty, String.toList_append]
    exact (hlead.append (quiet_quoted _)).marks
  have hemail : Marks " WHERE email = ?".toList 1 := by
    have hlead : Quiet " WHERE email = ".toList := by decide
    exact .quiet hlead marks_alone
  simp only [templates, List.forall_mem_cons]
  exact ⟨s.quiet_selectSql.marks, hkey, s.marks_insertSql, s.marks_updateSql, s.marks_deleteSql,
    hnumber, s.marks_select hemail,
    s.marks_select (marks_page "created_at DESC" (by decide)),
    s.marks_select (marks_page "created_at" (by decide)), List.forall_mem_nil _⟩

/-- Whatever the names of a model are, each of its texts is sent with the markers of its
arguments. -/
theorem numbers_templates : ∀ t ∈ s.templates,
    numbers none (native t.1).toList = List.range' 1 t.2 :=
  fun t ht => numbers_native (s.marks_templates t ht)

end Schema
end Weblog
