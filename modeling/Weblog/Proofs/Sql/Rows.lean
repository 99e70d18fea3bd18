import Weblog.Proofs.Sql.Kind
import Weblog.Proofs.Sql.Reading

/-!
# Weblog.Proofs.Sql.Rows

What statements do with the stored rows of a table.

* `Tuple`: a stored row. `Tuple.Meets`, `Tuple.assign`: the condition on it, and its new values.
* `KeySelect.found?`: what a select with a condition makes of the rows.
* `Alters`: what an update or a deletion makes of all rows; no select does (`Alters.not_isSelect`).
* `Follows`, `Preserves`: good rows stay good ones, and no key comes back.
-/

namespace Weblog

/-- The JSON value that is read where a value is stored. -/
def Bound.toJson : Bound → Json
  | .null => .null
  | .bool b => .bool b
  | .int i => .ofInt i
  | .float x => .ofFloat x
  | .text s => .string s
  | .json v => v

namespace Sql

theorem exists_of_mem_mapM {α β : Type} {f : α → Option β} {xs : List α} {ys : List β}
    (h : xs.mapM f = some ys) {y : β} (hy : y ∈ ys) : ∃ x ∈ xs, f x = some y := by
  induction xs generalizing ys with
  | nil =>
    cases h
    cases hy
  | cons x xs ih =>
    rw [List.mapM_cons] at h
    obtain ⟨z, hz, h⟩ := Option.bind_eq_some_iff.1 h
    obtain ⟨zs, hzs, h⟩ := Option.bind_eq_some_iff.1 h
    cases h
    rcases List.mem_cons.1 hy with rfl | hy
    · exact ⟨x, List.mem_cons_self, hz⟩
    · obtain ⟨x', hx', hy⟩ := ih hzs hy
      exact ⟨x', List.mem_cons_of_mem x hx', hy⟩

/-- A stored row: its columns with their values. -/
abbrev Tuple : Type := List (String × Bound)

namespace Tuple

/-- A row has a value in a column. Nothing is equal to a missing value. -/
def Meets (row : Tuple) (p : String × Bound) : Prop := p.2 ≠ .null ∧ row.lookup p.1 = some p.2

instance (row : Tuple) (p : String × Bound) : Decidable (row.Meets p) :=
  inferInstanceAs (Decidable (_ ∧ _))

/-- The row with new values in some of its columns. -/
def assign (row values : Tuple) : Tuple := row.map fun c => (c.1, (values.lookup c.1).getD c.2)

theorem lookup_assign {row values : Tuple} {column : String} (h : values.lookup column = none) :
    (row.assign values).lookup column = row.lookup column := by
  induction row with
  | nil => rfl
  | cons c row ih =>
    rw [assign, List.map_cons, List.lookup_cons, List.lookup_cons]
    by_cases hc : column = c.1
    · rw [← hc, h, beq_self_eq_true]
      rfl
    · rw [beq_false_of_ne hc]
      exact ih

end Tuple

namespace KeySelect

/-- What is found among rows: those that meet the condition, as they are selected. -/
def found? (q : KeySelect) (args : List Bound) (rows : List Tuple) : Option (List Fields) := do
  let key ← q.condition.value? args
  (rows.filter (·.Meets key)).mapM fun row =>
    (q.selection.project? row).map fun t => Fields.ofList (t.map fun c => (c.1, c.2.toJson))

/-- What is found is one of the rows, and it meets the condition. -/
theorem exists_of_mem_found? {q : KeySelect} {args : List Bound} {rows : List Tuple}
    {found : List Fields} {fs : Fields} (h : q.found? args rows = some found) (hfs : fs ∈ found) :
    ∃ key row t, q.condition.value? args = some key ∧ row ∈ rows ∧ row.Meets key ∧
      q.selection.project? row = some t ∧
      fs = Fields.ofList (t.map fun c => (c.1, c.2.toJson)) := by
  obtain ⟨key, hkey, hfound⟩ := Option.bind_eq_some_iff.1 h
  obtain ⟨row, hrow, hselected⟩ := exists_of_mem_mapM hfound hfs
  obtain ⟨t, ht, rfl⟩ := Option.map_eq_some_iff.1 hselected
  obtain ⟨hmem, hmeets⟩ := List.mem_filter.1 hrow
  exact ⟨key, row, t, hkey, hmem, of_decide_eq_true hmeets, ht, rfl⟩

end KeySelect

/-- A statement that changes the rows of a table, and what it makes of them. -/
inductive Alters (st : Statement) (table : String) : (List Tuple → List Tuple) → Prop
  | update {u : Update} {values : Tuple} {key : String × Bound} :
      Update.read? st.sql = some u → u.table = table →
      u.assigned? st.args = some values → u.matched? st.args = some key →
      Alters st table (List.map fun row => if row.Meets key then row.assign values else row)
  | delete {d : Deletion} {key : String × Bound} :
      Deletion.read? st.sql = some d → d.table = table → d.matched? st.args = some key →
      Alters st table (List.filter fun row => ¬ row.Meets key)

/-- A statement that begins with a word is not read as one that begins with another. -/
theorem bind_scan?_eq_none {β : Type} {read : List Token → Option β} (word : String)
    (hne : word.toList ≠ []) (hword : word.toList.all Token.isWordChar = true)
    (hread : ∀ rest, read (.keyword word :: rest) = none) {cs : List Char}
    (h : word.toList ++ [' '] <+: cs) : (Token.scan? cs).bind read = none := by
  obtain ⟨rest, rfl⟩ := h
  rw [List.append_assoc, List.singleton_append, Token.scan?, Token.scanFrom_append_delimiter
    (by decide) (Token.scan?_word hne (List.all_eq_true.1 hword))]
  cases Token.scan? rest with
  | none => rfl
  | some us => exact hread _

theorem Deletion.read?_of_update {st : Statement} {table : String} (h : st.Changes .update table) :
    read? st.sql = none :=
  bind_scan?_eq_none "UPDATE" (by decide) (by decide) (fun _ => rfl) h.lead_prefix

theorem Update.read?_of_delete {st : Statement} {table : String} (h : st.Changes .delete table) :
    read? st.sql = none := by
  have hlead : "DELETE".toList ++ [' '] <+: Change.delete.lead.toList := by decide
  exact bind_scan?_eq_none "DELETE" (by decide) (by decide) (fun _ => rfl) (hlead.trans h.lead_prefix)

theorem Alters.not_isSelect {st : Statement} {table : String} {f : List Tuple → List Tuple}
    (h : Alters st table f) : ¬ st.IsSelect := by
  intro hselect
  cases h with
  | update hread _ _ _ =>
    have hnone : Update.read? st.sql = none :=
      bind_scan?_eq_none "SELECT" (by decide) (by decide) (fun _ => rfl) hselect
    rw [hnone] at hread
    cases hread
  | delete hread _ _ =>
    have hnone : Deletion.read? st.sql = none :=
      bind_scan?_eq_none "SELECT" (by decide) (by decide) (fun _ => rfl) hselect
    rw [hnone] at hread
    cases hread

/-- From rows to later ones: good rows stay good, and every key was there before, in the same
order and no more often. -/
structure Follows (good : Tuple → Prop) (key : String) (rows rows' : List Tuple) : Prop where
  good : (∀ row ∈ rows, good row) → ∀ row ∈ rows', good row
  keys : (rows'.map fun row => row.lookup key).Sublist (rows.map fun row => row.lookup key)

def Preserves (good : Tuple → Prop) (key : String) (f : List Tuple → List Tuple) : Prop :=
  ∀ rows, Follows good key rows (f rows)

variable {good : Tuple → Prop} {key : String} {rows rows' rows'' : List Tuple}
  {f g : List Tuple → List Tuple}

theorem Follows.refl (good : Tuple → Prop) (key : String) (rows : List Tuple) :
    Follows good key rows rows := ⟨id, .refl _⟩

theorem Follows.trans (h : Follows good key rows rows') (h' : Follows good key rows' rows'') :
    Follows good key rows rows'' := ⟨h'.good ∘ h.good, h'.keys.trans h.keys⟩

theorem Preserves.id : Preserves good key id := .refl good key

theorem Preserves.comp (hf : Preserves good key f) (hg : Preserves good key g) :
    Preserves good key (f ∘ g) := fun rows => (hg rows).trans (hf (g rows))

theorem preserves_update {p : String × Bound} {values : Tuple} (hkey : values.lookup key = none)
    (h : ∀ row : Tuple, good row → row.Meets p → good (row.assign values)) :
    Preserves good key (List.map fun row => if row.Meets p then row.assign values else row) := by
  intro rows
  constructor
  · intro hgood row hrow
    obtain ⟨old, hold, rfl⟩ := List.mem_map.1 hrow
    split
    · rename_i hmeets
      exact h old (hgood old hold) hmeets
    · exact hgood old hold
  · have hsame : ∀ row : Tuple, (if row.Meets p then row.assign values else row).lookup key =
        row.lookup key := by
      intro row
      split
      · exact Tuple.lookup_assign hkey
      · rfl
    rw [List.map_map]
    exact (List.map_congr_left fun row _ => hsame row) ▸ .refl _

theorem preserves_filter (p : Tuple → Bool) : Preserves good key (List.filter p) := fun _ =>
  ⟨fun h row hrow => h row ((List.mem_filter.1 hrow).1), List.filter_sublist.map _⟩

end Sql
end Weblog
