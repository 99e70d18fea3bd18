import Weblog.Proofs.Sql.Native
import Weblog.Sql.FindAll
import Weblog.Store.Database

/-!
# Weblog.Proofs.Sql.Kind

What a statement does, by the words it begins with.

* `Statement.IsSelect`, `Statement.IsChange`: it reads, or it inserts, updates or deletes rows.
* `Statement.Changes`: it changes one table in one way; no statement changes two (`Changes.unique`).
* `changes_insertSql`, `changes_updateSql`, `changes_deleteSql`, `isSelect_selectSql`: the kinds of
  the statements of a model, whatever the name of its table.
-/

namespace Weblog

namespace Sql

theorem prefix_native {xs : List Char} {sql : String} (hinert : Inert xs) (h : xs <+: sql.toList) :
    xs <+: (native sql).toList := by
  obtain ⟨rest, hrest⟩ := h
  rw [toList_native, ← hrest, renumber_inert hinert]
  exact List.prefix_append xs _

/-- Where a space follows an identifier, it is known which name it was written for. -/
theorem eq_of_quotedChars_append {cs ds xs ys : List Char}
    (h : quotedChars cs ++ ' ' :: xs = quotedChars ds ++ ' ' :: ys) : cs = ds := by
  have hspace : (' ' : Char) ≠ '"' := by decide
  simp only [quotedChars, List.cons_append, List.append_assoc, List.nil_append] at h
  injection h with _ h
  induction cs generalizing ds with
  | nil =>
    cases ds with
    | nil => rfl
    | cons d ds =>
      by_cases hd : d = '"'
      · simp [hd, hspace] at h
      · simp [hd, Ne.symm hd] at h
  | cons c cs ih =>
    cases ds with
    | nil =>
      by_cases hc : c = '"'
      · simp [hc, hspace.symm] at h
      · simp [hc] at h
    | cons d ds =>
      by_cases hc : c = '"' <;> by_cases hd : d = '"'
      · simp only [List.flatMap_cons, hc, hd, if_true, List.cons_append, List.nil_append,
          List.cons.injEq, true_and] at h
        rw [hc, hd, ih h]
      · simp [hc, hd, Ne.symm hd] at h
      · simp [hc, hd] at h
      · simp only [List.flatMap_cons, hc, hd, if_false, List.cons_append, List.nil_append,
          List.cons.injEq] at h
        rw [h.1, ih h.2]

end Sql

/-- How a statement changes a table. -/
inductive Change where
  | insert
  | update
  | delete
  deriving DecidableEq, Repr

/-- What a change begins with. -/
def Change.lead : Change → String
  | .insert => "INSERT INTO "
  | .update => "UPDATE "
  | .delete => "DELETE FROM "

/-- The character that a change begins with. -/
def Change.initial : Change → Char
  | .insert => 'I'
  | .update => 'U'
  | .delete => 'D'

theorem Change.head?_lead (c : Change) : c.lead.toList.head? = some c.initial := by
  cases c <;> rfl

theorem Change.inert_lead (c : Change) : Sql.Inert c.lead.toList := by
  cases c <;> decide

/-- What a change of a table begins with. -/
def Change.opening (c : Change) (table : String) : List Char :=
  c.lead.toList ++ (Sql.quotedChars table.toList ++ [' '])

theorem Change.inert_opening (c : Change) (table : String) : Sql.Inert (c.opening table) :=
  c.inert_lead.append ((Sql.inert_quotedChars _).append (by decide))

def TransactionControl.statement (t : TransactionControl) : Statement := ⟨t.sql, []⟩

namespace Statement

def IsSelect (st : Statement) : Prop := "SELECT ".toList <+: st.sql.toList

def IsChange (st : Statement) : Prop := ∃ c : Change, c.lead.toList <+: st.sql.toList

/-- The statement changes a table in a way. -/
def Changes (st : Statement) (c : Change) (table : String) : Prop :=
  c.opening table <+: st.sql.toList

instance (st : Statement) : Decidable st.IsSelect :=
  inferInstanceAs (Decidable ("SELECT ".toList <+: st.sql.toList))

instance (st : Statement) (c : Change) (table : String) : Decidable (st.Changes c table) :=
  inferInstanceAs (Decidable (c.opening table <+: st.sql.toList))

variable {st : Statement} {c d : Change} {table other : String}

theorem Changes.lead_prefix (h : st.Changes c table) : c.lead.toList <+: st.sql.toList :=
  (List.prefix_append _ _).trans h

theorem Changes.isChange (h : st.Changes c table) : st.IsChange := ⟨c, h.lead_prefix⟩

theorem head?_of_lead (h : c.lead.toList <+: st.sql.toList) :
    st.sql.toList.head? = some c.initial := by
  obtain ⟨rest, hrest⟩ := h
  rw [← hrest, List.head?_append, c.head?_lead]
  rfl

theorem Changes.unique (h : st.Changes c table) (h' : st.Changes d other) :
    c = d ∧ table = other := by
  have hinitial := (head?_of_lead h.lead_prefix).symm.trans (head?_of_lead h'.lead_prefix)
  obtain rfl : c = d := by
    cases c <;> cases d <;> first | rfl | exact absurd hinitial (by decide)
  obtain ⟨xs, hxs⟩ := h
  obtain ⟨ys, hys⟩ := h'
  have htext := hxs.trans hys.symm
  simp only [Change.opening, List.append_assoc, List.append_cancel_left_eq, List.singleton_append]
    at htext
  exact ⟨rfl, String.toList_inj.1 (Sql.eq_of_quotedChars_append htext)⟩

theorem IsSelect.head? (h : st.IsSelect) : st.sql.toList.head? = some 'S' := by
  obtain ⟨rest, hrest⟩ := h
  rw [← hrest]
  rfl

theorem IsSelect.not_isChange (h : st.IsSelect) : ¬ st.IsChange := by
  rintro ⟨c, hc⟩
  have hinitial := h.head?.symm.trans (head?_of_lead hc)
  cases c <;> exact absurd hinitial (by decide)

theorem not_isChange_control (t : TransactionControl) : ¬ t.statement.IsChange := by
  rintro ⟨c, hc⟩
  have hinitial := head?_of_lead hc
  cases c <;> cases t <;> exact absurd hinitial (by decide)

end Statement

namespace Schema

variable (s : Schema) (args : List Json)

theorem isSelect_selectSql (clauses : String) :
    (Database.statement (s.selectSql ++ clauses) args).IsSelect := by
  refine Sql.prefix_native (by decide) ?_
  unfold selectSql
  simp only [String.toList_append, List.append_assoc]
  exact List.prefix_append _ _

theorem isSelect_selectByKeySql : (Database.statement s.selectByKeySql args).IsSelect := by
  rw [selectByKeySql, String.append_assoc]
  exact s.isSelect_selectSql args _

theorem isSelect_numberSql (expr : String) (filter : Option String) :
    (Database.statement (s.numberSql expr filter) args).IsSelect := by
  refine Sql.prefix_native (by decide) ?_
  unfold numberSql
  simp only [String.toList_append, List.append_assoc]
  exact List.prefix_append _ _

theorem isSelect_query (q : FindAll) :
    (Database.statement (q.query s).sql (q.query s).params).IsSelect := by
  simp only [FindAll.query, String.append_assoc]
  exact s.isSelect_selectSql _ _

/-- Of what begins with a change, the name of the table and a space it is known what it does. -/
theorem changes_of_toList {c : Change} {sql : String}
    (h : ∃ rest, sql.toList = c.lead.toList ++ (s.quotedTable.toList ++ ' ' :: rest)) :
    (Database.statement sql args).Changes c s.table := by
  obtain ⟨rest, hrest⟩ := h
  refine Sql.prefix_native (c.inert_opening s.table) ?_
  rw [hrest, quotedTable, Sql.toList_quoted]
  exact (List.prefix_append_right_inj _).2 ((List.prefix_append_right_inj _).2 ⟨rest, rfl⟩)

theorem changes_insertSql : (Database.statement s.insertSql args).Changes .insert s.table := by
  refine s.changes_of_toList args ?_
  unfold insertSql
  simp only [String.toList_append, List.append_assoc]
  exact ⟨_, rfl⟩

theorem changes_updateSql : (Database.statement s.updateSql args).Changes .update s.table := by
  refine s.changes_of_toList args ?_
  unfold updateSql
  simp only [String.toList_append, List.append_assoc]
  exact ⟨_, rfl⟩

theorem changes_deleteSql : (Database.statement s.deleteSql args).Changes .delete s.table := by
  refine s.changes_of_toList args ?_
  unfold deleteSql
  simp only [String.toList_append, List.append_assoc]
  exact ⟨_, rfl⟩

end Schema
end Weblog
