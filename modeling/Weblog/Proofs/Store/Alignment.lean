import Weblog.Proofs.Sql.Written
import Weblog.Proofs.Store.Record

/-!
# Weblog.Proofs.Store.Alignment

The writes and the reads of a model agree on which value stands in which column.

* `mapM_argument?`: markers numbered along a list of fields take the arguments of these fields.
* `lookup_columnName`: in a row with distinct columns a column finds the value written under it.
* `write_read_alignment`: what an insert writes, what an update writes and matches, and what a
  select makes of the row of an insert.
-/

namespace Weblog
namespace Sql

theorem argument?_append {α : Type} (before after : List α) (a : α) :
    argument? (before ++ a :: after) (before.length + 1) = some a := by
  rw [argument?, List.getElem?_append_right (Nat.le_refl _), Nat.sub_self]
  rfl

/-- Markers numbered along fields, from the number of the arguments before theirs on, take the
arguments of these fields. -/
theorem mapM_argument? {α : Type} (value : Field → α) (before after : List α)
    (fields : List Field) :
    (fields.zipIdx (before.length + 1)).mapM (fun x =>
        (argument? (before ++ (fields.map value ++ after)) x.2).map (x.1.columnName, ·)) =
      some (fields.map fun f => (f.columnName, value f)) := by
  induction fields generalizing before with
  | nil => rfl
  | cons f rest ih =>
    have hrest := ih (before ++ [value f])
    rw [List.length_append, List.length_singleton, List.append_assoc] at hrest
    rw [List.zipIdx_cons, List.mapM_cons, List.map_cons, List.cons_append,
      argument?_append, Option.map_some, Option.bind_eq_bind, Option.bind_some]
    rw [List.singleton_append] at hrest
    rw [hrest]
    rfl

/-- The row that an insert writes when the fields have their columns and markers in it. -/
theorem Insertion.row?_fields {α : Type} (table : String) (fields : List Field)
    (value : Field → α) :
    Insertion.row? ⟨table, fields.map Field.columnName, List.range' 1 fields.length⟩
        (fields.map value) =
      some (fields.map fun f => (f.columnName, value f)) := by
  have hzip : (fields.map Field.columnName).zip (List.range' 1 fields.length) =
      (fields.zipIdx 1).map fun x => (x.1.columnName, x.2) := by
    rw [List.zipIdx_eq_zip_range', List.zip_map_left]
    rfl
  have hargs := mapM_argument? value [] [] fields
  rw [List.append_nil, List.nil_append, List.length_nil] at hargs
  rw [Insertion.row?, if_pos (by simp), hzip, List.mapM_map]
  exact hargs

/-- The values that an update writes when the fields have their markers in it. -/
theorem Update.assigned?_fields {α : Type} (table : String) (fields : List Field)
    (condition : Assignment) (value : Field → α) (after : List α) :
    Update.assigned? ⟨table, (fields.zipIdx 1).map fun x => ⟨x.1.columnName, x.2⟩, condition⟩
        (fields.map value ++ after) =
      some (fields.map fun f => (f.columnName, value f)) := by
  rw [Update.assigned?, List.mapM_map]
  exact mapM_argument? value [] after fields

/-- In a row with distinct columns a column finds the value written under it. -/
theorem lookup_columnName {α : Type} {fields : List Field}
    (hcolumns : (fields.map Field.columnName).Nodup) (value : Field → α) {f : Field}
    (hf : f ∈ fields) :
    (fields.map fun g => (g.columnName, value g)).lookup f.columnName = some (value f) := by
  induction fields with
  | nil => cases hf
  | cons g rest ih =>
    rw [List.map_cons, List.nodup_cons] at hcolumns
    rw [List.map_cons, List.lookup_cons]
    rcases List.mem_cons.1 hf with rfl | hf
    · rw [beq_self_eq_true]
    · have hne : f.columnName ≠ g.columnName := by
        intro he
        exact hcolumns.1 (he ▸ List.mem_map_of_mem hf)
      rw [beq_false_of_ne hne]
      exact ih hcolumns.2 hf

/-- The row that a select makes of one that holds the columns of its fields. -/
theorem Selection.project?_fields {α : Type} (table : String) {selected written : List Field}
    (hcolumns : (written.map Field.columnName).Nodup) (hsub : ∀ f ∈ selected, f ∈ written)
    (value : Field → α) :
    Selection.project? ⟨selected.map fun f => ⟨f.columnName, f.attr⟩, table⟩
        (written.map fun f => (f.columnName, value f)) =
      some (selected.map fun f => (f.attr, value f)) := by
  rw [Selection.project?, List.mapM_map]
  refine mapM_eq_some ?_
  intro f hf
  simp only [Function.comp_apply]
  rw [lookup_columnName hcolumns value (hsub f hf)]
  rfl

end Sql

/-- For every declaration that is accepted and whose columns are distinct, whatever its names are:
an insert pairs every column with the argument of its own attribute, an update does so too and
matches the key last, and a select makes of the row of an insert the values that the record has
after it, under the declared attributes. -/
theorem write_read_alignment {d : Declaration} {s : Schema} (hbuild : d.build = .ok s)
    (hcolumns : (d.fields.map Field.columnName).Nodup) :
    ∃ (key : Field) (others : List Field) (ins : Sql.Insertion) (upd : Sql.Update)
        (sel : Sql.Selection),
      (key :: others).Perm d.fields ∧ key.isKey = true ∧ (∀ f ∈ others, f.isKey = false) ∧
      Sql.Insertion.read? (Sql.native s.insertSql) = some ins ∧
      Sql.Update.read? (Sql.native s.updateSql) = some upd ∧
      Sql.Selection.read? (Sql.native s.selectSql) = some sel ∧
      ins.table = s.table ∧ upd.table = s.table ∧ sel.table = s.table ∧
      ins.columns = (others ++ [key]).map Field.columnName ∧
      ins.markers = List.range' 1 d.fields.length ∧
      upd.set.map Sql.Assignment.column = others.map Field.columnName ∧
      upd.condition.column = key.columnName ∧
      upd.set.map Sql.Assignment.marker ++ [upd.condition.marker] =
        List.range' 1 d.fields.length ∧
      (∀ (r r' : Record) (es : List Exchange) (out : Except StoreError (List Json)),
        r.schema = s → Action.Runs r.insertArgs es (out, r') →
        ∃ args row, out = .ok args ∧ args.length = d.fields.length ∧
          args = (others ++ [key]).map (fun f => r'.value f.attr) ∧
          ins.row? args = some row ∧
          row = (others ++ [key]).map (fun f => (f.columnName, r'.value f.attr)) ∧
          sel.project? row = some ((key :: others).map fun f => (f.attr, r'.value f.attr))) ∧
      (∀ r : Record, r.schema = s →
        r.updateArgs.length = d.fields.length ∧
        upd.assigned? r.updateArgs =
          some (others.map fun f => (f.columnName, r.value f.attr)) ∧
        upd.matched? r.updateArgs = some (key.columnName, r.value key.attr)) := by
  obtain ⟨key, hb⟩ := Declaration.exists_built hbuild
  have hperm := hb.writeFields_perm
  have hlength : (d.writeFields key).length = d.fields.length := hperm.length_eq
  have hwritten : ((d.writeFields key).map Field.columnName).Nodup :=
    (hperm.map Field.columnName).nodup_iff.2 hcolumns
  have hcount : d.others.length + 1 = d.fields.length := by
    rw [← hlength, Declaration.writeFields, List.length_append, List.length_singleton]
  refine ⟨key, d.others, _, _, _, ?perm, ?isKey, ?others, hb.read?_insertSql, hb.read?_updateSql,
    hb.read?_selectSql, rfl, rfl, rfl, rfl, ?markers, ?set, rfl, ?numbers, ?insert, ?update⟩
  case perm =>
    exact (List.perm_append_singleton key d.others).symm.trans hperm
  case isKey =>
    have hmem : key ∈ d.fields.filter Field.isKey := hb.keys ▸ List.mem_singleton_self key
    exact (List.mem_filter.1 hmem).2
  case others =>
    intro f hf
    simpa using (List.mem_filter.1 hf).2
  case markers =>
    rw [hlength]
  case set =>
    rw [List.map_map]
    calc (d.others.zipIdx 1).map (Field.columnName ∘ Prod.fst)
        = ((d.others.zipIdx 1).map Prod.fst).map Field.columnName := List.map_map.symm
      _ = d.others.map Field.columnName := by rw [List.zipIdx_map_fst]
  case numbers =>
    have hset : ((d.others.zipIdx 1).map fun x => (⟨x.1.columnName, x.2⟩ : Sql.Assignment)).map
        Sql.Assignment.marker = List.range' 1 d.others.length := by
      rw [List.map_map]
      exact List.zipIdx_map_snd 1 d.others
    rw [hset, ← hcount, List.range'_concat]
    simp [Nat.add_comm]
  case insert =>
    intro r r' es out hs hrun
    have hout := (Record.settled_of_runs_insertArgs hb hs hrun).yields
    rw [hb.writeOrder_eq, List.map_map] at hout
    refine ⟨_, _, hout, ?_, rfl, Sql.Insertion.row?_fields s.table (d.writeFields key) _, rfl, ?_⟩
    · rw [List.length_map, hlength]
    · refine Sql.Selection.project?_fields s.table hwritten ?_ _
      intro f hf
      exact (List.perm_append_singleton key d.others).mem_iff.2 hf
  case update =>
    intro r hs
    have hargs : r.updateArgs =
        d.others.map (fun f => r.value f.attr) ++ [r.value key.attr] := by
      rw [Record.updateArgs, hs, hb.writeOrder_eq, List.map_map, Declaration.writeFields,
        List.map_append]
      rfl
    refine ⟨?_, ?_, ?_⟩
    · rw [hargs, List.length_append, List.length_map, List.length_singleton, hcount]
    · rw [hargs]
      exact Sql.Update.assigned?_fields s.table d.others _ _ _
    · have hlast := Sql.argument?_append (d.others.map fun f => r.value f.attr) []
        (r.value key.attr)
      rw [List.length_map] at hlast
      rw [hargs, Sql.Update.matched?, Sql.Assignment.value?, hlast]
      rfl

/-- A model whose names hold quotes, markers, separators and parentheses. -/
def awkwardModel : Declaration where
  model := "it's"
  table := some "a \"?\" table"
  fields :=
    [((Field.string "id?").named "a\", \"b").primaryKey,
      (Field.boolean "done)").named "id?",
      (Field.text "$1").generatedBy (Action.perform (.draw "text"))]

def awkwardSchema : Schema where
  name := "it's"
  table := "a \"?\" table"
  key := "id?"
  attrs := ["done)", "$1"]
  declared := awkwardModel.fields

theorem write_read_alignment_awkwardModel :
    awkwardModel.build = .ok awkwardSchema ∧
      ∃ (ins : Sql.Insertion) (sel : Sql.Selection) (row read : Fields),
        Sql.Insertion.read? (Sql.native awkwardSchema.insertSql) = some ins ∧
        Sql.Selection.read? (Sql.native awkwardSchema.selectSql) = some sel ∧
        ins.row? [.bool false, .string "drawn", .string "key"] = some row ∧
        sel.project? row = some read ∧
        ("id?", .string "key") ∈ read ∧ ("done)", .bool false) ∈ read ∧
        ("$1", .string "drawn") ∈ read := by
  have hbuild : awkwardModel.build = .ok awkwardSchema := rfl
  obtain ⟨key, others, ins, upd, sel, hperm, -, -, hins, -, hsel, -, -, -, -, -, -, -, -, hinsert,
    -⟩ := write_read_alignment hbuild (by decide)
  let r : Record := ⟨awkwardSchema, [("id?", .string "key")]⟩
  let r' : Record := (r.set "done)" (.bool false)).set "$1" (.string "drawn")
  have hrun : Action.Runs r.insertArgs [⟨.draw "text", .string "drawn"⟩]
      (.ok [.bool false, .string "drawn", .string "key"], r') := by
    exact .ask .done
  obtain ⟨args, row, hok, -, -, hrow, -, hread⟩ := hinsert r r' _ _ rfl hrun
  cases hok
  have hmem : ∀ f ∈ awkwardModel.fields, (f.attr, r'.value f.attr) ∈
      (key :: others).map fun f => (f.attr, r'.value f.attr) := by
    intro f hf
    exact List.mem_map_of_mem (hperm.mem_iff.2 hf)
  refine ⟨hbuild, ins, sel, row, _, hins, hsel, hrow, hread, ?_, ?_, ?_⟩
  · exact hmem _ List.mem_cons_self
  · exact hmem _ (List.mem_cons_of_mem _ List.mem_cons_self)
  · exact hmem _ (List.mem_cons_of_mem _ (List.mem_cons_of_mem _ List.mem_cons_self))

end Weblog
