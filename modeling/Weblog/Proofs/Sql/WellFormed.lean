import Weblog.Proofs.Sql.Definition

/-!
# Weblog.Proofs.Sql.WellFormed

Which declarations have statements that a database can carry out.

* `Statements`: what is read of the statements of a model; `Statements.WellFormed`: no column is
  named twice, something is set, and every name is one that a database keeps.
* `TableDefinition.Declares`: a table with the columns that statements mention, each of them once.
* `wellFormed_iff`, `declares_iff`: for a declaration that was checked this asks for more than the
  check: for distinct columns, and for a field besides the key.
* `statements_of_build`: what holds of the statements of every declaration that is accepted.
-/

namespace Weblog
namespace Sql

/-- To how many octets a database cuts a name. -/
def nameLimit : Nat := 63

/-- A name that a database keeps as it is. -/
structure IsName (name : String) : Prop where
  nonempty : name ≠ ""
  no_null : Char.ofNat 0 ∉ name.toList
  short : name.utf8ByteSize ≤ nameLimit

instance (name : String) : Decidable (IsName name) :=
  decidable_of_iff (name ≠ "" ∧ Char.ofNat 0 ∉ name.toList ∧ name.utf8ByteSize ≤ nameLimit)
    ⟨fun h => ⟨h.1, h.2.1, h.2.2⟩, fun h => ⟨h.nonempty, h.no_null, h.short⟩⟩

/-- What is read of the statements of a model. -/
structure Statements where
  insertion : Insertion
  update : Update
  deletion : Deletion
  selection : Selection
  lookup : KeySelect
  deriving DecidableEq, Repr

namespace Statements

def conditions (q : Statements) : List Assignment :=
  [q.update.condition, q.deletion.condition, q.lookup.condition]

def tables (q : Statements) : List String :=
  [q.insertion.table, q.update.table, q.deletion.table, q.selection.table, q.lookup.selection.table]

def items (q : Statements) : List SelectItem := q.selection.items ++ q.lookup.selection.items

def columns (q : Statements) : List String :=
  q.insertion.columns ++ q.update.set.map Assignment.column ++
    q.conditions.map Assignment.column ++ q.items.map SelectItem.column

/-- The statements are well formed: all of them are about one table, an insert names no column twice
and has a value for each, an update sets something and no column twice, a condition is about a
column of the rows, and all names are kept. -/
structure WellFormed (q : Statements) : Prop where
  table : ∀ t ∈ q.tables, t = q.insertion.table
  insertsOnce : q.insertion.columns.Nodup
  paired : q.insertion.columns.length = q.insertion.markers.length
  sets : q.update.set ≠ []
  setsOnce : (q.update.set.map Assignment.column).Nodup
  conditions : ∀ c ∈ q.conditions, c.column ∈ q.insertion.columns
  names : ∀ name ∈ q.tables ++ q.columns ++ q.items.map SelectItem.label, IsName name

end Statements

namespace TableDefinition

def columnNames (t : TableDefinition) : List String := t.columns.map ColumnDefinition.name

/-- The table is the one that statements are about: it has the columns that they mention and no
others, none of them twice, and its key is one of them. -/
structure Declares (t : TableDefinition) (q : Statements) : Prop where
  table : t.table = q.insertion.table
  once : t.columnNames.Nodup
  columns : ∀ c, c ∈ t.columnNames ↔ c ∈ q.columns
  key : t.key ∈ t.columnNames
  names : ∀ name ∈ t.table :: t.columnNames, IsName name

end TableDefinition
end Sql

open Sql

/-- The statements of a model as they are read after their markers are numbered. -/
def Schema.statements? (s : Schema) : Option Statements := do
  return {
    insertion := ← Insertion.read? (native s.insertSql)
    update := ← Update.read? (native s.updateSql)
    deletion := ← Deletion.read? (native s.deleteSql)
    selection := ← Selection.read? (native s.selectSql)
    lookup := ← KeySelect.read? (native s.selectByKeySql) }

namespace Declaration

def columnNames (d : Declaration) : List String := d.fields.map Field.columnName

def HasNames (d : Declaration) : Prop :=
  ∀ name ∈ d.table.getD d.model :: (d.columnNames ++ d.fields.map Field.attr), IsName name

instance (d : Declaration) : Decidable d.HasNames := inferInstanceAs (Decidable (∀ _ ∈ _, _))

def HasOthers (d : Declaration) : Prop := ∃ f ∈ d.fields, f.isKey = false

instance (d : Declaration) : Decidable d.HasOthers := inferInstanceAs (Decidable (∃ _ ∈ _, _))

def written (d : Declaration) (s : Schema) (key : Field) : Statements where
  insertion := ⟨s.table, (d.writeFields key).map Field.columnName,
    List.range' 1 (d.writeFields key).length⟩
  update := ⟨s.table, (d.others.zipIdx 1).map fun x => ⟨x.1.columnName, x.2⟩,
    ⟨key.columnName, d.others.length + 1⟩⟩
  deletion := ⟨s.table, ⟨key.columnName, 1⟩⟩
  selection := ⟨Built.selected d key, s.table⟩
  lookup := ⟨⟨Built.selected d key, s.table⟩, ⟨key.columnName, 1⟩⟩

theorem others_ne_nil_iff {d : Declaration} : d.others ≠ [] ↔ d.HasOthers := by
  rw [others, ne_eq, List.filter_eq_nil_iff]
  simp [HasOthers]

namespace Built

variable {d : Declaration} {s : Schema} {key : Field}

theorem statements?_eq (hb : Built d s key) : s.statements? = some (d.written s key) := by
  unfold Schema.statements?
  simp only [hb.read?_insertSql, hb.read?_updateSql, hb.read?_deleteSql, hb.read?_selectSql,
    hb.read?_selectByKeySql]
  rfl

theorem writeColumns_perm (hb : Built d s key) :
    ((d.writeFields key).map Field.columnName).Perm d.columnNames :=
  hb.writeFields_perm.map _

theorem setColumns_eq (d : Declaration) (s : Schema) (key : Field) :
    (d.written s key).update.set.map Assignment.column = d.others.map Field.columnName := by
  have hcolumn : Assignment.column ∘ (fun x : Field × Nat => ⟨x.1.columnName, x.2⟩) =
      Field.columnName ∘ Prod.fst := rfl
  rw [written, List.map_map, hcolumn, ← List.map_map, List.zipIdx_map_fst]

theorem conditionColumns_eq (d : Declaration) (s : Schema) (key : Field) :
    ∀ c ∈ (d.written s key).conditions, c.column = key.columnName := by
  simp [Statements.conditions, written]

/-- What is the case for every field is the case for the items of the selects, and the other way
round. -/
theorem mem_map_items_iff (hb : Built d s key) {α : Type} (g : SelectItem → α) (x : α) :
    x ∈ (d.written s key).items.map g ↔ x ∈ d.fields.map fun f => g ⟨f.columnName, f.attr⟩ := by
  have hperm : (key :: d.others).Perm d.fields :=
    (List.perm_append_singleton key d.others).symm.trans hb.writeFields_perm
  have hitems : (d.written s key).items = selected d key ++ selected d key := rfl
  rw [hitems, List.map_append, List.mem_append, or_self, selected, List.map_map]
  exact (hperm.map _).mem_iff

theorem mem_columns_iff (hb : Built d s key) (c : String) :
    c ∈ (d.written s key).columns ↔ c ∈ d.columnNames := by
  rw [Statements.columns, List.mem_append, List.mem_append, List.mem_append, setColumns_eq]
  constructor
  -- Inserted, set, compared with, or selected.
  · rintro (((h | h) | h) | h)
    · exact hb.writeColumns_perm.mem_iff.1 h
    · exact ((List.filter_sublist (l := d.fields)).map _).subset h
    · obtain ⟨a, ha, rfl⟩ := List.mem_map.1 h
      rw [conditionColumns_eq d s key a ha]
      exact List.mem_map_of_mem hb.key_mem
    · exact (hb.mem_map_items_iff SelectItem.column c).1 h
  · exact fun h => .inr ((hb.mem_map_items_iff SelectItem.column c).2 h)

theorem names_iff (hb : Built d s key) :
    (∀ name ∈ (d.written s key).tables ++ (d.written s key).columns ++
      (d.written s key).items.map SelectItem.label, IsName name) ↔ d.HasNames := by
  have htables : ∀ name, name ∈ (d.written s key).tables ↔ name = d.table.getD d.model := by
    simp [Statements.tables, written, hb.table_eq]
  simp only [HasNames, List.mem_append, List.mem_cons, htables, hb.mem_columns_iff,
    hb.mem_map_items_iff SelectItem.label, or_assoc]

/-- The statements are well formed if and only if all names are kept, no two fields have one column,
and some field is not the key. -/
theorem wellFormed_iff (hb : Built d s key) :
    (d.written s key).WellFormed ↔ d.HasNames ∧ d.columnNames.Nodup ∧ d.HasOthers := by
  constructor
  · intro h
    refine ⟨hb.names_iff.1 h.names, hb.writeColumns_perm.nodup_iff.1 h.insertsOnce, ?_⟩
    rw [← others_ne_nil_iff]
    intro hnil
    exact h.sets (by simp [written, hnil])
  · rintro ⟨hnames, hcolumns, hothers⟩
    have hne : d.others ≠ [] := others_ne_nil_iff.2 hothers
    constructor
    case table => simp [Statements.tables, written]
    case insertsOnce => exact hb.writeColumns_perm.nodup_iff.2 hcolumns
    case paired => simp [written]
    case sets => simpa [written] using hne
    case setsOnce =>
      rw [setColumns_eq]
      exact hcolumns.sublist (List.filter_sublist.map _)
    case conditions =>
      intro c hc
      rw [conditionColumns_eq d s key c hc]
      exact hb.writeColumns_perm.mem_iff.2 (List.mem_map_of_mem hb.key_mem)
    case names => exact hb.names_iff.2 hnames

theorem declares_iff (hb : Built d s key) :
    (d.tableDefinition s key).Declares (d.written s key) ↔
      (∀ name ∈ d.table.getD d.model :: d.columnNames, IsName name) ∧ d.columnNames.Nodup := by
  have hnames : (d.tableDefinition s key).columnNames = d.columnNames := by
    simp [TableDefinition.columnNames, tableDefinition, columnNames, ColumnDefinition.ofField]
  have htable : (d.tableDefinition s key).table = d.table.getD d.model := hb.table_eq
  constructor
  · intro h
    refine ⟨?_, hnames ▸ h.once⟩
    rw [← htable, ← hnames]
    exact h.names
  · rintro ⟨hkept, hcolumns⟩
    constructor
    case table => rfl
    case once => rwa [hnames]
    case columns =>
      intro c
      rw [hnames, hb.mem_columns_iff]
    case key =>
      rw [hnames]
      exact List.mem_map_of_mem hb.key_mem
    case names => rwa [htable, hnames]

end Built

/-- The statements of every declaration that is accepted can be read: each condition is about the
column of the one key, and the columns that are mentioned are those of the fields. They are well
formed if and only if all names are kept, no two fields have one column, and some field is not the
key. Where the declared types are types of the database, the definition of the table can be read as
well: it lists the columns of the fields in order with the column of the key, and it is the table of
the statements if and only if the names are kept and no two fields have one column. -/
theorem statements_of_build {d : Declaration} {s : Schema} (h : d.build = .ok s) :
    ∃ key q, d.fields.filter Field.isKey = [key] ∧ s.statements? = some q ∧
      (∀ c ∈ q.conditions, c.column = key.columnName) ∧
      (∀ c, c ∈ q.columns ↔ c ∈ d.columnNames) ∧
      (q.WellFormed ↔ d.HasNames ∧ d.columnNames.Nodup ∧ d.HasOthers) ∧
      ∀ types : Types, (∀ f ∈ d.fields, types.Reads f.ddl) →
        ∃ t, TableDefinition.read? types s.createTableSql = some t ∧
          t.columnNames = d.columnNames ∧ t.key = key.columnName ∧
          (t.Declares q ↔
            (∀ name ∈ d.table.getD d.model :: d.columnNames, IsName name) ∧
              d.columnNames.Nodup) := by
  obtain ⟨key, hb⟩ := exists_built h
  refine ⟨key, d.written s key, hb.keys, hb.statements?_eq, Built.conditionColumns_eq d s key,
    hb.mem_columns_iff, hb.wellFormed_iff, ?_⟩
  intro types htypes
  exact ⟨d.tableDefinition s key, hb.read?_createTableSql htypes,
    by simp [TableDefinition.columnNames, tableDefinition, columnNames, ColumnDefinition.ofField],
    rfl, hb.declares_iff⟩

/-- A model with a column under another name than its attribute, and types of every form. -/
def remark : Declaration where
  model := "Remark"
  table := some "remarks"
  fields := [((Field.string "id").typed "VARCHAR(50)").primaryKey,
    (Field.string "author").named "user", Field.text "content", Field.float "created_at"]

theorem statements_of_build_remark : ∃ s q t, remark.build = .ok s ∧ s.statements? = some q ∧
    q.WellFormed ∧ TableDefinition.read? Types.common s.createTableSql = some t ∧ t.Declares q := by
  have htypes : ∀ f ∈ remark.fields, Types.common.Reads f.ddl := by decide +kernel
  have hnames : remark.HasNames := by decide +kernel
  have htable : ∀ name ∈ remark.table.getD remark.model :: remark.columnNames, IsName name := by
    decide +kernel
  have hcolumns : remark.columnNames.Nodup := by decide +kernel
  obtain ⟨key, q, -, hread, -, -, hwell, hdefinition⟩ :=
    statements_of_build (rfl : remark.build = .ok _)
  obtain ⟨t, ht, -, -, hdeclares⟩ := hdefinition Types.common htypes
  exact ⟨_, q, t, rfl, hread, hwell.2 ⟨hnames, hcolumns, by decide⟩, ht,
    hdeclares.2 ⟨htable, hcolumns⟩⟩

def bare : Declaration := ⟨"Tag", none, [(Field.integer "id").primaryKey]⟩

def doubled : Declaration :=
  ⟨"Note", some "notes", [(Field.string "id").primaryKey, Field.string "name",
    (Field.string "author").named "name"]⟩

/-- The update of a model with nothing but a key sets nothing, and where two attributes have one
column, it stands twice in the insert and in the definition of the table. Both are accepted. -/
theorem accepted_ill_formed :
    (∃ s q, bare.build = .ok s ∧ s.updateSql = "UPDATE \"Tag\" SET  WHERE \"id\" = ?" ∧
      s.statements? = some q ∧ q.update.set = [] ∧ ¬ q.WellFormed) ∧
    ∃ s q t, doubled.build = .ok s ∧ s.statements? = some q ∧
      q.insertion.columns = ["name", "name", "id"] ∧ ¬ q.WellFormed ∧
      TableDefinition.read? Types.common s.createTableSql = some t ∧
      t.columnNames = ["id", "name", "name"] ∧ ¬ t.Declares q := by
  refine ⟨?bare, ?doubled⟩
  case bare =>
    obtain ⟨key, hb⟩ := exists_built (rfl : bare.build = .ok _)
    have hothers : ¬ bare.HasOthers := by decide
    refine ⟨_, bare.written _ key, rfl, by decide +kernel, hb.statements?_eq, rfl, ?_⟩
    exact fun h => hothers (hb.wellFormed_iff.1 h).2.2
  case doubled =>
    obtain ⟨key, hb⟩ := exists_built (rfl : doubled.build = .ok _)
    have hcolumns : ¬ doubled.columnNames.Nodup := by decide +kernel
    have htypes : ∀ f ∈ doubled.fields, Types.common.Reads f.ddl := by decide +kernel
    obtain rfl : (Field.string "id").primaryKey = key := (List.cons.inj hb.keys).1
    refine ⟨_, doubled.written _ _, doubled.tableDefinition _ _, rfl, hb.statements?_eq, rfl, ?_,
      hb.read?_createTableSql htypes, rfl, ?_⟩
    · exact fun h => hcolumns (hb.wellFormed_iff.1 h).2.1
    · exact fun h => hcolumns (hb.declares_iff.1 h).2

end Declaration
end Weblog
