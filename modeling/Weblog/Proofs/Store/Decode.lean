import Mathlib.Data.List.Forall2
import Mathlib.Data.List.Nodup
import Weblog.Proofs.Json.Fields
import Weblog.Proofs.Number.Bounded
import Weblog.Store.Decode

/-!
# Weblog.Proofs.Store.Decode

Results that are decoded completely or not at all, where their columns have labels of their own.

* `mapM_eq_ok_iff`, `mapM_eq_error_iff`: a list is gone through as a whole, or up to the first error.
* `Column.Holds`, `Column.Fault`: what a cell holds, or what is wrong with it, by the type of its
  column alone. `holds_whole`: whole decimals are integers, whatever zeros stand behind their point.
* `Row.Becomes`, `Row.Broken`: the fields of a row, or its first fault in the order of the columns;
  `decode_eq_ok_iff`, `decode_eq_error_iff`: one of them is what becomes of a row.
* `ResultSet.taken`, `ResultSet.Broken`: the rows that a limit leaves, and the first fault among them;
  `ResultSet.decode_eq_ok_iff`, `ResultSet.decode_eq_error_iff`: the same of all rows.
-/

namespace Weblog

section MapM

variable {ε α β : Type} {f : α → Except ε β} {xs : List α}

/-- A list is gone through without an error if each of its members is. -/
theorem mapM_eq_ok_iff {ys : List β} :
    xs.mapM f = .ok ys ↔ List.Forall₂ (fun x y => f x = .ok y) xs ys := by
  induction xs generalizing ys with
  | nil =>
    cases ys with
    | nil => exact ⟨fun _ => .nil, fun _ => rfl⟩
    | cons y ys => exact ⟨nofun, nofun⟩
  | cons x xs ih =>
    rw [List.mapM_cons]
    cases hx : f x with
    | error e =>
      refine ⟨nofun, fun h => ?_⟩
      cases h with
      | cons hy _ =>
        rw [hx] at hy
        cases hy
    | ok y =>
      cases hxs : xs.mapM f with
      | error e =>
        refine ⟨nofun, fun h => ?_⟩
        cases h with
        | cons _ hys =>
          rw [← ih, hxs] at hys
          cases hys
      | ok zs =>
        constructor
        · intro h
          cases h
          exact .cons hx (ih.1 hxs)
        · intro h
          cases h with
          | cons hy hys =>
            rw [hx] at hy
            rw [← ih, hxs] at hys
            cases hy
            cases hys
            rfl

/-- Its error is that of the first member that has one. -/
theorem mapM_eq_error_iff {e : ε} :
    xs.mapM f = .error e ↔ ∃ before x after, xs = before ++ x :: after ∧
      (∀ y ∈ before, ∃ b, f y = .ok b) ∧ f x = .error e := by
  induction xs with
  | nil => exact ⟨nofun, fun ⟨before, x, after, h, _⟩ => absurd h.symm (by simp)⟩
  | cons x xs ih =>
    rw [List.mapM_cons]
    cases hx : f x with
    | error d =>
      constructor
      · intro h
        cases h
        exact ⟨[], x, xs, rfl, nofun, hx⟩
      · rintro ⟨before, y, after, hsplit, hbefore, hy⟩
        cases before with
        | nil =>
          obtain ⟨rfl, -⟩ := List.cons.inj hsplit
          rw [hx] at hy
          cases hy
          rfl
        | cons z before =>
          obtain ⟨rfl, -⟩ := List.cons.inj hsplit
          obtain ⟨b, hb⟩ := hbefore x List.mem_cons_self
          rw [hx] at hb
          cases hb
    | ok b =>
      have hrest : (do let bs ← xs.mapM f; pure (b :: bs) : Except ε (List β)) = .error e ↔
          xs.mapM f = .error e := by
        cases xs.mapM f with
        | error d => exact ⟨fun h => by cases h; rfl, fun h => by cases h; rfl⟩
        | ok bs => exact ⟨nofun, nofun⟩
      refine hrest.trans (ih.trans ⟨?_, ?_⟩)
      · rintro ⟨before, y, after, rfl, hbefore, hy⟩
        refine ⟨x :: before, y, after, rfl, ?_, hy⟩
        intro z hz
        rcases List.mem_cons.1 hz with rfl | hz
        · exact ⟨b, hx⟩
        · exact hbefore z hz
      · rintro ⟨before, y, after, hsplit, hbefore, hy⟩
        cases before with
        | nil =>
          obtain ⟨rfl, -⟩ := List.cons.inj hsplit
          rw [hx] at hy
          cases hy
        | cons z before =>
          obtain ⟨-, rfl⟩ := List.cons.inj hsplit
          exact ⟨before, y, after, rfl, fun w hw => hbefore w (List.mem_cons_of_mem z hw), hy⟩

/-- There is an error exactly if some member has one. -/
theorem exists_mapM_eq_error_iff :
    (∃ e, xs.mapM f = .error e) ↔ ∃ x ∈ xs, ∃ e, f x = .error e := by
  constructor
  · rintro ⟨e, h⟩
    obtain ⟨before, x, after, rfl, -, hx⟩ := mapM_eq_error_iff.1 h
    exact ⟨x, List.mem_append_right before List.mem_cons_self, e, hx⟩
  · rintro ⟨x, hx, e, he⟩
    cases h : xs.mapM f with
    | error d => exact ⟨d, rfl⟩
    | ok ys =>
      obtain ⟨i, hi, rfl⟩ := List.getElem_of_mem hx
      have hall := mapM_eq_ok_iff.1 h
      cases he.symm.trans (hall.get hi (hall.length_eq ▸ hi))

theorem mapM_congr {g : α → Except ε β} (h : ∀ x ∈ xs, f x = g x) : xs.mapM f = xs.mapM g := by
  induction xs with
  | nil => rfl
  | cons x xs ih =>
    rw [List.mapM_cons, List.mapM_cons, h x List.mem_cons_self,
      ih fun y hy => h y (List.mem_cons_of_mem x hy)]

end MapM

/-- The cells of a type can be decoded. -/
def ColumnType.Supported (t : ColumnType) : Prop := ∀ name, t ≠ .other name

namespace Column

/-- What a cell holds under a column. -/
inductive Holds (column : Column) : Cell → Json → Prop
  | missing : column.type.Supported → Holds column .null .null
  | value {cell : Cell} {v : Json} :
      column.type.Supported → cell.value? column.type = some v → Holds column cell v

/-- What is wrong with a cell under a column. A type that is not decoded is wrong with every cell,
even where the value is missing. -/
inductive Fault (column : Column) : Cell → StoreError → Prop
  | unsupported {cell : Cell} {name : String} :
      column.type = .other name → Fault column cell (.unsupportedColumn column.label name)
  | undecodable {cell : Cell} :
      column.type.Supported → cell ≠ .null → cell.value? column.type = none →
      Fault column cell (.database (.unread column.label))

/-- A cell under its own column. -/
def read (column : Column) (cell : Cell) : Except StoreError Json :=
  match column.type with
  | .other name => .error (.unsupportedColumn column.label name)
  | type => cell.decode column type

theorem read_of_other {column : Column} {name : String} (h : column.type = .other name) (cell : Cell) :
    column.read cell = .error (.unsupportedColumn column.label name) := by
  rw [read, h]

theorem read_of_supported {column : Column} (h : column.type.Supported) (cell : Cell) :
    column.read cell = cell.decode column column.type := by
  obtain ⟨label, type⟩ := column
  cases type with
  | other name => exact absurd rfl (h name)
  | _ => rfl

theorem supported_or (column : Column) :
    column.type.Supported ∨ ∃ name, column.type = .other name := by
  by_cases h : ∃ name, column.type = .other name
  · exact .inr h
  · exact .inl fun name hname => h ⟨name, hname⟩

end Column

/-- A cell that is not missing, and is sent as its column says. -/
theorem Cell.decode_self {cell : Cell} (h : cell ≠ .null) (column : Column) :
    cell.decode column column.type =
      (cell.value? column.type).elim (.error (.database (.unread column.label))) .ok := by
  have hreads : column.type.reads column.type = true := by simp [ColumnType.reads]
  unfold Cell.decode
  split
  · exact absurd rfl h
  · rw [if_pos hreads]
    cases cell.value? column.type <;> rfl

namespace Column

theorem read_eq_ok_iff {column : Column} {cell : Cell} {v : Json} :
    column.read cell = .ok v ↔ column.Holds cell v := by
  rcases column.supported_or with hsupported | ⟨name, hname⟩
  · rw [read_of_supported hsupported]
    constructor
    · intro h
      by_cases hnull : cell = .null
      · subst hnull
        cases h
        exact .missing hsupported
      · rw [Cell.decode_self hnull] at h
        cases hvalue : cell.value? column.type with
        | some w =>
          rw [hvalue] at h
          cases h
          exact .value hsupported hvalue
        | none =>
          rw [hvalue] at h
          cases h
    · intro h
      cases h with
      | missing _ => rfl
      | value _ hvalue =>
        have hnull : cell ≠ .null := by
          rintro rfl
          cases hvalue
        rw [Cell.decode_self hnull, hvalue, Option.elim]
  · rw [read_of_other hname]
    refine ⟨nofun, fun h => ?_⟩
    cases h with
    | missing hsupported => exact absurd hname (hsupported name)
    | value hsupported _ => exact absurd hname (hsupported name)

theorem read_eq_error_iff {column : Column} {cell : Cell} {e : StoreError} :
    column.read cell = .error e ↔ column.Fault cell e := by
  rcases column.supported_or with hsupported | ⟨name, hname⟩
  · rw [read_of_supported hsupported]
    constructor
    · intro h
      by_cases hnull : cell = .null
      · subst hnull
        cases h
      · rw [Cell.decode_self hnull] at h
        cases hvalue : cell.value? column.type with
        | some w =>
          rw [hvalue] at h
          cases h
        | none =>
          rw [hvalue] at h
          cases h
          exact .undecodable hsupported hnull hvalue
    · intro h
      cases h with
      | unsupported hother => exact absurd hother (hsupported _)
      | undecodable _ hnull hvalue => rw [Cell.decode_self hnull, hvalue, Option.elim]
  · rw [read_of_other hname]
    constructor
    · intro h
      cases h
      exact .unsupported hname
    · intro h
      cases h with
      | unsupported hother =>
        rw [hname] at hother
        cases hother
        rfl
      | undecodable hsupported _ _ => exact absurd hname (hsupported name)

theorem Holds.unique {column : Column} {cell : Cell} {v w : Json} (hv : column.Holds cell v)
    (hw : column.Holds cell w) : v = w := by
  rw [← read_eq_ok_iff] at hv hw
  exact Except.ok.inj (hv.symm.trans hw)

theorem Holds.not_fault {column : Column} {cell : Cell} {v : Json} {e : StoreError}
    (hv : column.Holds cell v) : ¬ column.Fault cell e := by
  intro he
  rw [← read_eq_ok_iff] at hv
  rw [← read_eq_error_iff, hv] at he
  cases he

/-- A whole decimal that fits 64 bits is an integer, whatever zeros stand behind its point. -/
theorem holds_whole {column : Column} (htype : column.type = .numeric) (negative : Bool)
    (m scale : Nat) {i : Int} (hi : i = if negative then -(m : Int) else m)
    (hleast : -9223372036854775808 ≤ i) (hgreatest : i ≤ 9223372036854775807) (v : Json) :
    column.Holds (.decimal negative (m * 10 ^ scale) scale) v ↔ v = .ofInt i := by
  have hm : m < BoundedDecimal.limit := by
    have hbound : m ≤ 9223372036854775808 := by
      cases negative <;> simp at hi <;> omega
    exact Nat.lt_of_le_of_lt hbound (by decide)
  obtain ⟨t, ht⟩ := BoundedDecimal.ofDecimal?_whole hm scale
  have hdecimal : decimalValue negative ⟨m * 10 ^ t, t⟩ = .ofInt i := by
    unfold decimalValue
    rw [BoundedDecimal.whole_shifted, BoundedDecimal.isWhole_shifted, ← hi]
    exact if_pos ⟨rfl, hleast, by omega⟩
  have hvalue : (Cell.decimal negative (m * 10 ^ scale) scale).value? column.type =
      some (.ofInt i) := by
    rw [htype, Cell.value?, ht, Option.map_some, hdecimal]
  have hsupported : column.type.Supported := by
    intro name
    rw [htype]
    nofun
  constructor
  · exact fun hv => hv.unique (.value hsupported hvalue)
  · rintro rfl
    exact .value hsupported hvalue

end Column

namespace Row

def labels (row : Row) : List String := row.map fun p => p.1.label

theorem map_column_ofCells (columns : List Column) (cells : List Cell) :
    (ofCells columns cells).map Prod.fst = columns := by
  rw [ofCells, List.map_fst_zip]
  simp

theorem labels_ofCells (columns : List Column) (cells : List Cell) :
    (ofCells columns cells).labels = columns.map Column.label := by
  have h := congrArg (List.map Column.label) (map_column_ofCells columns cells)
  rwa [List.map_map] at h

/-- Where no label is repeated, a column is read out of its own cell. -/
theorem value_of_mem {row : Row} (hlabels : row.labels.Nodup) {p : Column × Cell} (hp : p ∈ row) :
    row.value p.1 = p.1.read p.2 := by
  have hlast : row.last? p.1.label = some (p.1.type, p.2) := by
    have hfound : row.reverse.find? (fun q => q.1.label == p.1.label) = some p := by
      cases hfind : row.reverse.find? fun q => q.1.label == p.1.label with
      | none =>
        have hnone := List.find?_eq_none.1 hfind p (List.mem_reverse.2 hp)
        exact absurd (beq_self_eq_true p.1.label) hnone
      | some q =>
        have hlabel : q.1.label = p.1.label := by simpa using List.find?_some hfind
        have hq : q ∈ row := List.mem_reverse.1 (List.mem_of_find?_eq_some hfind)
        rw [List.inj_on_of_nodup_map hlabels hq hp hlabel]
    rw [last?, hfound, Option.map_some]
  unfold value
  rw [hlast]
  rcases p.1.supported_or with hsupported | ⟨name, hname⟩
  · rw [Column.read_of_supported hsupported]
    obtain ⟨⟨label, type⟩, cell⟩ := p
    cases type with
    | other name => exact absurd rfl (hsupported name)
    | _ => rfl
  · rw [Column.read_of_other hname, hname]

theorem decodeOnto_eq (row : Row) (columns : List Column) (fields : Fields) :
    row.decodeOnto columns fields = (columns.mapM row.value).map fun vs =>
      Fields.laid ((columns.map Column.label).zip vs) fields := by
  induction columns generalizing fields with
  | nil => rfl
  | cons column columns ih =>
    rw [decodeOnto, List.mapM_cons]
    cases row.value column with
    | error e => rfl
    | ok v =>
      dsimp only
      rw [ih]
      cases columns.mapM row.value <;> rfl

/-- A row is decoded cell by cell, where no label is repeated. -/
theorem decode_eq {columns : List Column} (hlabels : (columns.map Column.label).Nodup)
    (cells : List Cell) :
    decode columns cells =
      ((ofCells columns cells).mapM fun p : Column × Cell => p.1.read p.2).map fun vs =>
        Fields.ofList ((columns.map Column.label).zip vs) := by
  have hnodup : (ofCells columns cells).labels.Nodup := by rwa [labels_ofCells]
  have hcells : columns.mapM (ofCells columns cells).value =
      (ofCells columns cells).mapM fun p : Column × Cell => p.1.read p.2 := by
    have hmap : columns.mapM (ofCells columns cells).value =
        ((ofCells columns cells).map Prod.fst).mapM (ofCells columns cells).value := by
      rw [map_column_ofCells]
    rw [hmap, List.mapM_map]
    exact mapM_congr fun p hp => value_of_mem hnodup hp
  rw [decode, decodeOnto_eq, hcells]
  rfl

/-- The fields that a row becomes: its labels are their keys, each once, with what the cells hold. -/
structure Becomes (row : Row) (fields : Fields) : Prop where
  sorted : fields.Sorted
  keys : ∀ label, label ∈ fields.keys ↔ label ∈ row.labels
  values : ∀ p ∈ row, ∃ v, p.1.Holds p.2 v ∧ Fields.get? p.1.label fields = some v

/-- The first fault of a row, in the order of its columns. -/
def Broken (row : Row) (e : StoreError) : Prop :=
  ∃ before p after, row = before ++ p :: after ∧ (∀ q ∈ before, ∃ v, q.1.Holds q.2 v) ∧
    p.1.Fault p.2 e

theorem Becomes.unique {row : Row} {fs gs : Fields} (hf : row.Becomes fs) (hg : row.Becomes gs) :
    fs = gs := by
  refine hf.sorted.ext hg.sorted fun key => ?_
  by_cases hkey : key ∈ row.labels
  · obtain ⟨p, hp, rfl⟩ := List.mem_map.1 hkey
    obtain ⟨v, hv, hfs⟩ := hf.values p hp
    obtain ⟨w, hw, hgs⟩ := hg.values p hp
    rw [hfs, hgs, hv.unique hw]
  · rw [Fields.get?_eq_none (mt (hf.keys key).1 hkey), Fields.get?_eq_none (mt (hg.keys key).1 hkey)]

end Row

theorem Fields.mem_keys_iff {key : String} {fs : Fields} :
    key ∈ fs.keys ↔ ∃ v, get? key fs = some v := by
  induction fs with
  | nil => simp [keys]
  | cons f rest ih =>
    obtain ⟨k, v⟩ := f
    have hkeys : keys ((k, v) :: rest) = k :: keys rest := rfl
    rw [hkeys, List.mem_cons, get?_cons, ih]
    by_cases heq : k = key
    · rw [if_pos heq]
      exact ⟨fun _ => ⟨v, rfl⟩, fun _ => .inl heq.symm⟩
    · rw [if_neg heq]
      exact ⟨fun h => h.resolve_left (Ne.symm heq), .inr⟩

namespace Row

/-- What the cells of a row hold, under their labels. -/
theorem becomes_ofList {row : Row} (hlabels : row.labels.Nodup) {vs : List Json}
    (h : List.Forall₂ (fun p v => p.1.Holds p.2 v) row vs) :
    row.Becomes (Fields.ofList (row.labels.zip vs)) := by
  have hlength : row.labels.length = vs.length := by
    rw [labels, List.length_map]
    exact h.length_eq
  have hkeys : (row.labels.zip vs).map Prod.fst = row.labels :=
    List.map_fst_zip (Nat.le_of_eq hlength)
  have hnodup : ((row.labels.zip vs).map Prod.fst).Nodup := by rwa [hkeys]
  refine ⟨Fields.sorted_ofList _, fun label => ?_, fun p hp => ?_⟩
  · rw [Fields.mem_keys_iff, Fields.get?_ofList hnodup]
    rw [← Fields.mem_keys_iff, Fields.keys, hkeys]
  · obtain ⟨i, hi, rfl⟩ := List.getElem_of_mem hp
    have hvs : i < vs.length := h.length_eq ▸ hi
    have hholds : row[i].1.Holds row[i].2 vs[i] := h.get hi hvs
    refine ⟨vs[i], hholds, ?_⟩
    have hmem : (row[i].1.label, vs[i]) ∈ row.labels.zip vs := by
      have hi' : i < row.labels.length := hlength ▸ hvs
      have hlen : i < (row.labels.zip vs).length := by
        rwa [List.length_zip, ← hlength, Nat.min_self]
      have hlabel : row.labels[i] = row[i].1.label := by simp [labels]
      have hget := List.getElem_mem hlen
      rwa [List.getElem_zip, hlabel] at hget
    rw [Fields.get?_ofList hnodup]
    exact Fields.get?_of_mem hnodup hmem

variable {columns : List Column} (hlabels : (columns.map Column.label).Nodup) {cells : List Cell}
include hlabels

/-- A row is decoded to the fields that it becomes. -/
theorem decode_eq_ok_iff {fields : Fields} :
    decode columns cells = .ok fields ↔ (ofCells columns cells).Becomes fields := by
  have hnodup : (ofCells columns cells).labels.Nodup := by rwa [labels_ofCells]
  rw [decode_eq hlabels, ← labels_ofCells columns cells]
  cases hread : (ofCells columns cells).mapM fun p : Column × Cell => p.1.read p.2 with
  | error e =>
    refine ⟨nofun, fun h => ?_⟩
    obtain ⟨before, p, after, hsplit, -, hp⟩ := mapM_eq_error_iff.1 hread
    have hmem : p ∈ ofCells columns cells :=
      hsplit ▸ List.mem_append_right before List.mem_cons_self
    obtain ⟨v, hv, -⟩ := h.values p hmem
    exact absurd (Column.read_eq_error_iff.1 hp) hv.not_fault
  | ok vs =>
    have hholds : List.Forall₂ (fun p v => p.1.Holds p.2 v) (ofCells columns cells) vs :=
      (mapM_eq_ok_iff.1 hread).imp fun _ _ h => Column.read_eq_ok_iff.1 h
    have hbecomes := becomes_ofList hnodup hholds
    constructor
    · intro h
      cases h
      exact hbecomes
    · exact fun h => congrArg Except.ok (hbecomes.unique h)

theorem decode_eq_error_iff_mapM {e : StoreError} :
    decode columns cells = .error e ↔
      ((ofCells columns cells).mapM fun p : Column × Cell => p.1.read p.2) = .error e := by
  rw [decode_eq hlabels]
  cases (ofCells columns cells).mapM fun p : Column × Cell => p.1.read p.2 with
  | error d => exact ⟨fun h => by cases h; rfl, fun h => by cases h; rfl⟩
  | ok vs => exact ⟨nofun, nofun⟩

/-- A row that is not decoded is broken, and its first fault is the error. -/
theorem decode_eq_error_iff {e : StoreError} :
    decode columns cells = .error e ↔ (ofCells columns cells).Broken e := by
  rw [decode_eq_error_iff_mapM hlabels, mapM_eq_error_iff]
  simp only [Column.read_eq_ok_iff, Column.read_eq_error_iff]
  rfl

theorem exists_decode_eq_error_iff :
    (∃ e, decode columns cells = .error e) ↔
      ∃ p ∈ ofCells columns cells, ∃ e, p.1.Fault p.2 e := by
  simp only [decode_eq_error_iff_mapM hlabels, exists_mapM_eq_error_iff, Column.read_eq_error_iff]

end Row

theorem decodeRows_eq_mapM (columns : List Column) (rows : List (List Cell)) :
    decodeRows columns rows = rows.mapM (Row.decode columns) := by
  induction rows with
  | nil => rfl
  | cons cells rows ih =>
    rw [decodeRows, List.mapM_cons, ih]
    cases Row.decode columns cells with
    | error e => rfl
    | ok fields => cases rows.mapM (Row.decode columns) <;> rfl

namespace ResultSet

/-- The rows that a limit leaves: the first so many, and all of them without a limit. -/
def taken (rs : ResultSet) (limit : Option Nat) : List (List Cell) :=
  match limit with
  | some n => rs.rows.take n
  | none => rs.rows

/-- The first fault among rows: they become fields up to a row that is broken. -/
def Broken (columns : List Column) (rows : List (List Cell)) (e : StoreError) : Prop :=
  ∃ before cells after, rows = before ++ cells :: after ∧
    (∀ b ∈ before, ∃ fields, (Row.ofCells columns b).Becomes fields) ∧
    (Row.ofCells columns cells).Broken e

theorem decode_eq_mapM (rs : ResultSet) (limit : Option Nat) :
    rs.decode limit = (rs.taken limit).mapM (Row.decode rs.columns) := by
  unfold decode
  rw [decodeRows_eq_mapM]
  cases limit <;> rfl

variable {rs : ResultSet} (hlabels : (rs.columns.map Column.label).Nodup) {limit : Option Nat}
include hlabels

/-- The rows that are taken are decoded, one by one and in their order. -/
theorem decode_eq_ok_iff {found : List Fields} :
    rs.decode limit = .ok found ↔
      List.Forall₂ (fun cells fields => (Row.ofCells rs.columns cells).Becomes fields)
        (rs.taken limit) found := by
  rw [decode_eq_mapM, mapM_eq_ok_iff]
  simp only [Row.decode_eq_ok_iff hlabels]

theorem decode_eq_error_iff {e : StoreError} :
    rs.decode limit = .error e ↔ Broken rs.columns (rs.taken limit) e := by
  rw [decode_eq_mapM, mapM_eq_error_iff]
  simp only [Row.decode_eq_ok_iff hlabels, Row.decode_eq_error_iff hlabels]
  rfl

/-- There is an error exactly if some cell of a row that is taken has a fault. -/
theorem exists_decode_eq_error_iff :
    (∃ e, rs.decode limit = .error e) ↔
      ∃ cells ∈ rs.taken limit, ∃ p ∈ Row.ofCells rs.columns cells, ∃ e, p.1.Fault p.2 e := by
  rw [decode_eq_mapM, exists_mapM_eq_error_iff]
  simp only [Row.exists_decode_eq_error_iff hlabels]

end ResultSet
end Weblog
