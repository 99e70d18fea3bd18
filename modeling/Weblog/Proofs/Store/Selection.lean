import Weblog.Proofs.Store.Decode
import Weblog.Proofs.Store.Entity

/-!
# Weblog.Proofs.Store.Selection

Reads where the database serves a result: they give all of it, or an error.

* `ResultSet.Yields`: what an action ends in where the database connects and has one result for every
  statement; `Yields.unique`, `Yields.bind`.
* `Selected`: all rows that are taken, or the first fault among them. `Row.Kept`: what the fields of a
  row keep of missing values and of whole decimals.
* `FoundAll`: all rows as entities, or why not all of them are.
* `select_complete_or_broken`: a read of rows yields what is selected; a read of one entity or of one
  number hangs on the first row, and a read of all entities yields what is found of all rows.
-/

namespace Weblog
namespace ResultSet

/-- A database that connects, and has a result for every statement. -/
def Serves (rs : ResultSet) (es : List Exchange) : Prop :=
  ∀ x ∈ es, x = ⟨.connect, .ok ()⟩ ∨ ∃ s, x = ⟨.run s, .ok rs⟩

/-- What an action ends in where the database serves a result. -/
def Yields {α : Type} (rs : ResultSet) (x : Action α) (a : α) : Prop :=
  ∃ es, rs.Serves es ∧ Action.Runs x es a

variable {rs : ResultSet} {α β : Type}

theorem Serves.answer_unique {es fs : List Exchange} {e : Effect} {a b : e.Answer}
    (ha : rs.Serves (⟨e, a⟩ :: es)) (hb : rs.Serves (⟨e, b⟩ :: fs)) : a = b := by
  rcases ha _ List.mem_cons_self with h | ⟨s, h⟩
  · cases h
    rcases hb _ List.mem_cons_self with h | ⟨s, h⟩
    · cases h
      rfl
    · cases h
  · cases h
    rcases hb _ List.mem_cons_self with h | ⟨s, h⟩
    · cases h
    · cases h
      rfl

theorem Yields.unique {x : Action α} {a b : α} (ha : rs.Yields x a) (hb : rs.Yields x b) :
    a = b := by
  obtain ⟨es, hes, ha⟩ := ha
  obtain ⟨fs, hfs, hb⟩ := hb
  induction ha generalizing fs with
  | done => exact (Action.runs_done_iff.1 hb).2.symm
  | ask _ ih =>
    obtain ⟨answer, rest, rfl, hrest⟩ := Action.runs_ask_iff.1 hb
    obtain rfl := hes.answer_unique hfs
    exact ih (fun y hy => hes y (List.mem_cons_of_mem _ hy)) rest
      (fun y hy => hfs y (List.mem_cons_of_mem _ hy)) hrest

theorem Yields.iff_eq {x : Action α} {a b : α} (h : rs.Yields x a) : rs.Yields x b ↔ b = a := by
  constructor
  · exact fun hb => hb.unique h
  · rintro rfl
    exact h

theorem Yields.existsUnique {x : Action α} {a : α} (h : rs.Yields x a) : ∃! b, rs.Yields x b :=
  ⟨a, h, fun _ hb => hb.unique h⟩

/-- A sequence that may fail ends in the error of its first part, or in what the second ends in. -/
theorem Yields.bind {ε : Type} {x : Fallible ε α} {f : α → Fallible ε β} {g : α → Except ε β}
    {r : Except ε α} (hx : rs.Yields x.run r) (hf : ∀ a, rs.Yields (f a).run (g a)) :
    rs.Yields (x >>= f).run (r.bind g) := by
  obtain ⟨es, hes, hx⟩ := hx
  cases r with
  | error e => exact ⟨es, hes, Fallible.runs_bind_iff.2 (.inl ⟨e, hx, rfl⟩)⟩
  | ok a =>
    obtain ⟨fs, hfs, hf⟩ := hf a
    refine ⟨es ++ fs, fun y hy => ?_, Fallible.runs_bind_iff.2 (.inr ⟨es, fs, a, rfl, hx, hf⟩)⟩
    rcases List.mem_append.1 hy with hy | hy
    · exact hes y hy
    · exact hfs y hy

theorem yields_connect : rs.Yields Database.connect.run (.ok ()) := by
  refine ⟨[⟨.connect, .ok ()⟩], fun x hx => ?_, Database.runs_connect_iff.2 ⟨.ok (), rfl, rfl⟩⟩
  exact .inl (List.mem_singleton.1 hx)

theorem yields_run (s : Statement) : rs.Yields (Database.run s).run (.ok rs) := by
  refine ⟨[⟨.run s, .ok rs⟩], fun x hx => ?_, Database.runs_run_iff.2 ⟨.ok rs, rfl, rfl⟩⟩
  exact .inr ⟨s, List.mem_singleton.1 hx⟩

theorem yields_ofExcept {ε : Type} (x : Except ε α) :
    rs.Yields (Fallible.ofExcept x : Fallible ε α).run x := ⟨[], nofun, .done⟩

/-- A read of rows ends in what the rows decode to. -/
theorem yields_select (rs : ResultSet) (sql : String) (args : List Json) (limit : Option Nat) :
    rs.Yields (Database.select sql args limit).run (rs.decode limit) := by
  refine yields_connect.bind (g := fun _ => rs.decode limit) fun _ => ?_
  by_cases hlimit : limit = some 0
  · rw [if_pos hlimit, hlimit]
    exact yields_ofExcept (.ok [])
  · rw [if_neg hlimit]
    refine (yields_run _).bind (g := fun answer => answer.decode limit) fun answer => ?_
    exact yields_ofExcept (answer.decode limit)

/-! What is read of a result whose columns have labels of their own. -/

/-- All rows that are taken, or the first fault among them. -/
inductive Selected (rs : ResultSet) (limit : Option Nat) : Except StoreError (List Fields) → Prop
  | complete {found : List Fields} :
      List.Forall₂ (fun cells fields => (Row.ofCells rs.columns cells).Becomes fields)
        (rs.taken limit) found →
      Selected rs limit (.ok found)
  | broken {e : StoreError} : Broken rs.columns (rs.taken limit) e → Selected rs limit (.error e)

theorem selected_iff (hlabels : (rs.columns.map Column.label).Nodup) {limit : Option Nat}
    {out : Except StoreError (List Fields)} : rs.Selected limit out ↔ out = rs.decode limit := by
  constructor
  · intro h
    cases h with
    | complete hfound => exact ((decode_eq_ok_iff hlabels).2 hfound).symm
    | broken hbroken => exact ((decode_eq_error_iff hlabels).2 hbroken).symm
  · intro h
    cases out with
    | ok found => exact .complete ((decode_eq_ok_iff hlabels).1 h.symm)
    | error e => exact .broken ((decode_eq_error_iff hlabels).1 h.symm)

end ResultSet

/-- What the fields of a row keep of its cells: that a value is missing, and whole decimals of 64
bits, whatever zeros stand behind their point. -/
structure Row.Kept (row : Row) (fields : Fields) : Prop where
  missing : ∀ p ∈ row, p.2 = .null → Fields.get? p.1.label fields = some .null
  whole : ∀ p ∈ row, p.1.type = .numeric → ∀ negative (m scale : Nat),
    p.2 = .decimal negative (m * 10 ^ scale) scale → ∀ i : Int,
    i = (if negative then -(m : Int) else m) →
    -9223372036854775808 ≤ i → i ≤ 9223372036854775807 →
    Fields.get? p.1.label fields = some (.ofInt i)

theorem Row.Becomes.kept {row : Row} {fields : Fields} (h : row.Becomes fields) :
    row.Kept fields := by
  constructor
  · rintro ⟨column, cell⟩ hp rfl
    obtain ⟨v, hv, hget⟩ := h.values _ hp
    cases hv with
    | missing _ => exact hget
    | value _ hvalue => cases hvalue
  · rintro ⟨column, cell⟩ hp htype negative m scale rfl i hi hleast hgreatest
    obtain ⟨v, hv, hget⟩ := h.values _ hp
    rw [hget, (Column.holds_whole htype negative m scale hi hleast hgreatest v).1 hv]

namespace ResultSet

/-- All rows as entities, or why not all of them are: the declaration of the model was refused, a row
cannot be decoded, or its fields are no entity. -/
inductive FoundAll (α : Type) [Entity α] (rs : ResultSet) : Except StoreError (List α) → Prop
  | undeclared {e : SchemaError} :
      Entity.schema α = .error e → FoundAll α rs (.error (.schema e))
  | broken {s : Schema} {e : StoreError} :
      Entity.schema α = .ok s → Broken rs.columns rs.rows e → FoundAll α rs (.error e)
  | undecodable {s : Schema} {found : List Fields} {fields : Fields} :
      Entity.schema α = .ok s →
      List.Forall₂ (fun cells fields => (Row.ofCells rs.columns cells).Becomes fields) rs.rows found →
      fields ∈ found → Entity.decode (α := α) (.object fields) = none →
      FoundAll α rs (.error .undecodable)
  | complete {s : Schema} {found : List Fields} {vs : List α} :
      Entity.schema α = .ok s →
      List.Forall₂ (fun cells fields => (Row.ofCells rs.columns cells).Becomes fields) rs.rows found →
      List.Forall₂ (fun fields v => Entity.decode (.object fields) = some v) found vs →
      FoundAll α rs (.ok vs)

end ResultSet

namespace Entity

variable {α : Type} [Entity α]

theorem ofFields_eq_error_iff {fs : Fields} {e : StoreError} :
    ofFields (α := α) fs = .error e ↔
      Entity.decode (α := α) (.object fs) = none ∧ e = .undecodable := by
  rw [ofFields]
  cases Entity.decode (α := α) (.object fs) <;> simp [eq_comm]

theorem ofRows_eq_mapM (rows : List Fields) : ofRows (α := α) rows = rows.mapM ofFields := by
  induction rows with
  | nil => rfl
  | cons row rows ih =>
    rw [ofRows, List.mapM_cons, ih]
    cases ofFields (α := α) row with
    | error e => rfl
    | ok v => cases rows.mapM (ofFields (α := α)) <;> rfl

theorem ofRows_eq_ok_iff {rows : List Fields} {vs : List α} :
    ofRows rows = .ok vs ↔
      List.Forall₂ (fun fields v => Entity.decode (.object fields) = some v) rows vs := by
  rw [ofRows_eq_mapM, mapM_eq_ok_iff]
  simp only [ofFields_eq_ok_iff]

theorem ofRows_eq_error_iff {rows : List Fields} {e : StoreError} :
    ofRows (α := α) rows = .error e ↔
      (∃ fields ∈ rows, Entity.decode (α := α) (.object fields) = none) ∧ e = .undecodable := by
  -- no row has another error, so that it does not matter which one is the first
  have hsome : (∃ d, ofRows (α := α) rows = .error d) ↔
      ∃ fields ∈ rows, Entity.decode (α := α) (.object fields) = none := by
    rw [ofRows_eq_mapM, exists_mapM_eq_error_iff]
    simp only [ofFields_eq_error_iff, exists_and_left, exists_eq, and_true]
  have hall : ∀ {d}, ofRows (α := α) rows = .error d → d = .undecodable := by
    intro d h
    rw [ofRows_eq_mapM, mapM_eq_error_iff] at h
    obtain ⟨_, _, _, -, -, hfields⟩ := h
    exact (ofFields_eq_error_iff.1 hfields).2
  constructor
  · exact fun h => ⟨hsome.1 ⟨e, h⟩, hall h⟩
  · rintro ⟨hrows, rfl⟩
    obtain ⟨d, h⟩ := hsome.2 hrows
    rw [h, hall h]

/-- The entity of the first row, if there is a row. -/
def ofFirst : List Fields → Except StoreError (Option α)
  | [] => .ok none
  | row :: _ => (ofFields row).bind fun v => .ok (some v)

theorem yields_find (rs : ResultSet) (key : Json) :
    rs.Yields (find α key).run
      (((Entity.schema α).mapError .schema).bind fun _ => (rs.decode (some 1)).bind ofFirst) := by
  refine (ResultSet.yields_ofExcept _).bind fun s => ?_
  refine (ResultSet.yields_select rs s.selectByKeySql [key] (some 1)).bind fun rows => ?_
  cases rows with
  | nil => exact ResultSet.yields_ofExcept (.ok none)
  | cons row rows =>
    refine (ResultSet.yields_ofExcept (ofFields row)).bind fun v => ?_
    exact ResultSet.yields_ofExcept (.ok (some v))

theorem yields_findNumber (rs : ResultSet) (expr : String) (filter : Option String)
    (args : List Json) :
    rs.Yields (findNumber α expr filter args).run
      (((Entity.schema α).mapError .schema).bind fun _ =>
        (rs.decode (some 1)).bind fun rows => .ok (rows.head?.bind (Fields.get? numberLabel))) := by
  refine (ResultSet.yields_ofExcept _).bind fun s => ?_
  refine (ResultSet.yields_select rs (s.numberSql expr filter) args (some 1)).bind fun rows => ?_
  cases rows with
  | nil => exact ResultSet.yields_ofExcept (.ok none)
  | cons row rows => exact ResultSet.yields_ofExcept (.ok (Fields.get? numberLabel row))

theorem yields_findAll (rs : ResultSet) (q : FindAll) :
    rs.Yields (findAll α q).run
      (((Entity.schema α).mapError .schema).bind fun _ => ofResult rs) := by
  refine (ResultSet.yields_ofExcept _).bind fun s => ?_
  refine (ResultSet.yields_select rs (q.query s).sql (q.query s).params none).bind fun rows => ?_
  exact ResultSet.yields_ofExcept (ofRows rows)

end Entity

namespace ResultSet

variable {rs rs' : ResultSet} {α : Type} [Entity α]

theorem decode_one_congr (hcolumns : rs'.columns = rs.columns)
    (hfirst : rs'.rows.head? = rs.rows.head?) : rs'.decode (some 1) = rs.decode (some 1) := by
  rw [decode_eq_mapM, decode_eq_mapM, taken, taken, List.take_one, List.take_one, hcolumns, hfirst]

theorem foundAll_iff (hlabels : (rs.columns.map Column.label).Nodup)
    {out : Except StoreError (List α)} :
    rs.FoundAll α out ↔
      out = ((Entity.schema α).mapError .schema).bind fun _ => Entity.ofResult rs := by
  constructor
  · intro h
    cases h with
    | undeclared hs =>
      rw [hs]
      rfl
    | broken hs hbroken =>
      have hdecode : rs.decode none = .error _ := (decode_eq_error_iff hlabels).2 hbroken
      rw [hs, Entity.ofResult, hdecode]
      rfl
    | undecodable hs hfound hfields hnone =>
      have hdecode : rs.decode none = .ok _ := (decode_eq_ok_iff hlabels).2 hfound
      rw [hs, Entity.ofResult, hdecode]
      exact (Entity.ofRows_eq_error_iff.2 ⟨⟨_, hfields, hnone⟩, rfl⟩).symm
    | complete hs hfound hvs =>
      have hdecode : rs.decode none = .ok _ := (decode_eq_ok_iff hlabels).2 hfound
      rw [hs, Entity.ofResult, hdecode]
      exact (Entity.ofRows_eq_ok_iff.2 hvs).symm
  · intro h
    cases hs : Entity.schema α with
    | error e =>
      rw [hs] at h
      exact h ▸ .undeclared hs
    | ok s =>
      rw [hs] at h
      replace h : out = (rs.decode none).bind Entity.ofRows := h
      cases hdecode : rs.decode none with
      | error e =>
        rw [hdecode] at h
        exact h ▸ .broken hs ((decode_eq_error_iff hlabels).1 hdecode)
      | ok found =>
        rw [hdecode] at h
        replace h : Entity.ofRows found = out := h.symm
        have hfound := (decode_eq_ok_iff hlabels).1 hdecode
        cases out with
        | ok vs => exact .complete hs hfound (Entity.ofRows_eq_ok_iff.1 h)
        | error e =>
          obtain ⟨⟨fields, hfields, hnone⟩, rfl⟩ := Entity.ofRows_eq_error_iff.1 h
          exact .undecodable hs hfound hfields hnone

/-- Of a result whose columns have labels of their own, a read of rows ends in all that are taken, or
in the first fault among them. A read of one entity or of one number is the same whatever follows the
first row, and a read of all entities ends in all of them or in an error. -/
theorem select_complete_or_broken (rs : ResultSet)
    (hlabels : (rs.columns.map Column.label).Nodup) :
    (∀ sql args limit,
      (∃! out, rs.Yields (Database.select sql args limit).run out) ∧
      (∀ out, rs.Yields (Database.select sql args limit).run out ↔ rs.Selected limit out) ∧
      (∀ found, rs.Yields (Database.select sql args limit).run (.ok found) →
        List.Forall₂ (fun cells fields => (Row.ofCells rs.columns cells).Kept fields)
          (rs.taken limit) found) ∧
      ((∃ e, rs.Yields (Database.select sql args limit).run (.error e)) ↔
        ∃ cells ∈ rs.taken limit, ∃ p ∈ Row.ofCells rs.columns cells, ∃ e, p.1.Fault p.2 e)) ∧
    (∀ (α : Type) [Entity α] (rs' : ResultSet),
      rs'.columns = rs.columns → rs'.rows.head? = rs.rows.head? →
      (∀ key, (∃! out, rs.Yields (Entity.find α key).run out) ∧
        ∀ out, rs'.Yields (Entity.find α key).run out ↔ rs.Yields (Entity.find α key).run out) ∧
      ∀ expr filter args, (∃! out, rs.Yields (Entity.findNumber α expr filter args).run out) ∧
        ∀ out, rs'.Yields (Entity.findNumber α expr filter args).run out ↔
          rs.Yields (Entity.findNumber α expr filter args).run out) ∧
    (∀ (α : Type) [Entity α] (q : FindAll),
      (∃! out, rs.Yields (Entity.findAll α q).run out) ∧
      ∀ out, rs.Yields (Entity.findAll α q).run out ↔ rs.FoundAll α out) := by
  refine ⟨fun sql args limit => ?_, ?_, fun α _ q => ?_⟩
  · have hselect := yields_select rs sql args limit
    refine ⟨hselect.existsUnique, fun out => hselect.iff_eq.trans (selected_iff hlabels).symm, ?_, ?_⟩
    · intro found hfound
      have hall := (decode_eq_ok_iff hlabels).1 (hselect.iff_eq.1 hfound).symm
      exact hall.imp fun _ _ h => h.kept
    · rw [← exists_decode_eq_error_iff hlabels]
      simp only [hselect.iff_eq, eq_comm]
  · intro α _ rs' hcolumns hfirst
    have hdecode := decode_one_congr hcolumns hfirst
    constructor
    · intro key
      have hfind := Entity.yields_find (α := α) rs key
      have hfind' := Entity.yields_find (α := α) rs' key
      rw [hdecode] at hfind'
      exact ⟨hfind.existsUnique, fun out => hfind'.iff_eq.trans hfind.iff_eq.symm⟩
    · intro expr filter args
      have hfind := Entity.yields_findNumber (α := α) rs expr filter args
      have hfind' := Entity.yields_findNumber (α := α) rs' expr filter args
      rw [hdecode] at hfind'
      exact ⟨hfind.existsUnique, fun out => hfind'.iff_eq.trans hfind.iff_eq.symm⟩
  · have hall := Entity.yields_findAll (α := α) rs q
    exact ⟨hall.existsUnique, fun out => hall.iff_eq.trans (foundAll_iff hlabels).symm⟩

/-- A row of a missing value and a whole decimal, and one whose decimal is no number. -/
def halfBroken : ResultSet where
  columns := [⟨"id", .int4⟩, ⟨"total", .numeric⟩, ⟨"note", .text⟩]
  rows := [[.int 1, .decimal false 3000 3, .null], [.int 2, .notANumber, .null]]
  affected := 2

theorem becomes_halfBroken :
    (Row.ofCells halfBroken.columns [.int 1, .decimal false 3000 3, .null]).Becomes
      [("id", .ofInt 1), ("note", .null), ("total", .ofInt 3)] := by
  have hid : (⟨"id", .int4⟩ : Column).Holds (.int 1) (.ofInt 1) := .value nofun rfl
  have htotal : (⟨"total", .numeric⟩ : Column).Holds (.decimal false 3000 3) (.ofInt 3) :=
    (Column.holds_whole rfl false 3 3 rfl (by decide) (by decide) _).2 rfl
  have hnote : (⟨"note", .text⟩ : Column).Holds .null .null := .missing nofun
  have hrow : List.Forall₂ (fun (p : Column × Cell) v => p.1.Holds p.2 v)
      (Row.ofCells halfBroken.columns [.int 1, .decimal false 3000 3, .null])
      [.ofInt 1, .ofInt 3, .null] := .cons hid (.cons htotal (.cons hnote .nil))
  exact Row.becomes_ofList (by decide) hrow

theorem select_complete_or_broken_limited :
    (halfBroken.columns.map Column.label).Nodup ∧
    halfBroken.Yields (Database.select "SELECT * FROM totals" [] (some 1)).run
      (.ok [[("id", .ofInt 1), ("note", .null), ("total", .ofInt 3)]]) ∧
    halfBroken.Yields (Database.select "SELECT * FROM totals" [] none).run
      (.error (.database (.unread "total"))) := by
  have hlabels : (halfBroken.columns.map Column.label).Nodup := by decide
  obtain ⟨hselect, -⟩ := select_complete_or_broken halfBroken hlabels
  refine ⟨hlabels, ?_, ?_⟩
  · exact ((hselect _ _ (some 1)).2.1 _).2 (.complete (.cons becomes_halfBroken .nil))
  · refine ((hselect _ _ none).2.1 _).2 (.broken ⟨[_], _, [], rfl, ?_, ?_⟩)
    · intro cells hcells
      rw [List.mem_singleton.1 hcells]
      exact ⟨_, becomes_halfBroken⟩
    · refine ⟨[(⟨"id", .int4⟩, .int 2)], (⟨"total", .numeric⟩, .notANumber),
        [(⟨"note", .text⟩, .null)], rfl, ?_, .undecodable nofun nofun rfl⟩
      intro p hp
      rw [List.mem_singleton.1 hp]
      exact ⟨.ofInt 2, .value nofun rfl⟩

end ResultSet
end Weblog
