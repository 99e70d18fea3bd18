import Weblog.Json.Members
import Weblog.Proofs.Alike

/-!
# Weblog.Proofs.Store.Hidden

What a hidden column can change.

* `AlikeUnder`: values under a label are the same, but under the hidden label two texts may differ.
* `ResultSet.Alike`: results that are the same apart from the texts in the hidden column;
  `decode_alike`: so are the fields that they are decoded to.
* `apartFrom`: the answers that are alike: results, and of all else the same.
* `Entity.Conceals`: entities that are read of such fields stand in a relation.
* `alike_find`, `alike_findAll`, `alike_findNumber`, `alike_save`, `alike_update`, `alike_remove`:
  reads and writes go on alike.
-/

namespace Weblog

/-- Values under a label are the same. Under the hidden label two texts may differ. -/
inductive AlikeUnder (hidden : String) {γ : Type} (text : String → γ) (label : String) :
    γ → γ → Prop where
  | same (c : γ) : AlikeUnder hidden text label c c
  | texts (s t : String) : label = hidden → AlikeUnder hidden text label (text s) (text t)

theorem AlikeUnder.eq {hidden label : String} {γ : Type} {text : String → γ} {c d : γ}
    (h : AlikeUnder hidden text label c d) (hlabel : label ≠ hidden) : c = d := by
  cases h with
  | same => rfl
  | texts s t hhidden => exact absurd hhidden hlabel

variable {hidden : String}

/-- Fields are the same, apart from the texts in the hidden one. -/
def Fields.Alike (hidden : String) (fs gs : Fields) : Prop :=
  ∀ name, Option.Rel (AlikeUnder hidden Json.string name) (get? name fs) (get? name gs)

theorem Fields.Alike.get?_eq {fs gs : Fields} (h : Fields.Alike hidden fs gs) {name : String}
    (hname : name ≠ hidden) : get? name fs = get? name gs := by
  have hrel := h name
  generalize get? name fs = v, get? name gs = w at hrel
  cases hrel with
  | none => rfl
  | some hvw => rw [hvw.eq hname]

theorem Fields.Alike.required_eq {fs gs : Fields} (h : Fields.Alike hidden fs gs) {α : Type}
    (read : Json → Option α) {name : String} (hname : name ≠ hidden) :
    Json.required read fs name = Json.required read gs name := by
  rw [Json.required, Json.required, h.get?_eq hname]

theorem Fields.Alike.optional_eq {fs gs : Fields} (h : Fields.Alike hidden fs gs) {α : Type}
    (read : Json → Option α) {name : String} (hname : name ≠ hidden) :
    Json.optional read fs name = Json.optional read gs name := by
  rw [Json.optional, Json.optional, h.get?_eq hname]

theorem Fields.Alike.orElse_eq {fs gs : Fields} (h : Fields.Alike hidden fs gs) {α : Type}
    (read : Json → Option α) (default : α) {name : String} (hname : name ≠ hidden) :
    Json.orElse read default fs name = Json.orElse read default gs name := by
  rw [Json.orElse, Json.orElse, h.get?_eq hname]

/-- A text in the hidden field is one in both, and may differ. -/
theorem Fields.Alike.required_hidden {fs gs : Fields} (h : Fields.Alike hidden fs gs) :
    Option.Rel (fun _ _ => True) (Json.required Json.readText fs hidden)
      (Json.required Json.readText gs hidden) := by
  have hrel := h hidden
  unfold Json.required
  generalize get? hidden fs = v, get? hidden gs = w at hrel
  cases hrel with
  | none => exact .none
  | some hvw =>
    cases hvw with
    | texts s t _ => exact .some trivial
    | same =>
      -- the same value may still be no text
      rename_i v
      cases v <;> first | exact .none | exact .some trivial

theorem Fields.Alike.nil : Fields.Alike hidden [] [] := fun _ => .none

theorem Fields.Alike.set {fs gs : Fields} (h : Fields.Alike hidden fs gs) {key : String}
    {v w : Json} (hvw : AlikeUnder hidden Json.string key v w) :
    Fields.Alike hidden (Fields.set key v fs) (Fields.set key w gs) := by
  intro name
  rw [get?_set, get?_set]
  split
  · rename_i hname
    exact .some (hname ▸ hvw)
  · exact h name

/-- Two options are the same, or both are bound to what stands in a relation. -/
theorem rel_bind {α β γ : Type} {R : β → γ → Prop} (o : Option α) {f : α → Option β}
    {g : α → Option γ} (h : ∀ a, Option.Rel R (f a) (g a)) :
    Option.Rel R (o.bind f) (o.bind g) := by
  cases o with
  | none => exact .none
  | some a => exact h a

theorem rel_of_eq {α : Type} {v w : Option α} (h : v = w) : Option.Rel Eq v w := by
  subst h
  cases v with
  | none => exact .none
  | some a => exact .some rfl

/-! ## Results -/

namespace Cell

theorem decode_alike (column : Column) {c d : Cell}
    (h : AlikeUnder hidden Cell.text column.label c d) (sent : ColumnType) :
    SameOutcome (AlikeUnder hidden Json.string column.label) (c.decode column sent)
      (d.decode column sent) := by
  obtain ⟨label, type⟩ := column
  cases h with
  | same => exact .of_eq .same rfl
  | texts s t hlabel =>
    unfold Cell.decode
    dsimp only
    split
    · cases type <;> first | exact .ok (.texts s t hlabel) | exact .error _
    · exact .error _

end Cell

/-- The cells of two rows are the same, apart from the texts in the hidden column. -/
def Row.Alike (hidden : String) : Row → Row → Prop :=
  List.Forall₂ fun p q => p.1 = q.1 ∧ AlikeUnder hidden Cell.text p.1.label p.2 q.2

namespace Row

theorem last?_alike {row row' : Row} (h : Row.Alike hidden row row') (label : String) :
    Option.Rel (fun p q => p.1 = q.1 ∧ AlikeUnder hidden Cell.text label p.2 q.2)
      (row.last? label) (row'.last? label) := by
  unfold last?
  -- the last cell of a label is the first of the reversed row
  have hreverse := List.forall₂_reverse_iff.2 h
  generalize row.reverse = ps, row'.reverse = qs at hreverse
  induction hreverse with
  | nil => exact .none
  | @cons p q ps qs hpq _ ih =>
    obtain ⟨hcolumn, hcell⟩ := hpq
    rw [List.find?_cons, List.find?_cons, ← hcolumn]
    cases hfound : p.1.label == label with
    | true => exact .some ⟨congrArg Column.type hcolumn, eq_of_beq hfound ▸ hcell⟩
    | false => exact ih

theorem value_alike {row row' : Row} (h : Row.Alike hidden row row') (column : Column) :
    SameOutcome (AlikeUnder hidden Json.string column.label) (row.value column)
      (row'.value column) := by
  obtain ⟨label, type⟩ := column
  have hlast := last?_alike h label
  unfold value
  dsimp only
  generalize row.last? label = last, row'.last? label = last' at hlast
  cases hlast with
  | none => cases type <;> first | exact .ok (.same _) | exact .error _
  | @some p q hpq =>
    obtain ⟨sent, cell⟩ := p
    obtain ⟨sent', cell'⟩ := q
    obtain ⟨rfl, hcell⟩ := hpq
    cases type <;> first | exact Cell.decode_alike ⟨label, _⟩ hcell sent | exact .error _

theorem decodeOnto_alike {row row' : Row} (h : Row.Alike hidden row row') (columns : List Column)
    {fs gs : Fields} (hfields : Fields.Alike hidden fs gs) :
    SameOutcome (Fields.Alike hidden) (row.decodeOnto columns fs) (row'.decodeOnto columns gs) := by
  induction columns generalizing fs gs with
  | nil => exact .ok hfields
  | cons column columns ih =>
    have hvalue := value_alike h column
    unfold decodeOnto
    generalize row.value column = v, row'.value column = w at hvalue
    cases hvalue with
    | error e => exact .error e
    | ok hvw => exact ih (hfields.set hvw)

end Row

/-- Results are the same, apart from the texts in the hidden column. -/
structure ResultSet.Alike (hidden : String) (rs rs' : ResultSet) : Prop where
  columns : rs.columns = rs'.columns
  affected : rs.affected = rs'.affected
  rows : List.Forall₂ (fun cells cells' => Row.Alike hidden (Row.ofCells rs.columns cells)
    (Row.ofCells rs.columns cells')) rs.rows rs'.rows

theorem decodeRows_cons (columns : List Column) (cells : List Cell) (rows : List (List Cell)) :
    decodeRows columns (cells :: rows) =
      Row.decode columns cells >>= fun fields => (decodeRows columns rows).map (fields :: ·) := by
  rw [decodeRows]
  cases Row.decode columns cells <;> rfl

theorem decodeRows_alike {columns : List Column} {rows rows' : List (List Cell)}
    (h : List.Forall₂ (fun cells cells' => Row.Alike hidden (Row.ofCells columns cells)
      (Row.ofCells columns cells')) rows rows') :
    SameOutcome (List.Forall₂ (Fields.Alike hidden)) (decodeRows columns rows)
      (decodeRows columns rows') := by
  induction h with
  | nil => exact .ok .nil
  | @cons cells cells' rows rows' hcells _ ih =>
    rw [decodeRows_cons, decodeRows_cons]
    exact .cons (Row.decodeOnto_alike hcells columns .nil) ih

theorem ResultSet.Alike.decode_alike {rs rs' : ResultSet} (h : rs.Alike hidden rs')
    (limit : Option Nat) :
    SameOutcome (List.Forall₂ (Fields.Alike hidden)) (rs.decode limit) (rs'.decode limit) := by
  unfold ResultSet.decode
  rw [← h.columns]
  cases limit with
  | none => exact decodeRows_alike h.rows
  | some n => exact decodeRows_alike (List.forall₂_take n h.rows)

theorem ResultSet.Alike.refl (rs : ResultSet) : rs.Alike hidden rs where
  columns := rfl
  affected := rfl
  rows := List.forall₂_same.2 fun _ _ => List.forall₂_same.2 fun _ _ => ⟨rfl, .same _⟩

/-- Answers that are alike: results are, and besides stand in a relation; all else is the same. -/
def apartFrom (hidden : String) (Q : ResultSet → ResultSet → Prop) : Likeness
  | .run _, answer, answer' =>
    SameOutcome (fun rs rs' => rs.Alike hidden rs' ∧ Q rs rs') answer answer'
  | _, answer, answer' => answer = answer'

section Answers

variable {Q : ResultSet → ResultSet → Prop}

theorem apartFrom_refl (hQ : ∀ rs, Q rs rs) (e : Effect) (answer : e.Answer) :
    apartFrom hidden Q e answer answer := by
  cases e with
  | run st => exact .of_eq (fun rs => ⟨.refl rs, hQ rs⟩) rfl
  | _ => exact (rfl : answer = answer)

theorem eq_of_apartFrom (e : Effect) (answer answer' : e.Answer) (hrun : ∀ st, e ≠ .run st)
    (h : apartFrom hidden Q e answer answer') : answer = answer' := by
  cases e with
  | run st => exact absurd rfl (hrun st)
  | _ => exact h

theorem Fallible.alike_of_silent {ε α : Type} {x : Fallible ε α} (hx : x.run.Silent) :
    Alike (apartFrom hidden Q) Eq x x :=
  (Action.alike_self eq_of_apartFrom hx).mono fun _ _ => .of_eq fun _ => rfl

open Fallible

namespace Database

theorem alike_run (st : Statement) :
    Alike (apartFrom hidden Q) (fun rs rs' => rs.Alike hidden rs' ∧ Q rs rs') (run st) (run st) :=
  Alike.mapError (ε := DbError) (.ask fun _ _ h => .done h) StoreError.database

theorem alike_control (t : TransactionControl) :
    Alike (apartFrom hidden Q) Eq (control t) (control t) :=
  Alike.mapError (ε := DbError) (.ask fun _ _ h => .done (.of_eq (fun _ => rfl) h))
    StoreError.database

theorem alike_connect : Alike (apartFrom hidden Q) Eq connect connect :=
  alike_of_silent silent_connect

theorem alike_select {sql : String} {args : List Json} (limit : Option Nat)
    (hlimit : limit ≠ some 0) :
    Alike (apartFrom hidden Q) (fun rows rows' => List.Forall₂ (Fields.Alike hidden) rows rows' ∧
        ∃ rs rs', Q rs rs' ∧ rs.decode limit = .ok rows ∧ rs'.decode limit = .ok rows')
      (select sql args limit) (select sql args limit) := by
  refine alike_connect.bind_same fun _ => ?_
  simp only [if_neg hlimit]
  refine (alike_run _).bind fun rs rs' ⟨halike, hQ⟩ => alike_ofExcept ?_
  refine (halike.decode_alike limit).with_values.mono ?_
  rintro rows rows' ⟨hrows, hread, hread'⟩
  exact ⟨hrows, rs, rs', hQ, hread, hread'⟩

theorem alike_execute (autocommit : Bool) (sql : String) (args : List Json) :
    Alike (apartFrom hidden Q) Eq (execute autocommit sql args) (execute autocommit sql args) := by
  refine alike_connect.bind_same fun _ => ?_
  split
  · exact (alike_run _).bind fun rs rs' ⟨halike, _⟩ => alike_pure halike.affected
  · refine (alike_control .start).bind_same fun _ => ?_
    refine (alike_lift (alike_run _)).bind fun out out' hout => ?_
    cases hout with
    | ok halike => exact (alike_control .commit).bind_same fun _ => alike_pure halike.1.affected
    | error e =>
      -- whether the rollback fails too shows in the log alone
      refine (alike_lift (alike_control .rollback)).bind fun out out' hout => ?_
      cases hout with
      | ok _ => exact alike_throw e
      | error d =>
        exact (alike_of_silent (silent_lift (Action.silent_log _))).bind_same fun _ => alike_throw e

end Database

namespace Entity

variable {α : Type} [Entity α] {E : α → α → Prop} {s : Schema}

/-- Of rows that are the same apart from the hidden field, both are no entities, or both are
entities that stand in a relation. -/
def Conceals (hidden : String) (E : α → α → Prop) : Prop :=
  ∀ fs gs, Fields.Alike hidden fs gs → SameOutcome E (ofFields fs) (ofFields gs)

theorem conceals_of_decode (h : ∀ fs gs, Fields.Alike hidden fs gs →
    Option.Rel E (Entity.decode (.object fs)) (Entity.decode (.object gs))) :
    Conceals hidden E := by
  intro fs gs hfields
  have hrel := h fs gs hfields
  unfold ofFields
  generalize (Entity.decode (.object fs) : Option α) = v,
    (Entity.decode (.object gs) : Option α) = w at hrel
  cases hrel with
  | none => exact .error _
  | some hvw => exact .ok hvw

theorem ofRows_cons (fs : Fields) (rows : List Fields) :
    (ofRows (fs :: rows) : Except StoreError (List α)) =
      ofFields fs >>= fun v => (ofRows rows).map (v :: ·) := by
  rw [ofRows]
  cases (ofFields fs : Except StoreError α) <;> rfl

theorem Conceals.ofRows_alike (h : Conceals hidden E) {rows rows' : List Fields}
    (hrows : List.Forall₂ (Fields.Alike hidden) rows rows') :
    SameOutcome (List.Forall₂ E) (ofRows rows) (ofRows rows') := by
  induction hrows with
  | nil => exact .ok .nil
  | @cons fs gs rows rows' hfields _ ih =>
    rw [ofRows_cons, ofRows_cons]
    exact .cons (h fs gs hfields) ih

theorem alike_find (h : Conceals hidden E) (hs : Entity.schema α = .ok s) (key : Json) :
    Alike (apartFrom hidden Q) (Option.Rel E) (find α key) (find α key) := by
  rw [find_eq hs]
  refine (Database.alike_select (some 1) nofun).bind fun rows rows' ⟨hrows, _⟩ => ?_
  cases hrows with
  | nil => exact alike_pure .none
  | cons hfirst _ =>
    exact (alike_ofExcept (h _ _ hfirst)).bind fun _ _ hvw => alike_pure (.some hvw)

theorem alike_findAll (h : Conceals hidden E) (hs : Entity.schema α = .ok s) (q : FindAll) :
    Alike (apartFrom hidden Q) (fun vs vs' => List.Forall₂ E vs vs' ∧
        ∃ rs rs', Q rs rs' ∧ ofResult rs = .ok vs ∧ ofResult rs' = .ok vs')
      (findAll α q) (findAll α q) := by
  rw [findAll_eq hs]
  refine (Database.alike_select none nofun).bind fun rows rows' hselected => ?_
  obtain ⟨hrows, rs, rs', hQ, hread, hread'⟩ := hselected
  refine alike_ofExcept ((h.ofRows_alike hrows).with_values.mono ?_)
  rintro vs vs' ⟨hvs, hof, hof'⟩
  exact ⟨hvs, rs, rs', hQ, by rw [ofResult, hread]; exact hof, by rw [ofResult, hread']; exact hof'⟩

theorem alike_findNumber (hhidden : numberLabel ≠ hidden) (hs : Entity.schema α = .ok s)
    (expr : String) (filter : Option String) (args : List Json) :
    Alike (apartFrom hidden Q) Eq (findNumber α expr filter args)
      (findNumber α expr filter args) := by
  rw [findNumber_eq hs]
  refine (Database.alike_select (some 1) nofun).bind fun rows rows' ⟨hrows, _⟩ => ?_
  cases hrows with
  | nil => exact alike_pure rfl
  | cons hfirst _ => exact alike_pure (hfirst.get?_eq hhidden)

theorem alike_expectOne (entry : LogEntry) (n : Nat) :
    Alike (apartFrom hidden Q) Eq (expectOne entry n) (expectOne entry n) :=
  alike_of_silent (silent_expectOne entry n)

theorem alike_save (hs : Entity.schema α = .ok s) (hoffline : s.Offline) (autocommit : Bool)
    (v : α) :
    Alike (apartFrom hidden Q) Eq (save autocommit v) (save autocommit v) := by
  have hsilent := Record.silent_insertArgs (r := toRecord s v) hoffline
  rw [save_eq hs]
  refine (alike_of_silent (silent_lift hsilent)).bind_same fun p => ?_
  refine (alike_of_silent (silent_ofExcept _)).bind_same fun args => ?_
  refine (Database.alike_execute _ _ _).bind_same fun n => ?_
  exact (alike_expectOne _ n).bind_same fun _ => alike_of_silent (silent_ofExcept _)

theorem alike_update (hs : Entity.schema α = .ok s) (autocommit : Bool) (v : α) :
    Alike (apartFrom hidden Q) Eq (update autocommit v) (update autocommit v) := by
  rw [update_eq hs]
  exact (Database.alike_execute _ _ _).bind_same (alike_expectOne _)

theorem alike_remove (hs : Entity.schema α = .ok s) (autocommit : Bool) (v : α) :
    Alike (apartFrom hidden Q) Eq (remove autocommit v) (remove autocommit v) := by
  rw [remove_eq hs]
  exact (Database.alike_execute _ _ _).bind_same (alike_expectOne _)

end Entity
end Answers
end Weblog
