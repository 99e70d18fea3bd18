import Mathlib.Data.List.Basic
import Weblog.Proofs.Action
import Weblog.Proofs.Fallible
import Weblog.Proofs.Store.Insertion

/-!
# Weblog.Proofs.Store.Operations

Operations on a record, in sequences of any length.

* `Operation`, `perform`, `performAll`: reads, arguments of writes, and assignments.
* `Step`, `Step.Sound`: one operation with the defaults that it resolved.
* `exists_given`, `exists_steps`: every run of operations consists of such steps.
* `Step.Sound.keeps`: a value is kept by every operation but its own assignment, and read as it is.
* `defaults_resolved_once`: what a read with a default yielded is what all later reads yield.
-/

namespace Weblog
namespace Record

open Declaration (Built)

/-- What may be done with a record. -/
inductive Operation where
  | get (attr : String)
  | value (attr : String)
  | valueOrDefault (attr : String)
  | insertArgs
  | updateArgs
  | keyValue
  | set (attr : String) (v : Json)

/-- What an operation answers: the value of an attribute, or those of all attributes in the order of
a write. -/
inductive Answer where
  | one (out : Except StoreError Json)
  | all (out : Except StoreError (List Json))
  | nothing

def perform (r : Record) : Operation → Action (Answer × Record)
  | .get a => .done (.one (r.get a), r)
  | .value a => .done (.one (.ok (r.value a)), r)
  | .valueOrDefault a => (fun p => (.one p.1, p.2)) <$> r.valueOrDefault a
  | .insertArgs => (fun p => (.all p.1, p.2)) <$> r.insertArgs
  | .updateArgs => .done (.all (.ok r.updateArgs), r)
  | .keyValue => .done (.one (.ok r.keyValue), r)
  | .set a v => .done (.nothing, r.set a v)

/-- One operation after the other. -/
def performAll (r : Record) : List Operation → Action (List Answer × Record)
  | [] => .done ([], r)
  | op :: ops => do
    let (answer, r) ← r.perform op
    let (answers, r) ← r.performAll ops
    return (answer :: answers, r)

namespace Operation

/-- The operation reads the attribute. -/
def Reads (s : Schema) (a : String) : Operation → Prop
  | .get b | .value b | .valueOrDefault b => b = a
  | .insertArgs | .updateArgs => a ∈ s.writeOrder
  | .keyValue => s.key = a
  | .set _ _ => False

/-- The operation assigns a value to the attribute. -/
def Sets (a : String) : Operation → Prop
  | .set b _ => b = a
  | _ => False

/-- The operation reads what is there. -/
def IsPlain : Operation → Prop
  | .get _ | .value _ | .updateArgs | .keyValue => True
  | .valueOrDefault _ | .insertArgs | .set _ _ => False

/-- The fields whose defaults the operation may resolve, in order. -/
def fields (s : Schema) : Operation → List Field
  | .valueOrDefault a => (s.field? a).toList
  | .insertArgs => s.writeOrder.filterMap s.field?
  | _ => []

/-- The record with the value that the operation assigns. -/
def assigned (r : Record) : Operation → Record
  | .set a v => r.set a v
  | _ => r

end Operation

/-- What an answer says of an attribute, where the attributes of a write stand in this order. -/
def Answer.at? (order : List String) (a : String) : Answer → Option Json
  | .one (.ok v) => some v
  | .all (.ok vs) => (order.zip vs).lookup a
  | _ => none

/-- An operation on a record, with the values that defaults gave in its course. -/
structure Step where
  op : Operation
  before : Record
  given : List (Field × Json)
  exchanges : List Exchange
  answer : Answer
  after : Record

/-- The step is a run of its operation, in which exactly the defaults beside the given values were
resolved, each once: those of the fields of the operation that lacked a value. -/
structure Step.Sound (t : Step) : Prop where
  runs : Action.Runs (t.before.perform t.op) t.exchanges (t.answer, t.after)
  called : t.given.map Prod.fst = (t.op.fields t.before.schema).filter t.before.lacks
  provided : Provided t.given t.exchanges
  left : t.after = (t.op.assigned t.before).supplied t.given

/-- Each step begins with the record that the one before it left. -/
inductive Linked : Record → List Step → Record → Prop where
  | nil (r : Record) : Linked r [] r
  | cons {t : Step} {ts : List Step} {r : Record} : Linked t.after ts r → Linked t.before (t :: ts) r

variable {d : Declaration} {s : Schema} {key : Field} {r r' : Record} {op : Operation}
  {es : List Exchange} {answer : Answer} {a : String} {v : Json} {t : Step}

theorem linked_append_iff {ts us : List Step} :
    Linked r (ts ++ us) r' ↔ ∃ r₁, Linked r ts r₁ ∧ Linked r₁ us r' := by
  induction ts generalizing r with
  | nil =>
    constructor
    · exact fun h => ⟨r, .nil r, h⟩
    · rintro ⟨r₁, h, hus⟩
      cases h
      exact hus
  | cons t ts ih =>
    constructor
    · intro h
      cases h with
      | cons h =>
        obtain ⟨r₁, hts, hus⟩ := ih.1 h
        exact ⟨r₁, .cons hts, hus⟩
    · rintro ⟨r₁, h, hus⟩
      cases h with
      | cons h => exact .cons (ih.2 ⟨r₁, h, hus⟩)

/-! ## One operation -/

theorem reads_of_mem_fields {f : Field} (h : f ∈ op.fields s) : op.Reads s f.attr := by
  have hattr : ∀ {b : String}, s.field? b = some f → f.attr = b := fun hf => by
    simpa using List.find?_some hf
  cases op with
  | valueOrDefault b => exact (hattr (Option.mem_toList.1 h)).symm
  | insertArgs =>
    obtain ⟨b, hb, hf⟩ := List.mem_filterMap.1 h
    rw [Operation.Reads, hattr hf]
    exact hb
  | _ => cases h

theorem fields_insertArgs (hb : Built d s key) :
    Operation.insertArgs.fields s = d.writeFields key := by
  have hfound : ∀ f ∈ d.writeFields key, s.field? f.attr = some f := fun f hf =>
    hb.field?_of_mem (hb.mem_fields hf)
  rw [Operation.fields, hb.writeOrder_eq, List.filterMap_map]
  calc (d.writeFields key).filterMap (s.field? ∘ Field.attr)
      = (d.writeFields key).filterMap some := List.filterMap_congr hfound
    _ = d.writeFields key := List.filterMap_some

/-- An operation that ends at once and has no fields resolves no default. -/
theorem sound_of_done (hop : r.perform op = .done (answer, op.assigned r))
    (hfields : op.fields r.schema = []) {answer' : Answer}
    (h : Action.Runs (r.perform op) es (answer', r')) : Step.Sound ⟨op, r, [], es, answer', r'⟩ := by
  have hruns := h
  rw [hop] at h
  obtain ⟨rfl, he⟩ := Action.runs_done_iff.1 h
  cases he
  exact ⟨hruns, by simp [hfields], .nil, rfl⟩

/-- Every run of an operation resolves the defaults of the fields of the operation that lack a value,
and no other ones. -/
theorem exists_given (hb : Built d s key) (hs : r.schema = s)
    (h : Action.Runs (r.perform op) es (answer, r')) :
    ∃ given, Step.Sound ⟨op, r, given, es, answer, r'⟩ := by
  have hruns := h
  cases op with
  | valueOrDefault b =>
    obtain ⟨⟨out, r₁⟩, hread, he⟩ := Action.runs_map_iff.1 h
    cases he
    cases hf : r.schema.field? b with
    | none =>
      rw [valueOrDefault_of_unknown hf] at hread
      obtain ⟨rfl, he⟩ := Action.runs_done_iff.1 hread
      cases he
      exact ⟨[], hruns, by simp [Operation.fields, hf], .nil, rfl⟩
    | some f =>
      obtain rfl : f.attr = b := by simpa using List.find?_some hf
      obtain ⟨given, hcalled, hprovided, hleft, -⟩ := (runs_valueOrDefault_iff hf).1 hread
      exact ⟨given, hruns, by simp [Operation.fields, hf, hcalled], hprovided, hleft⟩
  | insertArgs =>
    obtain ⟨⟨out, r₁⟩, hread, he⟩ := Action.runs_map_iff.1 h
    cases he
    obtain ⟨given, hresolved⟩ := (runs_insertArgs_iff hb hs).1 hread
    refine ⟨given, hruns, ?_, hresolved.provided, hresolved.left⟩
    rw [hs, fields_insertArgs hb, hresolved.called]
  | _ => exact ⟨[], sound_of_done rfl rfl h⟩

theorem lookup_zip_map {order : List String} (h : a ∈ order) (f : String → Json) :
    (order.zip (order.map f)).lookup a = some (f a) := by
  induction order with
  | nil => cases h
  | cons b rest ih =>
    by_cases he : a = b
    · simp [he]
    · have hrest : a ∈ rest := List.mem_of_ne_of_mem he h
      rw [List.map_cons, List.zip_cons_cons, List.lookup_cons, beq_false_of_ne he]
      exact ih hrest

namespace Step.Sound

/-- A field whose default was resolved lacked a value, and is one of the operation. -/
theorem of_given (h : t.Sound) {p : Field × Json} (hp : p ∈ t.given) :
    p.1 ∈ t.op.fields t.before.schema ∧ t.before.lacks p.1 = true := by
  have hmem := List.mem_map_of_mem (f := Prod.fst) hp
  rw [h.called] at hmem
  exact List.mem_filter.1 hmem

theorem schema_eq (h : t.Sound) : t.after.schema = t.before.schema := by
  rw [h.left, schema_supplied]
  cases t.op <;> rfl

/-- No default is resolved for an attribute that has a value. -/
theorem not_given (h : t.Sound) (hvalue : Fields.get? a t.before.values = some v) (hv : v ≠ .null) :
    ∀ p ∈ t.given, p.1.attr ≠ a := by
  rintro p hp rfl
  have hlacks := (h.of_given hp).2
  simp [Record.lacks, value_of_get? hvalue, hv] at hlacks

/-- An attribute that is not assigned and not resolved is as it was. -/
theorem get?_eq (h : t.Sound) (hsets : ¬ t.op.Sets a) (hgiven : ∀ p ∈ t.given, p.1.attr ≠ a) :
    Fields.get? a t.after.values = Fields.get? a t.before.values := by
  rw [h.left, get?_supplied_of_ne hgiven]
  cases hop : t.op with
  | set b w =>
    rw [hop] at hsets
    exact get?_set_of_ne (Ne.symm hsets) _ _
  | _ => rfl

/-- A value is kept by every operation that does not assign another one. -/
theorem keeps (h : t.Sound) (hvalue : Fields.get? a t.before.values = some v) (hv : v ≠ .null)
    (hsets : ¬ t.op.Sets a) : Fields.get? a t.after.values = some v := by
  rw [h.get?_eq hsets (h.not_given hvalue hv), hvalue]

theorem of_isPlain (h : t.Sound) (hplain : t.op.IsPlain) :
    t.given = [] ∧ t.exchanges = [] ∧ t.after = t.before := by
  have hgiven : t.given = [] := by
    have hcalled := h.called
    cases hop : t.op <;> simp_all [Operation.IsPlain, Operation.fields]
  refine ⟨hgiven, ?_, ?_⟩
  · have hprovided := h.provided
    rw [hgiven] at hprovided
    exact Provided.nil_iff.1 hprovided
  · rw [h.left, hgiven, supplied_nil]
    cases hop : t.op <;> simp_all [Operation.IsPlain, Operation.assigned]

/-- An attribute that the operation neither reads nor assigns is as it was. -/
theorem get?_of_not_concerned (h : t.Sound) (hreads : ¬ t.op.Reads t.before.schema a)
    (hsets : ¬ t.op.Sets a) : Fields.get? a t.after.values = Fields.get? a t.before.values :=
  h.get?_eq hsets fun _ hp he => hreads (he ▸ reads_of_mem_fields (h.of_given hp).1)

/-- A value that a read with a default yields is there afterwards. -/
theorem get?_after (h : t.Sound) (hop : t.op = .valueOrDefault a)
    (hanswer : t.answer = .one (.ok v)) (hv : v ≠ .null) :
    Fields.get? a t.after.values = some v := by
  have hruns := h.runs
  rw [hop, hanswer] at hruns
  obtain ⟨⟨out, r₁⟩, hread, he⟩ := Action.runs_map_iff.1 hruns
  cases he
  cases hf : t.before.schema.field? a with
  | none =>
    rw [valueOrDefault_of_unknown hf] at hread
    obtain ⟨-, he⟩ := Action.runs_done_iff.1 hread
    obtain ⟨hout, hafter⟩ : _ ∧ t.after = t.before := Prod.mk.inj he
    by_cases hnull : t.before.value a = .null
    · simp [hnull] at hout
    · rw [if_pos hnull] at hout
      rw [hafter]
      exact get?_of_value (Except.ok.inj hout).symm hv
  | some f =>
    obtain rfl : f.attr = a := by simpa using List.find?_some hf
    obtain ⟨-, -, -, -, hout⟩ := (runs_valueOrDefault_iff hf).1 hread
    exact get?_of_value (Except.ok.inj hout).symm hv

/-- A value that is there is what every operation that reads its attribute answers. -/
theorem answer_eq (hb : Built d s key) (hs : t.before.schema = s) (h : t.Sound)
    (hvalue : Fields.get? a t.before.values = some v) (hv : v ≠ .null) (hreads : t.op.Reads s a) :
    t.answer.at? s.writeOrder a = some v := by
  have hruns := h.runs
  have hbefore := value_of_get? hvalue
  cases hop : t.op with
  | get b =>
    rw [hop] at hruns hreads
    obtain rfl : b = a := hreads
    rw [(Prod.mk.inj (Action.runs_done_iff.1 hruns).2).1, Record.get, hvalue]
    rfl
  | value b =>
    rw [hop] at hruns hreads
    obtain rfl : b = a := hreads
    rw [(Prod.mk.inj (Action.runs_done_iff.1 hruns).2).1, hbefore]
    rfl
  | valueOrDefault b =>
    rw [hop] at hruns hreads
    obtain rfl : b = a := hreads
    obtain ⟨p, hread, he⟩ := Action.runs_map_iff.1 hruns
    rw [valueOrDefault_of_ne_null (hbefore.symm ▸ hv), hbefore] at hread
    obtain ⟨-, rfl⟩ := Action.runs_done_iff.1 hread
    rw [(Prod.mk.inj he).1]
    rfl
  | insertArgs =>
    have hafter := value_of_get? (h.keeps hvalue hv (by rw [hop]; exact id))
    rw [hop] at hruns hreads
    obtain ⟨⟨out, r₁⟩, hread, he⟩ := Action.runs_map_iff.1 hruns
    obtain ⟨hanswer, hleft⟩ : t.answer = .all out ∧ t.after = r₁ := Prod.mk.inj he
    rw [hanswer, (settled_of_runs_insertArgs hb hs hread).yields, ← hleft, ← hafter]
    exact lookup_zip_map hreads t.after.value
  | updateArgs =>
    rw [hop] at hruns hreads
    rw [(Prod.mk.inj (Action.runs_done_iff.1 hruns).2).1, updateArgs, hs, ← hbefore]
    exact lookup_zip_map hreads t.before.value
  | keyValue =>
    rw [hop] at hruns hreads
    obtain rfl : s.key = a := hreads
    rw [(Prod.mk.inj (Action.runs_done_iff.1 hruns).2).1, Record.keyValue, hs, hbefore]
    rfl
  | set b w =>
    rw [hop] at hreads
    exact hreads.elim

end Step.Sound

/-! ## Operations in a row -/

/-- A value is kept by all operations up to one that assigns another. -/
theorem Linked.keeps {ts : List Step} (h : Linked r ts r') (hsound : ∀ t ∈ ts, t.Sound)
    (hvalue : Fields.get? a r.values = some v) (hv : v ≠ .null)
    (hsets : ∀ t ∈ ts, ¬ t.op.Sets a) : Fields.get? a r'.values = some v := by
  induction h with
  | nil => exact hvalue
  | cons _ ih =>
    obtain ⟨hfirst, hrest⟩ := List.forall_mem_cons.1 hsound
    obtain ⟨hset, hsets⟩ := List.forall_mem_cons.1 hsets
    exact ih hrest (hfirst.keeps hvalue hv hset) hsets

/-- Every run of operations consists of steps, one for each. -/
theorem exists_steps (hb : Built d s key) {ops : List Operation} {answers : List Answer}
    (hs : r.schema = s) (h : Action.Runs (r.performAll ops) es (answers, r')) :
    ∃ ts : List Step, ts.map Step.op = ops ∧ ts.map Step.answer = answers ∧
      ts.flatMap Step.exchanges = es ∧ Linked r ts r' ∧
      ∀ t ∈ ts, t.Sound ∧ t.before.schema = s := by
  induction ops generalizing r es answers with
  | nil =>
    obtain ⟨rfl, he⟩ := Action.runs_done_iff.1 h
    cases he
    exact ⟨[], rfl, rfl, rfl, .nil _, fun _ ht => nomatch ht⟩
  | cons op ops ih =>
    obtain ⟨fs, gs, ⟨answer, r₁⟩, rfl, hfirst, hrest⟩ := Action.runs_bind_iff.1 h
    obtain ⟨gs, ks, ⟨others, r₂⟩, rfl, hothers, hdone⟩ := Action.runs_bind_iff.1 hrest
    obtain ⟨rfl, he⟩ := Action.runs_done_iff.1 hdone
    cases he
    obtain ⟨given, hstep⟩ := exists_given hb hs hfirst
    obtain ⟨ts, hops, hanswers, hes, hlinked, hall⟩ := ih (hstep.schema_eq.trans hs) hothers
    refine ⟨⟨op, r, given, fs, answer, r₁⟩ :: ts, ?_, ?_, ?_, .cons hlinked, ?_⟩
    · rw [List.map_cons, hops]
    · rw [List.map_cons, hanswers]
    · rw [List.flatMap_cons, hes, List.append_nil]
    · exact List.forall_mem_cons.2 ⟨⟨hstep, hs⟩, hall⟩

/-- For every model that was checked, every record of it and all operations on it, in whatever order
and number: once a read with a default yielded a value, the value is what every later read of the
attribute yields, and no default is resolved for the attribute, until it is assigned another one.
Plain reads resolve nothing and change nothing, and operations on other attributes leave the attribute
as it was. -/
theorem defaults_resolved_once (hb : d.build = .ok s) (hs : r.schema = s) (ops : List Operation) :
    (∀ world : List Exchange → (e : Effect) → e.Answer, ∃ es answers r',
      Action.Runs (r.performAll ops) es (answers, r') ∧
        EachAfter (fun before y => y.answer = world before y.effect) es) ∧
    ∀ es answers r', Action.Runs (r.performAll ops) es (answers, r') →
      ∃ ts : List Step, ts.map Step.op = ops ∧ ts.map Step.answer = answers ∧
        ts.flatMap Step.exchanges = es ∧ Linked r ts r' ∧ (∀ t ∈ ts, t.Sound) ∧
        (∀ a v before t mid u after, ts = before ++ t :: mid ++ u :: after →
          t.op = .valueOrDefault a → t.answer = .one (.ok v) → v ≠ .null →
          (∀ m ∈ mid, ¬ m.op.Sets a) →
          (∀ p ∈ u.given, p.1.attr ≠ a) ∧
            (u.op.Reads s a → u.answer.at? s.writeOrder a = some v)) ∧
        (∀ t ∈ ts, t.op.IsPlain → t.given = [] ∧ t.exchanges = [] ∧ t.after = t.before) ∧
        ∀ t ∈ ts, ∀ a, ¬ t.op.Reads s a → ¬ t.op.Sets a →
          Fields.get? a t.after.values = Fields.get? a t.before.values := by
  obtain ⟨key, hbuilt⟩ := Declaration.exists_built hb
  refine ⟨?ends, fun es answers r' h => ?runs⟩
  case ends =>
    intro world
    obtain ⟨es, ⟨answers, r'⟩, hruns, hworld⟩ := (r.performAll ops).exists_runs_answered world
    exact ⟨es, answers, r', hruns, hworld⟩
  case runs =>
    obtain ⟨ts, hops, hanswers, hes, hlinked, hall⟩ := exists_steps hbuilt hs h
    have hsound : ∀ t ∈ ts, t.Sound := fun t ht => (hall t ht).1
    refine ⟨ts, hops, hanswers, hes, hlinked, hsound, ?once, ?plain, ?others⟩
    case once =>
      intro a v before t mid u after hts hop hanswer hv hsets
      have htu : t ∈ ts ∧ u ∈ ts ∧ ∀ m ∈ mid, m ∈ ts := by simp +contextual [hts]
      obtain ⟨ht, hu, hmid⟩ := htu
      -- the value is there after the first read, and still there when the later one begins
      rw [hts, linked_append_iff] at hlinked
      obtain ⟨r₂, hfirst, hlast⟩ := hlinked
      obtain ⟨r₁, -, hfirst⟩ := linked_append_iff.1 hfirst
      cases hfirst with
      | cons hfirst =>
        cases hlast with
        | cons hlast =>
          have hafter := (hsound t ht).get?_after hop hanswer hv
          have hvalue := hfirst.keeps (fun m hm => hsound m (hmid m hm)) hafter hv hsets
          exact ⟨(hsound u hu).not_given hvalue hv,
            (hsound u hu).answer_eq hbuilt (hall u hu).2 hvalue hv⟩
    case plain => exact fun t ht => (hsound t ht).of_isPlain
    case others =>
      intro t ht a hreads hsets
      rw [← (hall t ht).2] at hreads
      exact (hsound t ht).get?_of_not_concerned hreads hsets

section Draft

def noteOperations : List Operation :=
  [.valueOrDefault "id", .set "title" (.string "ho"), .insertArgs, .valueOrDefault "id", .get "id"]

def noteAnswers : List Answer :=
  [.one (.ok (.string "n1")), .nothing, .all (.ok [.string "ho", .bool false, .string "n1"]),
    .one (.ok (.string "n1")), .one (.ok (.string "n1"))]

def editedNote : Record := savedNote.set "title" (.string "ho")

/-- The id that a note drew is the one it has from then on. -/
theorem defaults_resolved_once_draftNote :
    ∃ t ts, (t :: ts).map Step.op = noteOperations ∧ (t :: ts).map Step.answer = noteAnswers ∧
      Linked draftNote (t :: ts) editedNote ∧
      ∀ mid u after, ts = mid ++ u :: after →
        (∀ p ∈ u.given, p.1.attr ≠ "id") ∧
          (u.op.Reads noteSchema "id" →
            u.answer.at? noteSchema.writeOrder "id" = some (.string "n1")) := by
  have hbuild : noteModel.build = .ok noteSchema := rfl
  have hschema : draftNote.schema = noteSchema := rfl
  have hruns : Action.Runs (draftNote.performAll noteOperations) [⟨.draw "id", Json.string "n1"⟩]
      (noteAnswers, editedNote) := .ask .done
  obtain ⟨-, hall⟩ := defaults_resolved_once hbuild hschema noteOperations
  obtain ⟨ts, hops, hanswers, -, hlinked, -, honce, -, -⟩ := hall _ _ _ hruns
  cases ts with
  | nil => cases hops
  | cons t ts =>
    refine ⟨t, ts, hops, hanswers, hlinked, fun mid u after hts => ?_⟩
    obtain ⟨hop, hlater⟩ := List.cons.inj hops
    refine honce "id" _ [] t mid u after (congrArg (t :: ·) hts) hop (List.cons.inj hanswers).1
      (fun he => nomatch he) fun m hm hsets => ?_
    -- what is assigned in between is the title
    have hmem : m.op ∈ ts.map Step.op := by
      rw [hts]
      exact List.mem_map_of_mem (List.mem_append_left _ hm)
    rw [hlater] at hmem
    simp only [List.mem_cons, List.not_mem_nil, or_false] at hmem
    rcases hmem with he | he | he | he <;> simp [he, Operation.Sets] at hsets

end Draft

end Record
end Weblog
