import Weblog.Action.Trace
import Weblog.Proofs.Sql.Schema
import Weblog.Store.Record

/-!
# Weblog.Proofs.Store.Record

What reading a record with defaults asks for and leaves behind.

* `Field.Provides`, `Provided`: a default that is resolved once, and several one after the other.
* `lacks`, `supplied`: whether reading a field asks for its default, and the record with the values
  that defaults gave.
* `runs_valueOrDefault_iff`: one read asks for the default of its field if it lacks a value.
* `Resolved`, `runs_resolve_iff`: several reads ask for the defaults of the fields that lack a value,
  each once and in order, whatever the world answers to them.
* `runs_insertArgs_iff`, `settled_of_runs_insertArgs`: so does an insert with the fields of a
  model that was checked, and its arguments are the values of its attributes afterwards.
-/

namespace Weblog

/-- The default of a field, resolved once, gives the value. -/
def Field.Provides (f : Field) (es : List Exchange) (v : Json) : Prop :=
  ∃ d, f.initial = some d ∧ Action.Runs d.resolve es v

/-- The defaults of fields, each resolved once and one after the other, give the values beside
them. -/
inductive Provided : List (Field × Json) → List Exchange → Prop where
  | nil : Provided [] []
  | cons {f : Field} {v : Json} {es fs : List Exchange} {given : List (Field × Json)} :
      f.Provides es v → Provided given fs → Provided ((f, v) :: given) (es ++ fs)

theorem Provided.nil_iff {es : List Exchange} : Provided [] es ↔ es = [] := by
  constructor
  · intro h
    cases h
    rfl
  · rintro rfl
    exact .nil

theorem Provided.singleton_iff {p : Field × Json} {es : List Exchange} :
    Provided [p] es ↔ p.1.Provides es p.2 := by
  constructor
  · intro h
    cases h with
    | cons hfirst hrest =>
      rw [nil_iff.1 hrest, List.append_nil]
      exact hfirst
  · intro h
    rw [← List.append_nil es]
    exact .cons h .nil

theorem Provided.append_iff {given more : List (Field × Json)} {es : List Exchange} :
    Provided (given ++ more) es ↔ ∃ fs gs, es = fs ++ gs ∧ Provided given fs ∧ Provided more gs := by
  induction given generalizing es with
  | nil =>
    constructor
    · exact fun h => ⟨[], es, rfl, .nil, h⟩
    · rintro ⟨fs, gs, rfl, hnil, hmore⟩
      rwa [nil_iff.1 hnil]
  | cons p given ih =>
    constructor
    · intro h
      cases h with
      | cons hfirst hrest =>
        obtain ⟨fs, gs, rfl, hgiven, hmore⟩ := ih.1 hrest
        exact ⟨_, gs, (List.append_assoc _ _ _).symm, .cons hfirst hgiven, hmore⟩
    · rintro ⟨_, gs, rfl, hgiven, hmore⟩
      cases hgiven with
      | cons hfirst hrest =>
        rw [List.cons_append, List.append_assoc]
        exact .cons hfirst (ih.2 ⟨_, gs, rfl, hrest, hmore⟩)

namespace Record

variable {r r' : Record} {es : List Exchange}

theorem value_set_self (r : Record) (attr : String) (v : Json) : (r.set attr v).value attr = v := by
  simp [value, set]

theorem get?_set_of_ne {attr other : String} (h : other ≠ attr) (r : Record) (v : Json) :
    Fields.get? other (r.set attr v).values = Fields.get? other r.values :=
  Fields.get?_set_of_ne h v r.values

theorem get?_of_value {attr : String} {v : Json} (h : r.value attr = v) (hv : v ≠ .null) :
    Fields.get? attr r.values = some v := by
  cases hget : Fields.get? attr r.values with
  | none =>
    rw [value, hget] at h
    exact absurd h.symm hv
  | some w =>
    rw [value, hget] at h
    exact congrArg some h

theorem value_of_get? {attr : String} {v : Json} (h : Fields.get? attr r.values = some v) :
    r.value attr = v := by
  rw [value, h]
  rfl

/-! ## Values from defaults -/

/-- Reading the field asks for its default: it has one, and the record has no value for it. -/
def lacks (r : Record) (f : Field) : Bool := decide (r.value f.attr = .null) && f.initial.isSome

/-- The record with values for fields. -/
def supplied (r : Record) (given : List (Field × Json)) : Record :=
  given.foldl (fun r p => r.set p.1.attr p.2) r

variable {given : List (Field × Json)}

@[simp] theorem supplied_nil (r : Record) : r.supplied [] = r := rfl

@[simp] theorem supplied_cons (r : Record) (p : Field × Json) (given : List (Field × Json)) :
    r.supplied (p :: given) = (r.set p.1.attr p.2).supplied given := rfl

theorem supplied_append (r : Record) (given more : List (Field × Json)) :
    r.supplied (given ++ more) = (r.supplied given).supplied more :=
  List.foldl_append

@[simp] theorem schema_supplied (r : Record) (given : List (Field × Json)) :
    (r.supplied given).schema = r.schema := by
  induction given generalizing r with
  | nil => rfl
  | cons p given ih => exact ih _

theorem get?_supplied_of_ne {key : String} (h : ∀ p ∈ given, p.1.attr ≠ key) (r : Record) :
    Fields.get? key (r.supplied given).values = Fields.get? key r.values := by
  induction given generalizing r with
  | nil => rfl
  | cons p given ih =>
    obtain ⟨hp, hrest⟩ := List.forall_mem_cons.1 h
    rw [supplied_cons, ih hrest]
    exact get?_set_of_ne hp.symm r p.2

/-- Of distinct fields each has the value that it was given. -/
theorem get?_supplied_of_mem (hdistinct : (given.map fun p => p.1.attr).Nodup) {p : Field × Json}
    (hp : p ∈ given) (r : Record) :
    Fields.get? p.1.attr (r.supplied given).values = some p.2 := by
  induction given generalizing r with
  | nil => cases hp
  | cons q given ih =>
    rw [List.map_cons, List.nodup_cons] at hdistinct
    rw [supplied_cons]
    rcases List.mem_cons.1 hp with rfl | hp
    · have hlater : ∀ q ∈ given, q.1.attr ≠ p.1.attr := fun q hq he =>
        hdistinct.1 (he ▸ List.mem_map_of_mem hq)
      rw [get?_supplied_of_ne hlater, set, Fields.get?_set_self]
    · exact ih hdistinct.2 hp _

theorem value_supplied_of_ne {key : String} (h : ∀ p ∈ given, p.1.attr ≠ key) (r : Record) :
    (r.supplied given).value key = r.value key := by
  rw [value, value, get?_supplied_of_ne h]

theorem lacks_supplied_of_ne {f : Field} (h : ∀ p ∈ given, p.1.attr ≠ f.attr) (r : Record) :
    (r.supplied given).lacks f = r.lacks f := by
  rw [lacks, lacks, value_supplied_of_ne h]

/-! ## One read -/

variable {attr : String} {f : Field}

theorem valueOrDefault_of_ne_null (h : r.value attr ≠ .null) :
    r.valueOrDefault attr = .done (.ok (r.value attr), r) :=
  if_pos h

theorem valueOrDefault_of_no_default (h : r.value attr = .null)
    (hf : r.schema.field? attr = some f) (hd : f.initial = none) :
    r.valueOrDefault attr = .done (.ok .null, r) := by
  simp [valueOrDefault, h, hf, hd]

theorem valueOrDefault_of_default {d : Default} (h : r.value attr = .null)
    (hf : r.schema.field? attr = some f) (hd : f.initial = some d) :
    r.valueOrDefault attr = (fun v => (.ok v, r.set attr v)) <$> d.resolve := by
  simp only [valueOrDefault, h, hf, hd, map_eq_pure_bind]
  rfl

/-- An attribute without a field is read without asking for anything. -/
theorem valueOrDefault_of_unknown (hf : r.schema.field? attr = none) :
    r.valueOrDefault attr = .done (if r.value attr ≠ .null then .ok (r.value attr)
      else .error (.unknownField r.schema.name attr), r) := by
  rw [valueOrDefault, hf]
  by_cases hv : r.value attr = .null
  · rw [if_neg (Decidable.not_not.2 hv), if_neg (Decidable.not_not.2 hv)]
  · rw [if_pos hv, if_pos hv]

/-- One read asks for the default of its field if the record lacks a value for it, keeps what it is
given, and yields what the record has then. -/
theorem runs_valueOrDefault_iff {out : Except StoreError Json}
    (hf : r.schema.field? f.attr = some f) :
    Action.Runs (r.valueOrDefault f.attr) es (out, r') ↔ ∃ given,
      given.map Prod.fst = [f].filter r.lacks ∧ Provided given es ∧ r' = r.supplied given ∧
        out = .ok (r'.value f.attr) := by
  -- a read that ends at once asks for nothing
  have hdone : r.valueOrDefault f.attr = .done (.ok (r.value f.attr), r) →
      [f].filter r.lacks = [] → (Action.Runs (r.valueOrDefault f.attr) es (out, r') ↔ ∃ given,
        given.map Prod.fst = [f].filter r.lacks ∧ Provided given es ∧ r' = r.supplied given ∧
          out = .ok (r'.value f.attr)) := by
    intro hread hlacks
    rw [hread, hlacks, Action.runs_done_iff]
    constructor
    · rintro ⟨rfl, h⟩
      cases h
      exact ⟨[], rfl, .nil, rfl, rfl⟩
    · rintro ⟨given, hgiven, hprovided, rfl, rfl⟩
      obtain rfl := List.map_eq_nil_iff.1 hgiven
      exact ⟨Provided.nil_iff.1 hprovided, rfl⟩
  by_cases hv : r.value f.attr = .null
  · cases hd : f.initial with
    | none =>
      refine hdone ?_ (by simp [lacks, hd])
      rw [valueOrDefault_of_no_default hv hf hd, hv]
    | some d =>
      have hlacks : [f].filter r.lacks = [f] := by simp [lacks, hv, hd]
      rw [valueOrDefault_of_default hv hf hd, Action.runs_map_iff, hlacks]
      constructor
      · rintro ⟨v, hres, h⟩
        cases h
        refine ⟨[(f, v)], rfl, Provided.singleton_iff.2 ⟨d, hd, hres⟩, rfl, ?_⟩
        rw [value_set_self]
      · rintro ⟨given, hgiven, hprovided, rfl, rfl⟩
        obtain ⟨p, rfl, rfl⟩ := List.map_eq_singleton_iff.1 hgiven
        obtain ⟨d', hd', hres⟩ := Provided.singleton_iff.1 hprovided
        obtain rfl : d = d' := Option.some.inj (hd.symm.trans hd')
        refine ⟨p.2, hres, ?_⟩
        rw [supplied_cons, supplied_nil, value_set_self]
  · exact hdone (valueOrDefault_of_ne_null hv) (by simp [lacks, hv])

/-! ## Several reads -/

/-- Attributes that have values are read without asking for anything, and leave the record as it
was. -/
theorem resolve_append {attrs : List String} (h : ∀ a ∈ attrs, r.value a ≠ .null)
    (more : List String) :
    r.resolve (attrs ++ more) =
      (fun p => (p.1.map (attrs.map r.value ++ ·), p.2)) <$> r.resolve more := by
  induction attrs with
  | nil =>
    have hid : (fun p : Except StoreError (List Json) × Record =>
        (p.1.map (([] : List String).map r.value ++ ·), p.2)) = id := by
      funext ⟨out, r'⟩
      cases out <;> rfl
    rw [List.nil_append, hid, id_map]
  | cons a rest ih =>
    have hrest := ih fun b hb => h b (List.mem_cons_of_mem a hb)
    rw [List.cons_append, resolve, valueOrDefault_of_ne_null (h a List.mem_cons_self),
      Action.done_bind]
    dsimp only
    rw [hrest, map_eq_pure_bind, map_eq_pure_bind, bind_assoc]
    refine congrArg (r.resolve more >>= ·) (funext fun p => ?_)
    obtain ⟨out, r'⟩ := p
    cases out <;> rfl

/-- Several reads of a record, one of each field: the defaults of the fields that lack a value are
resolved in their order and each once, their values are kept, and what the record has then is
returned. -/
structure Resolved (fields : List Field) (r : Record) (given : List (Field × Json))
    (es : List Exchange) (out : Except StoreError (List Json)) (r' : Record) : Prop where
  called : given.map Prod.fst = fields.filter r.lacks
  provided : Provided given es
  left : r' = r.supplied given
  returned : out = .ok (fields.map fun f => r'.value f.attr)

/-- Only fields that were read are given a value. -/
theorem Resolved.mem {fields : List Field} {out : Except StoreError (List Json)}
    (h : Resolved fields r given es out r') {p : Field × Json} (hp : p ∈ given) : p.1 ∈ fields := by
  have hmem := List.mem_map_of_mem (f := Prod.fst) hp
  rw [h.called] at hmem
  exact (List.mem_filter.1 hmem).1

/-- Only fields that lacked a value are given one. -/
theorem Resolved.lacks {fields : List Field} {out : Except StoreError (List Json)}
    (h : Resolved fields r given es out r') {p : Field × Json} (hp : p ∈ given) :
    r.lacks p.1 = true := by
  have hmem := List.mem_map_of_mem (f := Prod.fst) hp
  rw [h.called] at hmem
  exact (List.mem_filter.1 hmem).2

/-- A value that was there is kept. -/
theorem Resolved.get?_of_ne_null {fields : List Field} {out : Except StoreError (List Json)}
    (h : Resolved fields r given es out r') {key : String} {v : Json}
    (hvalue : Fields.get? key r.values = some v) (hv : v ≠ .null) :
    (∀ p ∈ given, p.1.attr ≠ key) ∧ Fields.get? key r'.values = some v := by
  have hne : ∀ p ∈ given, p.1.attr ≠ key := by
    rintro p hp rfl
    have hlacks := h.lacks hp
    simp [Record.lacks, value, hvalue, hv] at hlacks
  rw [h.left, get?_supplied_of_ne hne]
  exact ⟨hne, hvalue⟩

theorem runs_resolve_cons_iff {attrs : List String} {out : Except StoreError (List Json)}
    (hf : r.schema.field? f.attr = some f) :
    Action.Runs (r.resolve (f.attr :: attrs)) es (out, r') ↔ ∃ fs gs r₁ others, es = fs ++ gs ∧
      Action.Runs (r.valueOrDefault f.attr) fs (.ok (r₁.value f.attr), r₁) ∧
      Action.Runs (r₁.resolve attrs) gs (others, r') ∧ out = others.map (r₁.value f.attr :: ·) := by
  constructor
  · intro h
    obtain ⟨fs, gs, ⟨first, r₁⟩, rfl, hfirst, hrest⟩ := Action.runs_bind_iff.1 h
    obtain ⟨-, -, -, -, rfl⟩ := (runs_valueOrDefault_iff hf).1 hfirst
    obtain ⟨gs, hs, ⟨others, r₂⟩, rfl, hothers, hdone⟩ := Action.runs_bind_iff.1 hrest
    obtain ⟨rfl, he⟩ := Action.runs_done_iff.1 hdone
    cases he
    exact ⟨fs, gs, r₁, others, by rw [List.append_nil], hfirst, hothers, rfl⟩
  · rintro ⟨fs, gs, r₁, others, rfl, hfirst, hothers, rfl⟩
    refine hfirst.bind ?_
    rw [← List.append_nil gs]
    exact hothers.bind .done

/-- Reads of distinct fields ask for the defaults of those that lack a value. -/
theorem runs_resolve_iff {fields : List Field} (hdistinct : (fields.map Field.attr).Nodup)
    (hknown : ∀ f ∈ fields, r.schema.field? f.attr = some f) {out : Except StoreError (List Json)} :
    Action.Runs (r.resolve (fields.map Field.attr)) es (out, r') ↔
      ∃ given, Resolved fields r given es out r' := by
  induction fields generalizing r es out with
  | nil =>
    rw [List.map_nil, resolve, Action.runs_done_iff]
    constructor
    · rintro ⟨rfl, h⟩
      cases h
      exact ⟨[], rfl, .nil, rfl, rfl⟩
    · rintro ⟨given, hgiven, hprovided, rfl, rfl⟩
      obtain rfl := List.map_eq_nil_iff.1 hgiven
      exact ⟨Provided.nil_iff.1 hprovided, rfl⟩
  | cons f rest ih =>
    obtain ⟨hf, hrest⟩ := List.forall_mem_cons.1 hknown
    rw [List.map_cons, List.nodup_cons] at hdistinct
    -- the first read changes nothing for the later ones, nor they for it
    have hapart : ∀ g ∈ rest, f.attr ≠ g.attr := fun g hg he =>
      hdistinct.1 (he ▸ List.mem_map_of_mem hg)
    have hlater : ∀ {first : List (Field × Json)}, (∀ p ∈ first, p.1 = f) →
        rest.filter (r.supplied first).lacks = rest.filter r.lacks := by
      intro first hfirst
      refine List.filter_congr fun g hg => lacks_supplied_of_ne (fun p hp => ?_) r
      rw [hfirst p hp]
      exact hapart g hg
    have hfirst : ∀ {first : List (Field × Json)}, first.map Prod.fst = [f].filter r.lacks →
        ∀ p ∈ first, p.1 = f := by
      intro first hmap p hp
      have hmem := List.mem_map_of_mem (f := Prod.fst) hp
      rw [hmap] at hmem
      exact List.mem_singleton.1 (List.mem_filter.1 hmem).1
    have hkept : ∀ {r₁ : Record} {more : List (Field × Json)}, (∀ p ∈ more, p.1 ∈ rest) →
        (r₁.supplied more).value f.attr = r₁.value f.attr := fun hmore =>
      value_supplied_of_ne (fun p hp => (hapart _ (hmore p hp)).symm) _
    have hsplit : (f :: rest).filter r.lacks = [f].filter r.lacks ++ rest.filter r.lacks := by
      rw [← List.filter_append, List.singleton_append]
    rw [List.map_cons, runs_resolve_cons_iff hf]
    constructor
    · rintro ⟨fs, gs, r₁, others, rfl, hone, hothers, rfl⟩
      obtain ⟨first, hmap, hprovided, rfl, -⟩ := (runs_valueOrDefault_iff hf).1 hone
      have hrest₁ : ∀ g ∈ rest, (r.supplied first).schema.field? g.attr = some g := by
        rwa [schema_supplied]
      obtain ⟨more, hall⟩ := (ih hdistinct.2 hrest₁).1 hothers
      refine ⟨first ++ more, ?_, Provided.append_iff.2 ⟨fs, gs, rfl, hprovided, hall.provided⟩, ?_,
        ?_⟩
      · rw [List.map_append, hmap, hall.called, hlater (hfirst hmap), hsplit]
      · rw [hall.left, supplied_append]
      · rw [hall.returned, hall.left, List.map_cons, hkept fun p hp => hall.mem hp]
        rfl
    · rintro ⟨given, hcalled, hprovided, hleft, rfl⟩
      rw [hsplit] at hcalled
      obtain ⟨first, more, rfl, hmap, hmore⟩ := List.map_eq_append_iff.1 hcalled
      obtain ⟨fs, gs, rfl, hprovided₁, hprovided₂⟩ := Provided.append_iff.1 hprovided
      rw [supplied_append] at hleft
      have hrest₁ : ∀ g ∈ rest, (r.supplied first).schema.field? g.attr = some g := by
        rwa [schema_supplied]
      have hall : Resolved rest (r.supplied first) more gs (.ok (rest.map fun g => r'.value g.attr))
          r' := ⟨by rw [hmore, hlater (hfirst hmap)], hprovided₂, hleft, rfl⟩
      refine ⟨fs, gs, r.supplied first, _, rfl, ?_, (ih hdistinct.2 hrest₁).2 ⟨more, hall⟩, ?_⟩
      · exact (runs_valueOrDefault_iff hf).2 ⟨first, hmap, hprovided₁, rfl, rfl⟩
      · rw [List.map_cons, hleft, hkept fun p hp => hall.mem hp]
        rfl

/-! ## Inserts -/

section Insert

variable {d : Declaration} {s : Schema} {key : Field} {out : Except StoreError (List Json)}

/-- The arguments of an insert are the fields of the model, resolved with the key last. -/
theorem runs_insertArgs_iff (hb : Declaration.Built d s key) (hs : r.schema = s) :
    Action.Runs r.insertArgs es (out, r') ↔
      ∃ given, Resolved (d.writeFields key) r given es out r' := by
  subst hs
  have hdistinct := hb.nodup_writeOrder
  rw [hb.writeOrder_eq] at hdistinct
  rw [insertArgs, hb.writeOrder_eq]
  exact runs_resolve_iff hdistinct fun f hf => hb.field?_of_mem (hb.mem_fields hf)

/-- Reading attributes yields the values that they have afterwards, and changes no other one. -/
structure Settled (r : Record) (attrs : List String) (out : Except StoreError (List Json))
    (r' : Record) : Prop where
  yields : out = .ok (attrs.map r'.value)
  schema_eq : r'.schema = r.schema
  unread : ∀ b, b ∉ attrs → Fields.get? b r'.values = Fields.get? b r.values

/-- The arguments of an insert are the values that its attributes have afterwards. -/
theorem settled_of_runs_insertArgs (hb : Declaration.Built d s key) (hs : r.schema = s)
    (h : Action.Runs r.insertArgs es (out, r')) : Settled r s.writeOrder out r' := by
  obtain ⟨given, hresolved⟩ := (runs_insertArgs_iff hb hs).1 h
  refine ⟨?_, by rw [hresolved.left, schema_supplied], fun b hb' => ?_⟩
  · rw [hresolved.returned, hb.writeOrder_eq, List.map_map]
    rfl
  · rw [hresolved.left]
    refine get?_supplied_of_ne (fun p hp he => hb' ?_) r
    rw [hb.writeOrder_eq, ← he]
    exact List.mem_map_of_mem (hresolved.mem hp)

end Insert

end Record
end Weblog
