import Mathlib.Data.List.Induction
import Mathlib.Tactic.Tauto
import Weblog.Proofs.Sql.Schema

/-!
# Weblog.Proofs.Sql.Validation

Which declarations are accepted, what the others are refused with, and what an accepted one offers.

* `Offends`: a field stands where it must not, behind the fields before it.
* `Clean`, `EarliestFault`: no field offends, or the first that does so decides the error.
* `check_append`: fields that are clean are passed over; `check_eq_error`: the first that is not ends
  the check.
* `clean_iff`: clean are distinct attributes with one key at most, of a family that can be one.
* `build_exact`: the declarations that are accepted, the errors of the others, and the schema.
-/

namespace Weblog

theorem FieldKind.canBeKey_eq_false_iff {k : FieldKind} :
    k.canBeKey = false ↔ k = .boolean ∨ k = .text := by
  cases k <;> simp [canBeKey]

/-- Which error is reported where a field has several: the smaller one. -/
def SchemaError.rank : SchemaError → Nat
  | .duplicateField _ => 0
  | .invalidPrimaryKey _ => 1
  | .duplicatePrimaryKey _ => 2
  | .missingPrimaryKey _ => 3

namespace Declaration

/-- A field stands where it must not, behind the fields before it. -/
inductive Offends (before : List Field) (f : Field) : SchemaError → Prop where
  | duplicateField : (∃ g ∈ before, g.attr = f.attr) → Offends before f (.duplicateField f.attr)
  | invalidPrimaryKey : f.isKey = true → f.kind = .boolean ∨ f.kind = .text →
      Offends before f (.invalidPrimaryKey f.attr)
  | duplicatePrimaryKey : f.isKey = true → (∃ g ∈ before, g.isKey = true) →
      Offends before f (.duplicatePrimaryKey f.attr)

/-- The error of a field, the first of those that it has. -/
structure Fault (before : List Field) (f : Field) (e : SchemaError) : Prop where
  offends : Offends before f e
  first : ∀ e', Offends before f e' → e.rank ≤ e'.rank

/-- No field offends. -/
def Clean (fields : List Field) : Prop :=
  ∀ before f after e, fields = before ++ f :: after → ¬ Offends before f e

/-- The error is that of the earliest field that offends. -/
def EarliestFault (fields : List Field) (e : SchemaError) : Prop :=
  ∃ before f after, fields = before ++ f :: after ∧ Clean before ∧ Fault before f e

/-! ## The fields one after the other -/

theorem clean_nil : Clean [] := by
  intro before f after e h
  cases before <;> cases h

theorem clean_append_singleton {fields : List Field} {f : Field} :
    Clean (fields ++ [f]) ↔ Clean fields ∧ ∀ e, ¬ Offends fields f e := by
  constructor
  · intro h
    refine ⟨fun before g after e hfields => ?_, fun e => h fields f [] e rfl⟩
    exact h before g (after ++ [f]) e (by simp [hfields])
  · rintro ⟨hclean, hlast⟩ before g after e hfields
    rcases List.eq_nil_or_concat after with rfl | ⟨rest, x, rfl⟩
    · obtain ⟨rfl, hg⟩ := List.append_inj' hfields rfl
      cases hg
      exact hlast e
    · have hlasts : fields ++ [f] = (before ++ g :: rest) ++ [x] := by simpa using hfields
      exact hclean before g rest e (List.append_inj' hlasts rfl).1

/-- A field that offends has a first error. -/
theorem exists_fault {before : List Field} {f : Field} {e : SchemaError}
    (h : Offends before f e) : ∃ e', Fault before f e' := by
  by_cases hduplicate : ∃ g ∈ before, g.attr = f.attr
  · exact ⟨_, .duplicateField hduplicate, fun e' _ => Nat.zero_le e'.rank⟩
  by_cases hinvalid : f.isKey = true ∧ (f.kind = .boolean ∨ f.kind = .text)
  · refine ⟨_, .invalidPrimaryKey hinvalid.1 hinvalid.2, fun e' he' => ?_⟩
    cases he' with
    | duplicateField h => exact absurd h hduplicate
    | invalidPrimaryKey => exact Nat.le_refl _
    | duplicatePrimaryKey => exact Nat.le_succ 1
  · refine ⟨e, h, fun e' he' => ?_⟩
    cases h with
    | duplicateField h => exact absurd h hduplicate
    | invalidPrimaryKey hkey hkind => exact absurd ⟨hkey, hkind⟩ hinvalid
    | duplicatePrimaryKey =>
      cases he' with
      | duplicateField h => exact absurd h hduplicate
      | invalidPrimaryKey hkey hkind => exact absurd ⟨hkey, hkind⟩ hinvalid
      | duplicatePrimaryKey => exact Nat.le_refl _

/-- Fields are clean, or one is the earliest that offends. -/
theorem clean_or_earliestFault (fields : List Field) :
    Clean fields ∨ ∃ e, EarliestFault fields e := by
  induction fields using List.reverseRecOn with
  | nil => exact .inl clean_nil
  | append_singleton fields f ih =>
    rcases ih with hclean | ⟨e, before, g, after, rfl, hbefore, hfault⟩
    · by_cases hoffends : ∃ e, Offends fields f e
      · obtain ⟨e, he⟩ := hoffends
        obtain ⟨e', hfault⟩ := exists_fault he
        exact .inr ⟨e', fields, f, [], rfl, hclean, hfault⟩
      · exact .inl (clean_append_singleton.2 ⟨hclean, not_exists.1 hoffends⟩)
    · exact .inr ⟨e, before, g, after ++ [f], by simp, hbefore, hfault⟩

/-! ## The check -/

/-- The attributes that were seen in fields, the last one first. -/
def attrsSeen (before : List Field) : List String := (before.map Field.attr).reverse

/-- The key that was found in fields. -/
def keyFound (before : List Field) : Option String := (before.find? Field.isKey).map Field.attr

theorem mem_attrsSeen_iff {before : List Field} {a : String} :
    a ∈ attrsSeen before ↔ ∃ g ∈ before, g.attr = a := by
  simp [attrsSeen]

theorem isSome_keyFound_iff {before : List Field} :
    (keyFound before).isSome = true ↔ ∃ g ∈ before, g.isKey = true := by
  simp [keyFound]

/-- One step of the check: a field that does not offend is passed over. -/
theorem check_cons_of_not_offends {before : List Field} {f : Field}
    (h : ∀ e, ¬ Offends before f e) (rest : List Field) :
    check (attrsSeen before) (keyFound before) (f :: rest) =
      check (attrsSeen (before ++ [f])) (keyFound (before ++ [f])) rest := by
  have hseen : f.attr ∉ attrsSeen before := fun hmem =>
    h _ (.duplicateField (mem_attrsSeen_iff.1 hmem))
  have hattrs : attrsSeen (before ++ [f]) = f.attr :: attrsSeen before := by simp [attrsSeen]
  rw [check, if_neg hseen, hattrs]
  by_cases hkey : f.isKey = true
  · have hkind : ¬ f.kind.canBeKey = false := fun hkind =>
      h _ (.invalidPrimaryKey hkey (FieldKind.canBeKey_eq_false_iff.1 hkind))
    have hfirst : ¬ (keyFound before).isSome = true := fun hsome =>
      h _ (.duplicatePrimaryKey hkey (isSome_keyFound_iff.1 hsome))
    have hnone : before.find? Field.isKey = none := by simpa [keyFound] using hfirst
    have hfound : keyFound (before ++ [f]) = some f.attr := by
      simp [keyFound, List.find?_append, hnone, hkey]
    rw [if_pos hkey, if_neg hkind, if_neg hfirst, hfound]
  · have hfound : keyFound (before ++ [f]) = keyFound before := by
      simp [keyFound, List.find?_append, hkey]
    rw [if_neg hkey, hfound]

/-- One step of the check: a field that offends ends it with its first error. -/
theorem check_cons_of_fault {before : List Field} {f : Field} {e : SchemaError}
    (h : Fault before f e) (rest : List Field) :
    check (attrsSeen before) (keyFound before) (f :: rest) = .error e := by
  obtain ⟨hoffends, hfirst⟩ := h
  rw [check]
  cases hoffends with
  | duplicateField hduplicate => rw [if_pos (mem_attrsSeen_iff.2 hduplicate)]
  | invalidPrimaryKey hkey hkind =>
    have hseen : f.attr ∉ attrsSeen before := fun hmem => by
      have := hfirst _ (.duplicateField (mem_attrsSeen_iff.1 hmem))
      simp [SchemaError.rank] at this
    rw [if_neg hseen, if_pos hkey, if_pos (FieldKind.canBeKey_eq_false_iff.2 hkind)]
  | duplicatePrimaryKey hkey hsecond =>
    have hseen : f.attr ∉ attrsSeen before := fun hmem => by
      have := hfirst _ (.duplicateField (mem_attrsSeen_iff.1 hmem))
      simp [SchemaError.rank] at this
    have hkind : ¬ f.kind.canBeKey = false := fun hkind => by
      have := hfirst _ (.invalidPrimaryKey hkey (FieldKind.canBeKey_eq_false_iff.1 hkind))
      simp [SchemaError.rank] at this
    rw [if_neg hseen, if_pos hkey, if_neg hkind, if_pos (isSome_keyFound_iff.2 hsecond)]

/-- Clean fields are passed over, whatever follows. -/
theorem check_append {before : List Field} (h : Clean before) (rest : List Field) :
    check [] none (before ++ rest) = check (attrsSeen before) (keyFound before) rest := by
  induction before using List.reverseRecOn generalizing rest with
  | nil => rfl
  | append_singleton before f ih =>
    obtain ⟨hbefore, hlast⟩ := clean_append_singleton.1 h
    rw [List.append_assoc, List.singleton_append, ih hbefore, check_cons_of_not_offends hlast]

theorem check_eq_ok {fields : List Field} (h : Clean fields) :
    check [] none fields = .ok (keyFound fields) := by
  have hpassed := check_append h []
  rwa [List.append_nil] at hpassed

theorem check_eq_error {fields : List Field} {e : SchemaError} (h : EarliestFault fields e) :
    check [] none fields = .error e := by
  obtain ⟨before, f, after, rfl, hbefore, hfault⟩ := h
  rw [check_append hbefore, check_cons_of_fault hfault]

/-! ## Clean fields -/

/-- A field does not offend if its attribute is new, and where it is the key, it is the first one and
of a family that can be one. -/
theorem forall_not_offends_iff {before : List Field} {f : Field} :
    (∀ e, ¬ Offends before f e) ↔ f.attr ∉ before.map Field.attr ∧
      (f.isKey = true → before.filter Field.isKey = [] ∧ f.kind ≠ .boolean ∧ f.kind ≠ .text) := by
  constructor
  · intro h
    refine ⟨fun hmem => h _ (.duplicateField (List.mem_map.1 hmem)), fun hkey => ⟨?_, ?_, ?_⟩⟩
    · rw [List.filter_eq_nil_iff]
      exact fun g hg hgkey => h _ (.duplicatePrimaryKey hkey ⟨g, hg, hgkey⟩)
    · exact fun hkind => h _ (.invalidPrimaryKey hkey (.inl hkind))
    · exact fun hkind => h _ (.invalidPrimaryKey hkey (.inr hkind))
  · rintro ⟨hnew, hvalid⟩ e he
    cases he with
    | duplicateField h => exact hnew (List.mem_map.2 h)
    | invalidPrimaryKey hkey hkind => exact hkind.elim (hvalid hkey).2.1 (hvalid hkey).2.2
    | duplicatePrimaryKey hkey h =>
      obtain ⟨g, hg, hgkey⟩ := h
      exact List.filter_eq_nil_iff.1 (hvalid hkey).1 g hg hgkey

/-- Fields are clean if no attribute is declared twice, and there is one key at most, of a family
that can be one. -/
theorem clean_iff {fields : List Field} :
    Clean fields ↔ (fields.map Field.attr).Nodup ∧ (fields.filter Field.isKey).length ≤ 1 ∧
      ∀ f ∈ fields, f.isKey = true → f.kind ≠ .boolean ∧ f.kind ≠ .text := by
  induction fields using List.reverseRecOn with
  | nil => simp [clean_nil]
  | append_singleton fields f ih =>
    have hdistinct : ((fields ++ [f]).map Field.attr).Nodup ↔
        (fields.map Field.attr).Nodup ∧ f.attr ∉ fields.map Field.attr := by
      simp [List.nodup_append]
    have hkeys : ((fields ++ [f]).filter Field.isKey).length ≤ 1 ↔
        (fields.filter Field.isKey).length ≤ 1 ∧
          (f.isKey = true → fields.filter Field.isKey = []) := by
      rw [List.filter_append, List.length_append, ← List.length_eq_zero_iff]
      by_cases hkey : f.isKey = true
      · rw [imp_iff_right hkey, List.filter_cons_of_pos hkey, List.filter_nil, List.length_singleton]
        omega
      · simp [hkey]
    rw [clean_append_singleton, ih, forall_not_offends_iff, hdistinct, hkeys,
      List.forall_mem_append, List.forall_mem_singleton]
    tauto

/-! ## Declarations -/

/-- What the schema of a declaration that is accepted offers. -/
structure Registered (d : Declaration) (s : Schema) : Prop where
  /-- Each attribute leads to its field, -/
  finds : ∀ f ∈ d.fields, s.field? f.attr = some f
  /-- and no other name to any. -/
  knowsNoOther : ∀ a, a ∉ d.fields.map Field.attr → s.field? a = none
  key : ∃ f, d.fields.filter Field.isKey = [f] ∧ s.key = f.attr
  attrs : s.attrs = (d.fields.filter fun f => !f.isKey).map Field.attr
  complete : (s.attrs ++ [s.key]).Perm (d.fields.map Field.attr)

theorem registered_of_built {d : Declaration} {s : Schema} {key : Field} (h : Built d s key) :
    Registered d s where
  finds f hf := h.field?_of_mem hf
  knowsNoOther a ha := by
    rw [Schema.field?, h.declared_eq, List.find?_eq_none]
    intro f hf hattr
    exact ha (List.mem_map.2 ⟨f, hf, by simpa using hattr⟩)
  key := ⟨key, h.keys, h.key_eq⟩
  attrs := h.attrs_eq
  complete := by
    have hperm := h.writeFields_perm.map Field.attr
    rwa [← h.writeOrder_eq] at hperm

theorem build_of_check {d : Declaration} {e : SchemaError} (h : check [] none d.fields = .error e) :
    d.build = .error e := by
  rw [build, h]

theorem build_of_clean_of_no_key {d : Declaration} (h : Clean d.fields)
    (hkey : d.fields.filter Field.isKey = []) : d.build = .error (.missingPrimaryKey d.model) := by
  have hfound : keyFound d.fields = none := by
    simpa [keyFound, List.filter_eq_nil_iff] using hkey
  rw [build, check_eq_ok h, hfound]

theorem exists_build_of_clean {d : Declaration} (h : Clean d.fields) {f : Field}
    (hkey : d.fields.filter Field.isKey = [f]) : ∃ s, d.build = .ok s := by
  have hfound : keyFound d.fields = some f.attr := by
    rw [keyFound, ← List.head?_filter, hkey]
    rfl
  rw [build, check_eq_ok h, hfound]
  exact ⟨_, rfl⟩

/-- For every declaration: it is accepted exactly if its attributes are distinct and one field is the
key, of a family that can be one. Otherwise the earliest field that offends decides the error, and
only where no field offends the key is missing. The schema of one that is accepted finds the declared
field of each attribute and no other, has the key, and the other attributes in their order. -/
theorem build_exact (d : Declaration) :
    ((∃ s, d.build = .ok s) ↔ (d.fields.map Field.attr).Nodup ∧
      ∃ f, d.fields.filter Field.isKey = [f] ∧ f.kind ≠ .boolean ∧ f.kind ≠ .text) ∧
    (∀ e, d.build = .error e ↔ EarliestFault d.fields e ∨
      Clean d.fields ∧ d.fields.filter Field.isKey = [] ∧ e = .missingPrimaryKey d.model) ∧
    ∀ s, d.build = .ok s → Registered d s := by
  refine ⟨⟨?accepted, ?accepts⟩, fun e => ⟨?refused, ?refuses⟩, ?schema⟩
  case accepted =>
    rintro ⟨s, hs⟩
    obtain ⟨key, hbuilt⟩ := exists_built hs
    have hkind : ¬ (key.kind = .boolean ∨ key.kind = .text) := by
      rw [← FieldKind.canBeKey_eq_false_iff, hbuilt.canBeKey]
      exact Bool.false_ne_true.symm
    exact ⟨hbuilt.distinct, key, hbuilt.keys, not_or.1 hkind⟩
  case accepts =>
    rintro ⟨hdistinct, f, hkey, hkind⟩
    refine exists_build_of_clean (clean_iff.2 ⟨hdistinct, by simp [hkey], fun g hg hgkey => ?_⟩) hkey
    have hmem : g ∈ d.fields.filter Field.isKey := List.mem_filter.2 ⟨hg, hgkey⟩
    rw [hkey, List.mem_singleton] at hmem
    exact hmem ▸ hkind
  case refused =>
    intro he
    rcases clean_or_earliestFault d.fields with hclean | ⟨e', hfault⟩
    · cases hkeys : d.fields.filter Field.isKey with
      | nil =>
        rw [build_of_clean_of_no_key hclean hkeys] at he
        cases he
        exact .inr ⟨hclean, rfl, rfl⟩
      | cons f others =>
        -- at most one field is a key
        have hone := (clean_iff.1 hclean).2.1
        obtain rfl : others = [] := by simpa [hkeys] using hone
        obtain ⟨s, hs⟩ := exists_build_of_clean hclean hkeys
        rw [hs] at he
        cases he
    · rw [build_of_check (check_eq_error hfault)] at he
      cases he
      exact .inl hfault
  case refuses =>
    rintro (hfault | ⟨hclean, hkey, rfl⟩)
    · exact build_of_check (check_eq_error hfault)
    · exact build_of_clean_of_no_key hclean hkey
  case schema =>
    intro s hs
    obtain ⟨key, hbuilt⟩ := exists_built hs
    exact registered_of_built hbuilt

end Declaration
end Weblog
