import Weblog.Sql.Schema

/-!
# Weblog.Proofs.Sql.Schema

What a declaration that was checked is known to be.

* `Built d s key`: the schema `s` is the one of `d`, whose attributes are distinct and whose only key
  is the field `key`.
* `exists_built`: every declaration that is accepted is so.
* `writeFields`: the fields in the order of the arguments of a write; they are the declared ones
  (`writeFields_perm`).
* `field?_of_mem`, `columnOf_of_mem`: an attribute leads to its field and column.
-/

namespace Weblog
namespace Declaration

/-- What a check that succeeds has seen: the fields have distinct attributes, none of them seen
before, and the key found is the one known before or the one among the fields. -/
structure Checked (seen : List String) (known : Option String) (fields : List Field)
    (found : Option String) : Prop where
  distinct : (fields.map Field.attr).Nodup
  fresh : ∀ f ∈ fields, f.attr ∉ seen
  canBeKey : ∀ f ∈ fields, f.isKey = true → f.kind.canBeKey = true
  keys : known.toList ++ (fields.filter Field.isKey).map Field.attr = found.toList

/-- One more field before those that are checked with its attribute among the ones seen. -/
theorem Checked.cons {seen : List String} {known after : Option String} {f : Field}
    {rest : List Field} {found : Option String} (hfresh : f.attr ∉ seen)
    (hkind : f.isKey = true → f.kind.canBeKey = true)
    (hkey : known.toList ++ (if f.isKey = true then [f.attr] else []) = after.toList)
    (h : Checked (f.attr :: seen) after rest found) : Checked seen known (f :: rest) found where
  distinct := by
    rw [List.map_cons, List.nodup_cons]
    refine ⟨?_, h.distinct⟩
    intro hmem
    obtain ⟨g, hg, he⟩ := List.mem_map.1 hmem
    exact h.fresh g hg (he ▸ List.mem_cons_self)
  fresh := by
    intro g hg
    rcases List.mem_cons.1 hg with rfl | hg
    · exact hfresh
    · exact fun hs => h.fresh g hg (List.mem_cons_of_mem _ hs)
  canBeKey := by
    intro g hg
    rcases List.mem_cons.1 hg with rfl | hg
    · exact hkind
    · exact h.canBeKey g hg
  keys := by
    rw [← h.keys, ← hkey, List.append_assoc, List.filter_cons]
    by_cases hk : f.isKey = true
    · rw [if_pos hk, if_pos hk]
      rfl
    · rw [if_neg hk, if_neg hk]
      rfl

theorem checked_of_check {seen : List String} {known found : Option String} {fields : List Field}
    (h : check seen known fields = .ok found) : Checked seen known fields found := by
  induction fields generalizing seen known with
  | nil =>
    cases h
    exact ⟨List.nodup_nil, by simp, by simp, by simp⟩
  | cons f rest ih =>
    rw [check] at h
    split at h
    · cases h
    · rename_i hfresh
      split at h
      · rename_i hkey
        split at h
        · cases h
        · rename_i hkind
          split at h
          · cases h
          · rename_i hknown
            obtain rfl : known = none := by simpa using hknown
            exact (ih h).cons hfresh (fun _ => by simpa using hkind) (by simp [hkey])
      · rename_i hkey
        exact (ih h).cons hfresh (fun hk => absurd hk hkey) (by simp [hkey])

/-- Among fields with distinct attributes an attribute finds its field. -/
theorem find?_attr {fields : List Field} (hdistinct : (fields.map Field.attr).Nodup) {f : Field}
    (hf : f ∈ fields) : fields.find? (fun g => g.attr = f.attr) = some f := by
  induction fields with
  | nil => cases hf
  | cons g rest ih =>
    rw [List.map_cons, List.nodup_cons] at hdistinct
    rcases List.mem_cons.1 hf with rfl | hmem
    · exact List.find?_cons_of_pos (by simp)
    · have hne : g.attr ≠ f.attr := fun he => hdistinct.1 (he ▸ List.mem_map_of_mem hmem)
      rw [List.find?_cons_of_neg (by simpa using hne)]
      exact ih hdistinct.2 hmem

/-- The fields that are not the key, in the order of their declaration. -/
def others (d : Declaration) : List Field := d.fields.filter fun f => !f.isKey

/-- The fields in the order of the arguments of a write: the key comes last. -/
def writeFields (d : Declaration) (key : Field) : List Field := d.others ++ [key]

/-- The schema is the one of the declaration, whose attributes are distinct and whose only key is
the given field. -/
structure Built (d : Declaration) (s : Schema) (key : Field) : Prop where
  distinct : (d.fields.map Field.attr).Nodup
  keys : d.fields.filter Field.isKey = [key]
  canBeKey : key.kind.canBeKey = true
  name_eq : s.name = d.model
  table_eq : s.table = d.table.getD d.model
  key_eq : s.key = key.attr
  attrs_eq : s.attrs = d.others.map Field.attr
  declared_eq : s.declared = d.fields

/-- Every declaration that is accepted has distinct attributes and one key. -/
theorem exists_built {d : Declaration} {s : Schema} (h : d.build = .ok s) :
    ∃ key, Built d s key := by
  unfold build at h
  split at h
  · cases h
  · cases h
  · rename_i attr hcheck
    cases h
    have hc := checked_of_check hcheck
    have hkeys : (d.fields.filter Field.isKey).map Field.attr = [attr] := by simpa using hc.keys
    obtain ⟨key, hkey, rfl⟩ := List.map_eq_singleton_iff.1 hkeys
    have hmem : key ∈ d.fields.filter Field.isKey := hkey ▸ List.mem_singleton_self key
    obtain ⟨hfield, his⟩ := List.mem_filter.1 hmem
    exact ⟨key, hc.distinct, hkey, hc.canBeKey key hfield his, rfl, rfl, rfl, rfl, rfl⟩

namespace Built

variable {d : Declaration} {s : Schema} {key : Field}

theorem writeFields_perm (h : Built d s key) : (d.writeFields key).Perm d.fields := by
  have hsplit := List.filter_append_perm (fun f : Field => !f.isKey) d.fields
  have hkeys : (d.fields.filter fun f => !!f.isKey) = [key] := by simpa using h.keys
  rwa [hkeys] at hsplit

theorem mem_fields (h : Built d s key) {f : Field} (hf : f ∈ d.writeFields key) : f ∈ d.fields :=
  h.writeFields_perm.mem_iff.1 hf

theorem key_mem (h : Built d s key) : key ∈ d.fields :=
  h.mem_fields (List.mem_append_right _ (List.mem_singleton_self key))

theorem writeOrder_eq (h : Built d s key) : s.writeOrder = (d.writeFields key).map Field.attr := by
  rw [Schema.writeOrder, h.attrs_eq, h.key_eq, writeFields, List.map_append]
  rfl

theorem nodup_writeOrder (h : Built d s key) : s.writeOrder.Nodup := by
  rw [h.writeOrder_eq]
  exact (h.writeFields_perm.map Field.attr).nodup_iff.2 h.distinct

theorem field?_of_mem (h : Built d s key) {f : Field} (hf : f ∈ d.fields) :
    s.field? f.attr = some f := by
  rw [Schema.field?, h.declared_eq]
  exact find?_attr h.distinct hf

theorem columnOf_of_mem (h : Built d s key) {f : Field} (hf : f ∈ d.fields) :
    s.columnOf f.attr = Sql.quoted f.columnName := by
  rw [Schema.columnOf, h.field?_of_mem hf]
  rfl

theorem columnOf_key (h : Built d s key) : s.columnOf s.key = Sql.quoted key.columnName := by
  rw [h.key_eq, h.columnOf_of_mem h.key_mem]

end Built
end Declaration
end Weblog
