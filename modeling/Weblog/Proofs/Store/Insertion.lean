import Weblog.Proofs.Action
import Weblog.Proofs.Fallible
import Weblog.Proofs.Store.Record

/-!
# Weblog.Proofs.Store.Insertion

What the arguments of an insert are, and what becomes of the record that they are of.

* `Inserted`: the record afterwards; where no default gave null, the insert may be repeated.
* `insert_resolves`: an insert never fails, resolves the defaults of the fields that lack a value, each
  once and in the order of the write, and changes nothing else.
-/

namespace Weblog
namespace Record

open Declaration (Built)

variable {d : Declaration} {s : Schema} {key : Field} {r r' : Record} {given : List (Field × Json)}
  {es : List Exchange} {out : Except StoreError (List Json)}

/-- What an insert makes of a record whose fields were given these values by their defaults. -/
structure Inserted (r : Record) (given : List (Field × Json)) (out : Except StoreError (List Json))
    (r' : Record) : Prop where
  /-- The arguments of an update are those of the insert. -/
  updates : out = .ok r'.updateArgs
  /-- Every value that was there is there, under whatever key. -/
  kept : ∀ k v, Fields.get? k r.values = some v → v ≠ .null → Fields.get? k r'.values = some v
  /-- Only the fields that were given a value have another one than before. -/
  changed : ∀ k, Fields.get? k r'.values ≠ Fields.get? k r.values → ∃ p ∈ given, p.1.attr = k
  stored : ∀ p ∈ given, Fields.get? p.1.attr r'.values = some p.2
  /-- The same insert once more has the same arguments and asks for nothing. -/
  again : (∀ p ∈ given, p.2 ≠ .null) → r'.insertArgs = .done (out, r')

theorem stored_of_resolved (hb : Built d s key)
    (h : Resolved (d.writeFields key) r given es out r') {p : Field × Json} (hp : p ∈ given) :
    Fields.get? p.1.attr r'.values = some p.2 := by
  have hattrs : given.map (fun p => p.1.attr) =
      ((d.writeFields key).filter r.lacks).map Field.attr := by
    rw [← h.called, List.map_map]
    rfl
  have hdistinct := hb.nodup_writeOrder
  rw [hb.writeOrder_eq] at hdistinct
  have hgiven : (given.map fun p => p.1.attr).Nodup := by
    rw [hattrs]
    exact (List.filter_sublist.map Field.attr).nodup hdistinct
  rw [h.left]
  exact get?_supplied_of_mem hgiven hp r

/-- Where no default gave null, no field lacks a value any more. -/
theorem not_lacks_of_resolved (hb : Built d s key)
    (h : Resolved (d.writeFields key) r given es out r') (hvalues : ∀ p ∈ given, p.2 ≠ .null)
    {f : Field} (hf : f ∈ d.writeFields key) : r'.lacks f = false := by
  cases hlacks : r.lacks f with
  | true =>
    have hmem : f ∈ given.map Prod.fst := by
      rw [h.called]
      exact List.mem_filter.2 ⟨hf, hlacks⟩
    obtain ⟨p, hp, rfl⟩ := List.mem_map.1 hmem
    simp [lacks, value, stored_of_resolved hb h hp, hvalues p hp]
  | false =>
    have hne : ∀ p ∈ given, p.1.attr ≠ f.attr := by
      intro p hp he
      have hpf : p.1 = f := by
        have hfound := hb.field?_of_mem (hb.mem_fields (h.mem hp))
        rw [he, hb.field?_of_mem (hb.mem_fields hf)] at hfound
        exact (Option.some.inj hfound).symm
      rw [← hpf, h.lacks hp] at hlacks
      cases hlacks
    rw [h.left, lacks_supplied_of_ne hne, hlacks]

theorem inserted_of_resolved (hb : Built d s key) (hs : r.schema = s)
    (h : Resolved (d.writeFields key) r given es out r') : Inserted r given out r' where
  updates := by
    have hschema : r'.schema = s := by rw [h.left, schema_supplied, hs]
    rw [h.returned, updateArgs, hschema, hb.writeOrder_eq, List.map_map]
    rfl
  kept k v hvalue hv := (h.get?_of_ne_null hvalue hv).2
  changed k hchanged := by
    by_cases hgiven : ∃ p ∈ given, p.1.attr = k
    · exact hgiven
    · refine absurd ?_ hchanged
      rw [h.left]
      exact get?_supplied_of_ne (fun p hp he => hgiven ⟨p, hp, he⟩) r
  stored _ hp := stored_of_resolved hb h hp
  again hvalues := by
    have hschema : r'.schema = s := by rw [h.left, schema_supplied, hs]
    have hnone : (d.writeFields key).filter r'.lacks = [] := by
      rw [List.filter_eq_nil_iff]
      intro f hf
      simp [not_lacks_of_resolved hb h hvalues hf]
    have hagain : Resolved (d.writeFields key) r' [] [] out r' :=
      ⟨hnone.symm, .nil, rfl, h.returned⟩
    exact Action.eq_done_of_runs ((runs_insertArgs_iff hb hschema).2 ⟨[], hagain⟩)

/-- For every model that was checked and every record of it, with whatever values: however the world
answers, the arguments of an insert are found; exactly the defaults of the fields that lack a value are
resolved, each once, first those of the other fields in the order of their declaration and then that
of the key; and the record has their values and is otherwise as it was. -/
theorem insert_resolves (hb : d.build = .ok s) (hs : r.schema = s) :
    ∃ key, d.fields.filter Field.isKey = [key] ∧
      (∀ world : List Exchange → (e : Effect) → e.Answer, ∃ es out r',
        Action.Runs r.insertArgs es (out, r') ∧
          EachAfter (fun before y => y.answer = world before y.effect) es) ∧
      ∀ es out r', Action.Runs r.insertArgs es (out, r') ↔
        ∃ given, Resolved (d.writeFields key) r given es out r' ∧ Inserted r given out r' := by
  obtain ⟨key, hbuilt⟩ := Declaration.exists_built hb
  refine ⟨key, hbuilt.keys, ?ends, fun es out r' => ?runs⟩
  case ends =>
    intro world
    obtain ⟨es, ⟨out, r'⟩, hruns, hworld⟩ := r.insertArgs.exists_runs_answered world
    exact ⟨es, out, r', hruns, hworld⟩
  case runs =>
    rw [runs_insertArgs_iff hbuilt hs]
    constructor
    · rintro ⟨given, h⟩
      exact ⟨given, h, inserted_of_resolved hbuilt hs h⟩
    · rintro ⟨given, h, -⟩
      exact ⟨given, h⟩

section Draft

def noteId : Field := (Field.string "id").primaryKey.generatedBy (Action.perform (.draw "id"))

/-- Notes whose ids are drawn. -/
def noteModel : Declaration where
  model := "Note"
  table := none
  fields := [noteId, Field.string "title", Field.boolean "draft"]

def noteSchema : Schema where
  name := "Note"
  table := "Note"
  key := "id"
  attrs := ["title", "draft"]
  declared := noteModel.fields

/-- A note without an id and with a value under a key of its own. -/
def draftNote : Record :=
  ⟨noteSchema, [("extra", .bool true), ("id", .null), ("title", .string "hi")]⟩

def savedNote : Record :=
  ⟨noteSchema, [("draft", .bool false), ("extra", .bool true), ("id", .string "n1"),
    ("title", .string "hi")]⟩

def savedArguments : List Json := [.string "hi", .bool false, .string "n1"]

/-- The id of a note is drawn once, and its other values are kept. -/
theorem insert_resolves_draftNote :
    (∃ given, given.map (fun p => p.1.attr) = ["draft", "id"] ∧
      Inserted draftNote given (.ok savedArguments) savedNote) ∧
    savedNote.insertArgs = .done (.ok savedArguments, savedNote) := by
  have hbuild : noteModel.build = .ok noteSchema := rfl
  have hschema : draftNote.schema = noteSchema := rfl
  have hruns : Action.Runs draftNote.insertArgs [⟨.draw "id", Json.string "n1"⟩]
      (.ok savedArguments, savedNote) := .ask .done
  obtain ⟨key, hkey, -, hiff⟩ := insert_resolves hbuild hschema
  obtain ⟨given, hresolved, hinserted⟩ := (hiff _ _ _).1 hruns
  obtain rfl : noteId = key := by
    have hone : [noteId] = [key] := hkey
    cases hone
    rfl
  have hattrs : given.map (fun p => p.1.attr) = ["draft", "id"] := by
    have hcalled := congrArg (List.map Field.attr) hresolved.called
    rwa [List.map_map] at hcalled
  refine ⟨⟨given, hattrs, hinserted⟩, hinserted.again fun p hp => ?_⟩
  have hstored := hinserted.stored p hp
  have hmem : p.1.attr ∈ ["draft", "id"] := hattrs ▸ List.mem_map_of_mem hp
  have hone : p.1.attr = "draft" ∨ p.1.attr = "id" := by simpa using hmem
  rcases hone with he | he
  · rw [he] at hstored
    have hv : Json.bool false = p.2 := Option.some.inj hstored
    simp [← hv]
  · rw [he] at hstored
    have hv : Json.string "n1" = p.2 := Option.some.inj hstored
    simp [← hv]

end Draft

end Record
end Weblog
