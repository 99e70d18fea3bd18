import Weblog.Proofs.Sql.Kind
import Weblog.Proofs.Store.Entity
import Weblog.Proofs.Store.Record

/-!
# Weblog.Proofs.Store.Access

Which statements an action sends, whatever the world answers.

* `Action.Sends`: what holds of the statements of every run.
* `Silent`, `Reads`, `Accesses`: nothing is sent, only selects, or selects and then at most one
  write that is permitted, with its transaction.
* `sends_bind`: the statements of a sequence, from those of its parts.
* `accesses_execute`, `accesses_save`, `accesses_update`, `accesses_remove`: what writes send.
* `reads_find`, `reads_findAll`, `reads_findNumber`: what reads send.
-/

namespace Weblog

/-- What one write with its transaction sends. -/
inductive Written (P : Statement → Prop) : List Statement → Prop where
  | alone {st : Statement} : P st → Written P [st]
  | refused {st : Statement} : P st → Written P [TransactionControl.start.statement]
  | ended {st : Statement} {t : TransactionControl} : P st → t ≠ .start →
      Written P [TransactionControl.start.statement, st, t.statement]

/-- Selects, and after them at most one write. -/
inductive Access (P : Statement → Prop) : List Statement → Prop where
  | reads {sts : List Statement} : (∀ st ∈ sts, st.IsSelect) → Access P sts
  | writes {sts written : List Statement} : (∀ st ∈ sts, st.IsSelect) → Written P written →
      Access P (sts ++ written)

theorem Written.mono {P Q : Statement → Prop} (h : ∀ st, P st → Q st) {sts : List Statement}
    (hw : Written P sts) : Written Q sts := by
  cases hw with
  | alone hst => exact .alone (h _ hst)
  | refused hst => exact .refused (h _ hst)
  | ended hst ht => exact .ended (h _ hst) ht

theorem Written.of_mem {P : Statement → Prop} {sts : List Statement} (h : Written P sts)
    {st : Statement} (hst : st ∈ sts) : (∃ t : TransactionControl, st = t.statement) ∨ P st := by
  cases h with
  | alone hP => exact .inr (List.mem_singleton.1 hst ▸ hP)
  | refused hP => exact .inl ⟨_, List.mem_singleton.1 hst⟩
  | ended hP ht =>
    simp only [List.mem_cons, List.not_mem_nil, or_false] at hst
    rcases hst with rfl | rfl | rfl
    · exact .inl ⟨_, rfl⟩
    · exact .inr hP
    · exact .inl ⟨_, rfl⟩

/-- Nothing is changed, or there is one change, and at most the end of its transaction follows. -/
def ChangesOnce (sts : List Statement) : Prop :=
  (∀ st ∈ sts, ¬ st.IsChange) ∨
    ∃ before st after, sts = before ++ st :: after ∧ st.IsChange ∧ (∀ x ∈ before, ¬ x.IsChange) ∧
      (after = [] ∨ after = [TransactionControl.commit.statement] ∨
        after = [TransactionControl.rollback.statement])

namespace Access

variable {P Q : Statement → Prop} {sts us : List Statement}

theorem mono (h : ∀ st, P st → Q st) (ha : Access P sts) : Access Q sts := by
  cases ha with
  | reads hreads => exact .reads hreads
  | writes hreads hwritten => exact .writes hreads (hwritten.mono h)

theorem after_reads (hreads : ∀ st ∈ sts, st.IsSelect) (ha : Access P us) :
    Access P (sts ++ us) := by
  cases ha with
  | reads hus => exact .reads (List.forall_mem_append.2 ⟨hreads, hus⟩)
  | writes hus hwritten =>
    rw [← List.append_assoc]
    exact .writes (List.forall_mem_append.2 ⟨hreads, hus⟩) hwritten

theorem of_mem (h : Access P sts) {st : Statement} (hst : st ∈ sts) :
    st.IsSelect ∨ (∃ t : TransactionControl, st = t.statement) ∨ P st := by
  cases h with
  | reads hreads => exact .inl (hreads st hst)
  | writes hreads hwritten =>
    rcases List.mem_append.1 hst with hst | hst
    · exact .inl (hreads st hst)
    · exact .inr (hwritten.of_mem hst)

/-- What changes something is permitted. -/
theorem of_isChange (h : Access P sts) {st : Statement} (hst : st ∈ sts) (hchange : st.IsChange) :
    P st := by
  rcases h.of_mem hst with hselect | ⟨t, rfl⟩ | hP
  · exact absurd hchange hselect.not_isChange
  · exact absurd hchange (Statement.not_isChange_control t)
  · exact hP

theorem changesOnce (hchange : ∀ st, P st → st.IsChange) (h : Access P sts) : ChangesOnce sts := by
  have hquiet : ∀ {us : List Statement}, (∀ st ∈ us, st.IsSelect) → ∀ st ∈ us, ¬ st.IsChange :=
    fun hus st hst => (hus st hst).not_isChange
  have hbegun : ∀ {us : List Statement}, (∀ st ∈ us, st.IsSelect) →
      ∀ st ∈ us ++ [TransactionControl.start.statement], ¬ st.IsChange := fun hus =>
    List.forall_mem_append.2 ⟨hquiet hus,
      List.forall_mem_singleton.2 (Statement.not_isChange_control .start)⟩
  cases h with
  | reads hreads => exact .inl (hquiet hreads)
  | @writes us written hreads hwritten =>
    cases hwritten with
    | alone hP => exact .inr ⟨us, _, [], rfl, hchange _ hP, hquiet hreads, .inl rfl⟩
    | refused hP => exact .inl (hbegun hreads)
    | @ended st t hP ht =>
      refine .inr ⟨us ++ [TransactionControl.start.statement], st, [t.statement], by simp,
        hchange _ hP, hbegun hreads, .inr ?_⟩
      cases t with
      | start => exact absurd rfl ht
      | commit => exact .inl rfl
      | rollback => exact .inr rfl

end Access

namespace Action

variable {α β : Type} {Q R S : List Statement → Prop} {P : Statement → Prop}

/-- What holds of the statements that an action sends, whatever the world answers. -/
def Sends (R : List Statement → Prop) (x : Action α) : Prop := ∀ es a, Runs x es a → R (sentBy es)

def Silent (x : Action α) : Prop := x.Sends (· = [])

def Reads (x : Action α) : Prop := x.Sends fun sts => ∀ st ∈ sts, st.IsSelect

def Accesses (P : Statement → Prop) (x : Action α) : Prop := x.Sends (Access P)

theorem Sends.mono (h : ∀ sts, Q sts → R sts) {x : Action α} (hx : x.Sends Q) : x.Sends R :=
  fun es a hrun => h _ (hx es a hrun)

theorem Silent.sends {x : Action α} (hx : x.Silent) (hnil : R []) : x.Sends R :=
  hx.mono fun _ h => h ▸ hnil

theorem Silent.reads {x : Action α} (hx : x.Silent) : x.Reads := hx.sends (by simp)

theorem Reads.accesses {x : Action α} (hx : x.Reads) : x.Accesses P := hx.mono fun _ h => .reads h

theorem silent_done (a : α) : (Action.done a).Silent := by
  intro es b h
  rw [(runs_done_iff.1 h).1]
  rfl

theorem sends_bind {x : Action α} {f : α → Action β} (hx : x.Sends Q) (hf : ∀ a, (f a).Sends R)
    (hjoin : ∀ sts us, Q sts → R us → S (sts ++ us)) : (x >>= f).Sends S := by
  intro es b h
  obtain ⟨fs, gs, a, rfl, hfirst, hsecond⟩ := runs_bind_iff.1 h
  rw [sentBy_append]
  exact hjoin _ _ (hx fs a hfirst) (hf a gs b hsecond)

theorem Silent.before {x : Action α} {f : α → Action β} (hx : x.Silent)
    (hf : ∀ a, (f a).Sends R) : (x >>= f).Sends R :=
  sends_bind hx hf fun _ _ hnil hus => by rwa [hnil]

theorem Sends.then_silent {x : Action α} {f : α → Action β} (hx : x.Sends R)
    (hf : ∀ a, (f a).Silent) : (x >>= f).Sends R :=
  sends_bind hx hf fun _ _ hsts hnil => by rwa [hnil, List.append_nil]

theorem Sends.map {x : Action α} (f : α → β) (hx : x.Sends R) : (f <$> x).Sends R := by
  intro es b h
  obtain ⟨a, ha, -⟩ := runs_map_iff.1 h
  exact hx es a ha

theorem silent_perform {e : Effect} (h : ∀ answer, Exchange.sent? ⟨e, answer⟩ = none) :
    (perform e).Silent := by
  intro es answer hrun
  rw [runs_perform_iff.1 hrun]
  exact List.filterMap_cons_none (h answer)

theorem silent_log (entry : LogEntry) : (log entry).Silent := silent_perform fun _ => rfl

theorem silent_clock : clock.Silent := silent_perform fun _ => rfl

theorem silent_seconds : seconds.Silent := silent_clock.before fun _ => silent_done _

end Action

namespace Fallible

variable {ε δ α β : Type} {Q R S : List Statement → Prop} {P : Statement → Prop}

theorem sends_bind {x : Fallible ε α} {f : α → Fallible ε β} (hx : x.run.Sends Q)
    (hf : ∀ a, (f a).run.Sends R) (hnil : R [])
    (hjoin : ∀ sts us, Q sts → R us → S (sts ++ us)) : (x >>= f).run.Sends S := by
  refine Action.sends_bind hx (R := R) ?_ hjoin
  intro o
  cases o with
  | ok a => exact hf a
  | error e => exact (Action.silent_done _).sends hnil

theorem silent_ofExcept (x : Except ε α) : (ofExcept x : Fallible ε α).run.Silent :=
  Action.silent_done x

theorem silent_pure (a : α) : (pure a : Fallible ε α).run.Silent := silent_ofExcept (.ok a)

theorem silent_throw (e : ε) : (throw e : Fallible ε α).run.Silent := silent_ofExcept (.error e)

theorem silent_lift {x : Action α} (hx : x.Silent) : (lift x : Fallible ε α).run.Silent :=
  Action.Sends.map Except.ok hx

theorem sends_mapError {x : Fallible ε α} (f : ε → δ) (hx : x.run.Sends R) :
    (mapError f x).run.Sends R := hx.map (Except.mapError f)

theorem silent_bind {x : Fallible ε α} {f : α → Fallible ε β} (hx : x.run.Silent)
    (hf : ∀ a, (f a).run.Silent) : (x >>= f).run.Silent :=
  sends_bind hx hf rfl fun _ _ hsts hus => by rw [hsts, hus]; rfl

theorem reads_bind {x : Fallible ε α} {f : α → Fallible ε β} (hx : x.run.Reads)
    (hf : ∀ a, (f a).run.Reads) : (x >>= f).run.Reads :=
  sends_bind hx hf (by simp) fun _ _ hsts hus => List.forall_mem_append.2 ⟨hsts, hus⟩

theorem accesses_bind {x : Fallible ε α} {f : α → Fallible ε β} (hx : x.run.Reads)
    (hf : ∀ a, (f a).run.Accesses P) : (x >>= f).run.Accesses P :=
  sends_bind hx hf (.reads (by simp)) fun _ _ hsts hus => hus.after_reads hsts

theorem accesses_bind_silent {x : Fallible ε α} {f : α → Fallible ε β} (hx : x.run.Accesses P)
    (hf : ∀ a, (f a).run.Silent) : (x >>= f).run.Accesses P :=
  sends_bind hx hf rfl fun _ _ hsts hnil => by rwa [hnil, List.append_nil]

end Fallible

namespace Database

open Fallible

variable {P : Statement → Prop}

theorem silent_connect : connect.run.Silent := by
  intro es out h
  obtain ⟨a, rfl, -⟩ := runs_connect_iff.1 h
  rfl

theorem reads_run {s : Statement} (hs : s.IsSelect) : (run s).run.Reads := by
  intro es out h
  obtain ⟨a, rfl, -⟩ := runs_run_iff.1 h
  exact List.forall_mem_singleton.2 hs

theorem reads_select {sql : String} {args : List Json} (hs : (statement sql args).IsSelect)
    (limit : Option Nat) : (select sql args limit).run.Reads := by
  refine reads_bind silent_connect.reads fun _ => ?_
  split
  · exact (silent_pure _).reads
  · exact reads_bind (reads_run hs) fun _ => (silent_ofExcept _).reads

theorem reads_ping : ping.run.Reads :=
  reads_bind silent_connect.reads fun _ =>
    reads_bind (reads_run (by decide)) fun _ => (silent_pure _).reads

theorem Executed.access {s : Statement} {autocommit : Bool} {es : List Exchange}
    {out : Except StoreError Nat} (hs : P s) (h : Executed s autocommit es out) :
    Access P (sentBy es) := by
  have hnone : ∀ st ∈ ([] : List Statement), st.IsSelect := by simp
  cases h with
  | unconnected _ e => exact .reads hnone
  | alone rs => exact .writes hnone (.alone hs)
  | failed e => exact .writes hnone (.alone hs)
  | transacted h =>
    cases h with
    | refused e => exact .writes hnone (.refused hs)
    | committed rs => exact .writes hnone (.ended (t := .commit) hs (by decide))
    | uncommitted rs e => exact .writes hnone (.ended (t := .commit) hs (by decide))
    | rolledBack e => exact .writes hnone (.ended (t := .rollback) hs (by decide))
    | leftOpen e d => exact .writes hnone (.ended (t := .rollback) hs (by decide))

theorem accesses_execute (autocommit : Bool) {sql : String} {args : List Json}
    (hs : P (statement sql args)) : (execute autocommit sql args).run.Accesses P :=
  fun _ _ h => (runs_execute_iff.1 h).access hs

end Database

/-- Nothing is sent for the defaults of the fields. -/
def Schema.Offline (s : Schema) : Prop :=
  ∀ f ∈ s.declared, ∀ d, f.initial = some d → d.resolve.Silent

namespace Record

variable {r r' : Record} {es : List Exchange}

theorem sentBy_of_provided {given : List (Field × Json)}
    (h : ∀ p ∈ given, ∀ d, p.1.initial = some d → d.resolve.Silent) (hprovided : Provided given es) :
    sentBy es = [] := by
  induction hprovided with
  | nil => rfl
  | cons hfirst hrest ih =>
    obtain ⟨hp, hgiven⟩ := List.forall_mem_cons.1 h
    obtain ⟨d, hd, hresolve⟩ := hfirst
    rw [sentBy_append, hp d hd _ _ hresolve, ih hgiven]
    rfl

theorem offline_of_runs_valueOrDefault (h : r.schema.Offline) {attr : String}
    {out : Except StoreError Json} (hrun : Action.Runs (r.valueOrDefault attr) es (out, r')) :
    sentBy es = [] ∧ r'.schema = r.schema := by
  cases hf : r.schema.field? attr with
  | none =>
    rw [valueOrDefault_of_unknown hf] at hrun
    obtain ⟨rfl, he⟩ := Action.runs_done_iff.1 hrun
    cases he
    exact ⟨rfl, rfl⟩
  | some f =>
    obtain rfl : f.attr = attr := by simpa using List.find?_some hf
    obtain ⟨given, hcalled, hprovided, rfl, -⟩ := (runs_valueOrDefault_iff hf).1 hrun
    refine ⟨sentBy_of_provided (fun p hp => ?_) hprovided, schema_supplied r given⟩
    have hmem := List.mem_map_of_mem (f := Prod.fst) hp
    rw [hcalled] at hmem
    rw [List.mem_singleton.1 (List.mem_filter.1 hmem).1]
    exact h f (List.mem_of_find?_eq_some hf)

/-- One read after another, each with the schema that the first one had. -/
theorem silent_resolve (h : r.schema.Offline) (attrs : List String) : (r.resolve attrs).Silent := by
  induction attrs generalizing r with
  | nil => exact Action.silent_done _
  | cons attr rest ih =>
    intro es out hrun
    obtain ⟨fs, gs, ⟨first, r₁⟩, rfl, hfirst, hrest⟩ := Action.runs_bind_iff.1 hrun
    obtain ⟨hnone, hschema⟩ := offline_of_runs_valueOrDefault h hfirst
    have hquiet : sentBy gs = [] := by
      cases first with
      | error e => exact Action.silent_done _ gs out hrest
      | ok v =>
        have hafter : r₁.schema.Offline := hschema ▸ h
        exact Action.Sends.then_silent (ih hafter) (fun _ => Action.silent_done _) gs out hrest
    rw [sentBy_append, hnone, hquiet]
    rfl

theorem silent_insertArgs (h : r.schema.Offline) : r.insertArgs.Silent := silent_resolve h _

end Record

namespace Entity

open Fallible

variable {α : Type} [Entity α] {P : Statement → Prop}

theorem silent_schemaOf : (schemaOf α).run.Silent := silent_ofExcept _

theorem reads_find (key : Json) : (find α key).run.Reads := by
  refine reads_bind silent_schemaOf.reads fun s => ?_
  refine reads_bind (Database.reads_select (s.isSelect_selectByKeySql _) _) fun rows => ?_
  cases rows with
  | nil => exact (silent_pure _).reads
  | cons row rows => exact (silent_bind (silent_ofExcept _) fun _ => silent_pure _).reads

theorem reads_findAll (q : FindAll) : (findAll α q).run.Reads := by
  refine reads_bind silent_schemaOf.reads fun s => ?_
  exact reads_bind (Database.reads_select (s.isSelect_query q) _) fun _ => (silent_ofExcept _).reads

theorem reads_findNumber (expr : String) (filter : Option String) (args : List Json) :
    (findNumber α expr filter args).run.Reads := by
  refine reads_bind silent_schemaOf.reads fun s => ?_
  refine reads_bind (Database.reads_select (s.isSelect_numberSql _ _ _) _) fun rows => ?_
  cases rows with
  | nil => exact (silent_pure _).reads
  | cons row rows => exact (silent_pure _).reads

theorem silent_expectOne (entry : LogEntry) (n : Nat) : (expectOne entry n).run.Silent := by
  unfold expectOne
  split
  · exact silent_pure _
  · exact silent_lift (Action.silent_log entry)

variable {s : Schema}

/-- A save accesses the database with the insert of what the record of the entity resolves to. -/
theorem accesses_save (hs : Entity.schema α = .ok s) (hoffline : s.Offline) {v : α}
    (hP : ∀ fs args record, Action.Runs (toRecord s v).insertArgs fs (.ok args, record) →
      P (Database.statement s.insertSql args)) (autocommit : Bool) :
    (save autocommit v).run.Accesses P := by
  have hsilent := Record.silent_insertArgs (r := toRecord s v) hoffline
  intro es out h
  rw [save_eq hs] at h
  rcases runs_bind_iff.1 h with ⟨e, hargs, -⟩ | ⟨fs, gs, ⟨bound, record⟩, rfl, hargs, hrest⟩
  · exact (silent_lift hsilent).reads.accesses es _ hargs
  · obtain ⟨p, hresolved, hp⟩ := runs_lift_iff.1 hargs
    cases hp
    rw [sentBy_append, hsilent fs _ hresolved, List.nil_append]
    refine (?_ : Action.Accesses P _) gs out hrest
    cases bound with
    | error e => exact (silent_throw e).reads.accesses
    | ok args =>
      have hwrite : (Database.execute autocommit s.insertSql args >>= fun n =>
          expectOne .insertMissed n >>= fun _ =>
            Fallible.ofExcept (ofFields record.values : Except StoreError α)).run.Accesses P :=
        accesses_bind_silent (Database.accesses_execute autocommit (hP fs args record hresolved))
          fun n => silent_bind (silent_expectOne _ n) fun _ => silent_ofExcept _
      exact hwrite

theorem accesses_update (hs : Entity.schema α = .ok s)
    (hP : ∀ args, P (Database.statement s.updateSql args)) (autocommit : Bool) (v : α) :
    (update autocommit v).run.Accesses P := by
  rw [update_eq hs]
  exact accesses_bind_silent (Database.accesses_execute autocommit (hP _)) (silent_expectOne _)

theorem accesses_remove (hs : Entity.schema α = .ok s)
    (hP : ∀ args, P (Database.statement s.deleteSql args)) (autocommit : Bool) (v : α) :
    (remove autocommit v).run.Accesses P := by
  rw [remove_eq hs]
  exact accesses_bind_silent (Database.accesses_execute autocommit (hP _)) (silent_expectOne _)

end Entity
end Weblog
