import Weblog.Proofs.Store.Access

/-!
# Weblog.Proofs.Store.Script

The texts that an action sends, in their order.

* `Statement.form`: the text of a statement and how many arguments it has.
* `forms`: those of the statements of a run, without what ends a transaction.
* `Action.Follows`: whatever the world answers, the forms are the beginning of a script;
  `Fallible.Completes`: and all of it where nothing fails.
* `follows_bind`: the script of a sequence is that of its first part and then that of the second.
* `completes_find`, `completes_findAll`, `completes_findNumber`, `completes_save`,
  `completes_update`, `completes_remove`: the scripts of reads and writes.
-/

namespace Weblog

/-- The text of a statement and how many arguments are bound to it. -/
def Statement.form (st : Statement) : String × Nat := (st.sql, st.args.length)

/-- The statement ends a transaction. -/
def Statement.IsEnding (st : Statement) : Prop :=
  st = TransactionControl.commit.statement ∨ st = TransactionControl.rollback.statement

instance (st : Statement) : Decidable st.IsEnding :=
  inferInstanceAs (Decidable (_ = _ ∨ _ = _))

theorem Statement.IsSelect.not_isEnding {st : Statement} (h : st.IsSelect) : ¬ st.IsEnding := by
  rintro (rfl | rfl) <;> exact absurd h (by decide)

theorem Statement.IsChange.not_isEnding {st : Statement} (h : st.IsChange) : ¬ st.IsEnding := by
  rintro (rfl | rfl) <;> exact absurd h (not_isChange_control _)

/-- The statements of a run without those that end a transaction. -/
def unended (es : List Exchange) : List Statement := (sentBy es).filter fun st => ¬ st.IsEnding

def forms (es : List Exchange) : List (String × Nat) := (unended es).map Statement.form

theorem forms_append (es fs : List Exchange) : forms (es ++ fs) = forms es ++ forms fs := by
  simp [forms, unended, sentBy_append]

theorem forms_run {st : Statement} (h : ¬ st.IsEnding) (answer : Except DbError ResultSet)
    (es : List Exchange) : forms (⟨.run st, answer⟩ :: es) = st.form :: forms es := by
  have hsent : sentBy (⟨.run st, answer⟩ :: es) = st :: sentBy es := rfl
  rw [forms, unended, hsent, List.filter_cons_of_pos (by simpa using h)]
  rfl

theorem forms_of_unsent {es : List Exchange} (h : sentBy es = []) : forms es = [] := by
  rw [forms, unended, h]
  rfl

theorem forms_prefix {es : List Exchange} {plan : List (String × Nat)} (h : forms es = plan) :
    forms es <+: plan := h ▸ List.prefix_rfl

/-- What is sent is in the script, or it ends a transaction. -/
theorem form_mem {es : List Exchange} {plan : List (String × Nat)} (h : forms es <+: plan)
    {st : Statement} (hst : st ∈ sentBy es) : st.form ∈ plan ∨ st.IsEnding := by
  by_cases hend : st.IsEnding
  · exact .inr hend
  · exact .inl (h.subset (List.mem_map_of_mem (List.mem_filter.2 ⟨hst, by simpa using hend⟩)))

namespace Action

variable {α β : Type} {plan rest : List (String × Nat)}

/-- Whatever the world answers, what an action sends is the beginning of a script. -/
def Follows (plan : List (String × Nat)) (x : Action α) : Prop :=
  ∀ es a, Runs x es a → forms es <+: plan

theorem Silent.follows {x : Action α} (hx : x.Silent) : x.Follows plan := by
  intro es a h
  rw [forms_of_unsent (hx es a h)]
  exact List.nil_prefix

theorem Silent.then_follows {x : Action α} {f : α → Action β} (hx : x.Silent)
    (hf : ∀ a, (f a).Follows plan) : (x >>= f).Follows plan := by
  intro es b h
  obtain ⟨fs, gs, a, rfl, hfirst, hsecond⟩ := runs_bind_iff.1 h
  rw [forms_append, forms_of_unsent (hx fs a hfirst)]
  exact hf a gs b hsecond

theorem Follows.then_silent {x : Action α} {f : α → Action β} (hx : x.Follows plan)
    (hf : ∀ a, (f a).Silent) : (x >>= f).Follows plan := by
  intro es b h
  obtain ⟨fs, gs, a, rfl, hfirst, hsecond⟩ := runs_bind_iff.1 h
  rw [forms_append, forms_of_unsent (hf a gs b hsecond), List.append_nil]
  exact hx fs a hfirst

end Action

namespace Fallible

variable {ε δ α β : Type} {plan rest : List (String × Nat)}

/-- What an action sends is the beginning of a script, and all of it where nothing fails. -/
structure Completes (plan : List (String × Nat)) (x : Fallible ε α) : Prop where
  follows : x.run.Follows plan
  whole : ∀ es a, Action.Runs x.run es (.ok a) → forms es = plan

theorem completes_of_silent {x : Fallible ε α} (hx : x.run.Silent) : Completes [] x where
  follows := hx.follows
  whole es a h := forms_of_unsent (hx es (.ok a) h)

/-- The second part of a sequence is reached where the first did not fail, so that all of the first
script is sent by then. -/
theorem follows_bind {x : Fallible ε α} {f : α → Fallible ε β} (hx : Completes plan x)
    (hf : ∀ a, (f a).run.Follows rest) : (x >>= f).run.Follows (plan ++ rest) := by
  intro es out h
  rcases runs_bind_iff.1 h with ⟨e, hfirst, rfl⟩ | ⟨fs, gs, a, rfl, hfirst, hsecond⟩
  · exact (hx.follows es _ hfirst).trans (List.prefix_append _ _)
  · rw [forms_append, hx.whole fs a hfirst]
    exact (List.prefix_append_right_inj _).2 (hf a gs out hsecond)

/-- What the second part sends may depend on what the first one can yield. -/
theorem completes_after {x : Fallible ε α} {f : α → Fallible ε β} (hx : Completes plan x)
    (hf : ∀ fs a, Action.Runs x.run fs (.ok a) → Completes rest (f a)) :
    Completes (plan ++ rest) (x >>= f) := by
  constructor
  · intro es out h
    rcases runs_bind_iff.1 h with ⟨e, hfirst, rfl⟩ | ⟨fs, gs, a, rfl, hfirst, hsecond⟩
    · exact (hx.follows es _ hfirst).trans (List.prefix_append _ _)
    · rw [forms_append, hx.whole fs a hfirst]
      exact (List.prefix_append_right_inj _).2 ((hf fs a hfirst).follows gs out hsecond)
  · intro es b h
    obtain ⟨fs, gs, a, rfl, hfirst, hsecond⟩ := runs_bind_ok_iff.1 h
    rw [forms_append, hx.whole fs a hfirst, (hf fs a hfirst).whole gs b hsecond]

theorem silent_then_follows {x : Fallible ε α} {f : α → Fallible ε β} (hx : x.run.Silent)
    (hf : ∀ a, (f a).run.Follows plan) : (x >>= f).run.Follows plan :=
  follows_bind (completes_of_silent hx) hf

theorem silent_then_completes {x : Fallible ε α} {f : α → Fallible ε β} (hx : x.run.Silent)
    (hf : ∀ fs a, Action.Runs x.run fs (.ok a) → Completes plan (f a)) :
    Completes plan (x >>= f) :=
  completes_after (completes_of_silent hx) hf

theorem Completes.then_silent {x : Fallible ε α} {f : α → Fallible ε β} (hx : Completes plan x)
    (hf : ∀ a, (f a).run.Silent) : Completes plan (x >>= f) := by
  rw [← List.append_nil plan]
  exact completes_after hx fun _ a _ => completes_of_silent (hf a)

theorem Completes.mapError {x : Fallible ε α} (hx : Completes plan x) (f : ε → δ) :
    Completes plan (mapError f x) where
  follows es out h := by
    obtain ⟨r, hr, -⟩ := runs_mapError_iff.1 h
    exact hx.follows es r hr
  whole es a h := by
    obtain ⟨r, hr, hout⟩ := runs_mapError_iff.1 h
    cases r with
    | error e => cases hout
    | ok b => exact hx.whole es b hr

end Fallible

namespace Database

open Fallible

/-- What opens the transaction of a write. -/
def openingForms (autocommit : Bool) : List (String × Nat) :=
  if autocommit then [] else [TransactionControl.start.statement.form]

theorem form_statement (sql : String) (args : List Json) :
    (statement sql args).form = (Sql.native sql, args.length) := by
  rw [Statement.form, statement, List.length_map]

theorem completes_run {st : Statement} (hst : ¬ st.IsEnding) : Completes [st.form] (run st) where
  follows es out h := by
    obtain ⟨answer, rfl, -⟩ := runs_run_iff.1 h
    exact forms_prefix (forms_run hst answer [])
  whole es rs h := by
    obtain ⟨answer, rfl, -⟩ := runs_run_iff.1 h
    exact forms_run hst answer []

theorem completes_select {sql : String} {args : List Json} (limit : Option Nat)
    (hlimit : limit ≠ some 0) (hsql : (statement sql args).IsSelect) :
    Completes [(Sql.native sql, args.length)] (select sql args limit) := by
  refine silent_then_completes silent_connect fun _ _ _ => ?_
  rw [if_neg hlimit, ← form_statement]
  exact (completes_run hsql.not_isEnding).then_silent fun _ => silent_ofExcept _

/-- A write sends its statement after what opens its transaction. -/
theorem completes_execute (autocommit : Bool) {sql : String} {args : List Json}
    (hsql : (statement sql args).IsChange) :
    Completes (openingForms autocommit ++ [(Sql.native sql, args.length)])
      (execute autocommit sql args) := by
  have hsent : ∀ answer rest, forms (⟨.run (statement sql args), answer⟩ :: rest) =
      (Sql.native sql, args.length) :: forms rest := by
    intro answer rest
    rw [← form_statement]
    exact forms_run hsql.not_isEnding answer rest
  have hopened : ∀ (answer : Except DbError Unit) (es : List Exchange),
      forms (⟨.control .start, answer⟩ :: es) = openingForms false ++ forms es :=
    fun _ _ => rfl
  constructor
  · intro es out h
    cases runs_execute_iff.1 h with
    | unconnected _ e => exact List.nil_prefix
    | alone rs => exact forms_prefix (hsent (.ok rs) [])
    | failed e => exact forms_prefix (hsent (.error e) [])
    | transacted h =>
      have hwhole : ∀ answer rest, forms rest = [] →
          forms (⟨.control .start, .ok ()⟩ :: ⟨.run (statement sql args), answer⟩ :: rest) =
            openingForms false ++ [(Sql.native sql, args.length)] := by
        intro answer rest hrest
        refine (hopened (.ok ()) _).trans ?_
        rw [hsent, hrest]
      cases h with
      | refused e => exact List.prefix_append _ _
      | committed rs => exact forms_prefix (hwhole (.ok rs) [⟨.control .commit, .ok ()⟩] rfl)
      | uncommitted rs e => exact forms_prefix (hwhole (.ok rs) [⟨.control .commit, .error e⟩] rfl)
      | rolledBack e => exact forms_prefix (hwhole (.error e) [⟨.control .rollback, .ok ()⟩] rfl)
      | leftOpen e d =>
        exact forms_prefix (hwhole (.error e)
          [⟨.control .rollback, .error d⟩, ⟨.log .rollbackFailed, ()⟩] rfl)
  · intro es n h
    cases runs_execute_iff.1 h with
    | alone rs => exact hsent (.ok rs) []
    | transacted h =>
      cases h with
      | committed rs =>
        exact (hopened (.ok ()) _).trans (congrArg (openingForms false ++ ·) (hsent (.ok rs) _))

end Database

namespace Record

/-- Every attribute of an insert has an argument. -/
theorem length_of_runs_resolve {r r' : Record} {attrs : List String} {es : List Exchange}
    {args : List Json} (h : Action.Runs (r.resolve attrs) es (.ok args, r')) :
    args.length = attrs.length := by
  induction attrs generalizing r es args with
  | nil =>
    obtain ⟨-, hout⟩ := Action.runs_done_iff.1 h
    cases hout
    rfl
  | cons attr rest ih =>
    obtain ⟨fs, gs, ⟨first, r₁⟩, rfl, -, hrest⟩ := Action.runs_bind_iff.1 h
    cases first with
    | error e => cases (Action.runs_done_iff.1 hrest).2
    | ok v =>
      obtain ⟨gs, hs, ⟨vs, r₂⟩, rfl, hothers, hdone⟩ := Action.runs_bind_iff.1 hrest
      obtain ⟨-, hout⟩ := Action.runs_done_iff.1 hdone
      cases vs with
      | error e => cases hout
      | ok vs =>
        cases hout
        rw [List.length_cons, List.length_cons, ih hothers]

end Record

namespace Entity

open Fallible

variable {α : Type} [Entity α] {s : Schema}

theorem completes_find (hs : Entity.schema α = .ok s) (key : Json) :
    Completes [(Sql.native s.selectByKeySql, 1)] (find α key) := by
  rw [find_eq hs]
  refine (Database.completes_select (some 1) nofun (s.isSelect_selectByKeySql [key])).then_silent
    fun rows => ?_
  cases rows with
  | nil => exact silent_pure _
  | cons row rows => exact silent_bind (silent_ofExcept _) fun _ => silent_pure _

theorem completes_findAll (hs : Entity.schema α = .ok s) (q : FindAll) :
    Completes [(Sql.native (q.query s).sql, (q.query s).params.length)] (findAll α q) := by
  rw [findAll_eq hs]
  exact (Database.completes_select none nofun (s.isSelect_query q)).then_silent fun _ =>
    silent_ofExcept _

theorem completes_findNumber (hs : Entity.schema α = .ok s) (expr : String)
    (filter : Option String) (args : List Json) :
    Completes [(Sql.native (s.numberSql expr filter), args.length)]
      (findNumber α expr filter args) := by
  rw [findNumber_eq hs]
  refine (Database.completes_select (some 1) nofun (s.isSelect_numberSql args expr filter)).then_silent
    fun rows => ?_
  cases rows with
  | nil => exact silent_pure _
  | cons row rows => exact silent_pure _

theorem completes_save (hs : Entity.schema α = .ok s) (hoffline : s.Offline) (autocommit : Bool)
    (v : α) :
    Completes (Database.openingForms autocommit ++ [(Sql.native s.insertSql, s.writeOrder.length)])
      (save autocommit v) := by
  have hsilent := Record.silent_insertArgs (r := toRecord s v) hoffline
  rw [save_eq hs]
  refine silent_then_completes (silent_lift hsilent) fun fs p hresolved => ?_
  obtain ⟨⟨bound, record⟩, hargs, hp⟩ := runs_lift_iff.1 hresolved
  cases hp
  refine silent_then_completes (silent_ofExcept _) fun gs args hbound => ?_
  obtain ⟨-, hbound⟩ := runs_ofExcept_iff.1 hbound
  subst hbound
  have hlength : args.length = s.writeOrder.length := Record.length_of_runs_resolve hargs
  rw [← hlength]
  exact (Database.completes_execute autocommit (s.changes_insertSql args).isChange).then_silent
    fun n => silent_bind (silent_expectOne _ n) fun _ => silent_ofExcept _

theorem completes_update (hs : Entity.schema α = .ok s) (autocommit : Bool) (v : α) :
    Completes (Database.openingForms autocommit ++ [(Sql.native s.updateSql, s.writeOrder.length)])
      (update autocommit v) := by
  have hlength : (toRecord s v).updateArgs.length = s.writeOrder.length := List.length_map _
  rw [update_eq hs, ← hlength]
  exact (Database.completes_execute autocommit (s.changes_updateSql _).isChange).then_silent
    (silent_expectOne _)

theorem completes_remove (hs : Entity.schema α = .ok s) (autocommit : Bool) (v : α) :
    Completes (Database.openingForms autocommit ++ [(Sql.native s.deleteSql, 1)])
      (remove autocommit v) := by
  rw [remove_eq hs]
  have hchange := (s.changes_deleteSql [(toRecord s v).keyValue]).isChange
  exact (Database.completes_execute autocommit hchange).then_silent (silent_expectOne _)

end Entity
end Weblog
