import Weblog.Proofs.Blog.Authorization
import Weblog.Proofs.Sql.Shared

/-!
# Weblog.Proofs.Blog.Registrations

Requests to register that are served at the same time.

* `Cautious`, `cautious_serve`: a registration inserts a user only after its search found nobody
  with the e-mail address.
* `UserTable.dialect`: what statements mean to the table of users. A search sees the rows that are
  there, and an insert needs a new id and nothing else.
* `Grows`, `grows_of_evolves`: rows stay, and new ones were inserted.
* `overlooked_of_interleaves`: where an e-mail address stands twice, the request that inserted the
  later row had searched before the earlier row was there.
* `emails_not_distinct`: this happens to two requests of the same person.
-/

namespace Weblog
namespace Blog

/-! ## One registration -/

/-- A search for an e-mail address that finds nobody. -/
def FindsNobody (email : String) (x : Exchange) : Prop :=
  ∃ rs : ResultSet, x = ⟨.run (emailSearch email), .ok rs⟩ ∧
    Entity.ofResult rs = .ok ([] : List User)

/-- Before a user is inserted, a search found nobody with the e-mail address. -/
def Cautious (es : List Exchange) : Prop :=
  EachAfter (fun before x => ∀ u : User, x.effect = .run u.insertion →
    ∃ y ∈ before, FindsNobody u.email y) es

theorem isChange_insertion (u : User) : u.insertion.IsChange :=
  (User.schema.changes_insertSql u.row).isChange

theorem insertion_injective {u v : User} (h : u.insertion = v.insertion) : u = v :=
  User.bound_injective (congrArg Statement.args h)

theorem emailSearch_injective {email email' : String} (h : emailSearch email = emailSearch email') :
    email = email' := by
  have hargs : [Bound.ofJson (.string email)] = [Bound.ofJson (.string email')] :=
    congrArg Statement.args h
  cases hargs
  rfl

theorem emailSearch_ne_insertion (email : String) (u : User) : emailSearch email ≠ u.insertion := by
  intro h
  refine emailSearch_sql_ne email ((congrArg Statement.sql h).trans ?_)
  rw [User.insertion, Database.statement]

variable {s : Settings} {users : Directory} {render : Renderer} {es fs : List Exchange}

namespace Cautious

theorem of_reads (h : ∀ st ∈ sentBy es, st.IsSelect) : Cautious es := by
  rintro before x after rfl u hx
  have hsent : u.insertion ∈ sentBy (before ++ x :: after) :=
    mem_sentBy_of_run (List.mem_append_right before List.mem_cons_self) hx
  exact absurd (isChange_insertion u) (h _ hsent).not_isChange

theorem of_silent (h : sentBy es = []) : Cautious es := of_reads (by simp [h])

theorem append (hes : Cautious es) (hfs : Cautious fs) : Cautious (es ++ fs) := by
  refine EachAfter.append_iff.2 ⟨hes, ?_⟩
  intro before x after h u hx
  obtain ⟨y, hy, hnobody⟩ := hfs before x after h u hx
  exact ⟨y, List.mem_append_right es hy, hnobody⟩

/-- After a search that found nobody, users with that e-mail address may be inserted. -/
theorem append_of_search (hes : Cautious es) {email : String}
    (hsearch : ∃ y ∈ es, FindsNobody email y)
    (hfs : ∀ u : User, u.insertion ∈ sentBy fs → u.email = email) : Cautious (es ++ fs) := by
  refine EachAfter.append_iff.2 ⟨hes, ?_⟩
  rintro before x after rfl u hx
  obtain ⟨y, hy, hnobody⟩ := hsearch
  have hsent : u.insertion ∈ sentBy (before ++ x :: after) :=
    mem_sentBy_of_run (List.mem_append_right before List.mem_cons_self) hx
  rw [hfs u hsent]
  exact ⟨y, List.mem_append_left before hy, hnobody⟩

end Cautious

theorem email_of_runs_enroll {r : Registration} {out : Except AppError Reply}
    (h : Action.Runs (enroll s r).run es out) :
    ∀ u : User, u.insertion ∈ sentBy es → u.email = r.email := by
  intro u hu
  obtain ⟨v, hv, hsame⟩ := (accesses_enroll s r es out h).of_isChange hu (isChange_insertion u)
  rw [insertion_injective hsame, hv]

theorem cautious_register {c : Call} {out : Except AppError Reply}
    (h : Action.Runs (register s c).run es out) : Cautious es := by
  rw [register_eq] at h
  rcases Fallible.runs_bind_iff.1 h with ⟨e, hcheck, -⟩ | ⟨fs, gs, u, rfl, hcheck, hrest⟩
  · exact .of_silent (Fallible.silent_ofExcept _ es _ hcheck)
  obtain ⟨rfl, -⟩ := Fallible.runs_ofExcept_iff.1 hcheck
  rw [List.nil_append]
  rcases Fallible.runs_bind_iff.1 hrest with ⟨e, hsearch, -⟩ | ⟨hs, is, others, rfl, hsearch, hend⟩
  · exact .of_reads (reads_usersOfEmail _ gs _ hsearch)
  have hreads : Cautious hs := .of_reads (reads_usersOfEmail _ hs _ hsearch)
  cases others with
  | cons u others => exact hreads.append (.of_silent (silent_refuse _ is out hend))
  | nil =>
    have hnobody : ∃ y ∈ hs, FindsNobody (registrationOf c).email y := by
      rcases runs_usersOfEmail_iff.1 hsearch with ⟨e, -, ho⟩ | ⟨e, -, ho⟩ | ⟨rs, rfl, ho⟩
      · cases ho
      · cases ho
      · cases hresult : Entity.ofResult (α := User) rs with
        | error e =>
          rw [hresult] at ho
          cases ho
        | ok found =>
          rw [hresult] at ho
          cases ho
          exact ⟨_, List.mem_cons_of_mem _ List.mem_cons_self, rs, rfl, hresult⟩
    exact hreads.append_of_search hnobody (email_of_runs_enroll hend)

/-- A request that registers somebody. -/
structure IsSignup (r : Http.Request) : Prop where
  method : r.method = .post
  path : r.uri.path = "/api/users"

theorem cautious_serve (husers : users.Reads) (hrender : render.Offline) {r : Http.Request}
    (hr : IsSignup r) {response : Http.Response}
    (h : Action.Runs ((site s users render).serve r) es response) : Cautious es := by
  rw [served_register.serve_eq hr.method hr.path] at h
  cases hlength : Site.dispatched? r with
  | none =>
    simp only [hlength] at h
    exact .of_silent (Action.silent_done _ es response h)
  | some r' =>
    simp only [hlength] at h
    obtain ⟨ds, hs, visitor, rfl, hvisitor, hdispatch⟩ := Action.runs_bind_iff.1 h
    have hlooked : Cautious ds :=
      .of_reads (Site.reads_currentUser (s := site s users render) husers r ds visitor hvisitor)
    rcases Entry.of_runs_dispatch hrender hdispatch with
      hnone | ⟨before, fs, after, args, outcome, rfl, -, hbefore, hhandler, hafter⟩
    · exact hlooked.append (.of_silent hnone)
    · have hcalled := (Cautious.of_silent hbefore).append (cautious_register hhandler)
      exact hlooked.append (hcalled.append (.of_silent hafter))

theorem cautious_of_leads (husers : users.Reads) (hrender : render.Offline) {r : Http.Request}
    (hr : IsSignup r) {y : Action Http.Response}
    (h : Action.Leads ((site s users render).serve r) es y) : Cautious es := by
  obtain ⟨fs, response, hruns⟩ := h.exists_runs
  exact (EachAfter.append_iff.1 (cautious_serve husers hrender hr hruns)).1

end Blog

/-! ## The table of users -/

variable {ι : Type}

/-- The rows of the table of users that tasks share. -/
abbrev UserTable (ι : Type) : Type := Sql.Shared ι (List User)

namespace UserTable

open Sql

def Holds (t : UserTable ι) (u : User) : Prop := u ∈ t.rows ∨ ∃ i, u ∈ t.view i

/-- How a statement that changes nothing is answered. A search sees the rows that are there and those
of its own transaction. -/
inductive Reads (t : UserTable ι) (i : ι) (st : Statement) (rs : ResultSet) : Prop
  | searched (email : String) : st = Blog.emailSearch email →
      Entity.ofResult rs = .ok ((t.view i).filter fun u => u.email = email) → Reads t i st rs
  | other : st.IsSelect → (∀ email, st ≠ Blog.emailSearch email) → Reads t i st rs

/-- An insert adds a row, and needs an id that no row has. -/
def Alters (t : UserTable ι) (st : Statement) (f : List User → List User) : Prop :=
  ∃ u : User, st = u.insertion ∧ (∀ v, t.Holds v → v.id ≠ u.id) ∧ f = fun rows => rows ++ [u]

/-- What statements mean to the table of users. -/
def dialect : Dialect ι (List User) := ⟨Reads, Alters⟩

variable {t t' : UserTable ι} {P : User → Prop} {ts : List (Turn ι)}

/-- Rows stay, and new ones meet a condition. -/
def Grows (P : User → Prop) (f : List User → List User) : Prop :=
  ∀ rows, ∃ fresh, f rows = rows ++ fresh ∧ ∀ u ∈ fresh, P u

theorem grows_insert {u : User} (h : P u) : Grows P fun rows => rows ++ [u] := fun _ =>
  ⟨[u], rfl, List.forall_mem_singleton.2 h⟩

theorem composes_grows : Composes (Grows P) where
  id rows := ⟨[], (List.append_nil rows).symm, List.forall_mem_nil _⟩
  comp := by
    intro f g hf hg rows
    obtain ⟨fresh, hrows, hfresh⟩ := hg rows
    obtain ⟨later, hlater, hmore⟩ := hf (g rows)
    refine ⟨fresh ++ later, ?_, List.forall_mem_append.2 ⟨hfresh, hmore⟩⟩
    rw [Function.comp_apply, hlater, hrows, List.append_assoc]

variable [DecidableEq ι]

/-- What the database does in a turn. -/
def Admits : UserTable ι → Turn ι → UserTable ι → Prop := Shared.Admits dialect

theorem answers_insert {i : ι} {u : User} (hnew : ∀ v, t.Holds v → v.id ≠ u.id) :
    t.Answers dialect i u.insertion (.ok ⟨[], [], 1⟩) (t.put i fun rows => rows ++ [u]) :=
  .changed _ ⟨u, rfl, hnew, rfl⟩

/-- New rows were inserted. -/
theorem grows_of_evolves (h : Evolves Admits t ts t') (hpends : t.Pends (Grows P))
    (hP : ∀ turn ∈ ts, ∀ u : User, turn.exchange.effect = .run u.insertion → P u) :
    t'.Pends (Grows P) ∧ ∃ fresh, t'.rows = t.rows ++ fresh ∧ ∀ u ∈ fresh, P u := by
  have halters : ∀ turn ∈ ts, ∀ (t : UserTable ι) st f, turn.exchange.effect = .run st →
      dialect.Alters t st f → Grows P f := by
    rintro turn hturn t st f hrun ⟨u, rfl, -, rfl⟩
    exact grows_insert (hP turn hturn u hrun)
  obtain ⟨hpends', f, hf, hrows⟩ := Shared.exists_change_of_evolves composes_grows h hpends halters
  exact ⟨hpends', hrows ▸ hf t.rows⟩

theorem Admits.nobody {i : ι} {email : String} {x : Exchange} (hx : Blog.FindsNobody email x)
    (hpends : t.Pends (Grows P)) (h : Admits t ⟨i, x⟩ t') : ∀ u ∈ t.rows, u.email ≠ email := by
  obtain ⟨rs, rfl, hresult⟩ := hx
  have h : t.Answers dialect i (Blog.emailSearch email) (.ok rs) t' := h
  cases h with
  | read hreads =>
    cases hreads with
    | searched email' hsame hfound =>
      obtain rfl := Blog.emailSearch_injective hsame
      rw [hresult] at hfound
      have hnone := List.filter_eq_nil_iff.1 (Except.ok.inj hfound).symm
      obtain ⟨fresh, hview, -⟩ := hpends.getD composes_grows i t.rows
      intro u hu hemail
      have hseen : u ∈ t.view i := by
        rw [Shared.view, hview]
        exact List.mem_append_left fresh hu
      exact hnone u hseen (by simpa using hemail)
    | other _ hne => exact absurd rfl (hne email)
  | changed _ halters =>
    obtain ⟨u, hsame, -⟩ := halters
    exact absurd hsame (Blog.emailSearch_ne_insertion email u)

end UserTable

namespace Blog

variable [DecidableEq ι] {s : Settings} {users : Directory} {render : Renderer}

/-- The request that inserted a user looked for the e-mail address and found nobody when there were
at most so many rows. -/
def Overlooked (t : UserTable ι) (ts : List (Turn ι)) (t' : UserTable ι) (m : Nat) (u : User) :
    Prop :=
  ∃ before i x after t₁, ts = before ++ ⟨i, x⟩ :: after ∧ FindsNobody u.email x ∧
    (∃ y, ⟨i, y⟩ ∈ after ∧ y.effect = .run u.insertion) ∧
    Evolves UserTable.Admits t before t₁ ∧ Evolves UserTable.Admits t₁ (⟨i, x⟩ :: after) t' ∧
    t₁.rows.length ≤ m

/-- Of requests to register that take turns in any order, each with single statements: where an
e-mail address stands in two rows, the request that inserted the later one had looked for it before
the earlier one was there. -/
theorem overlooked_of_interleaves (husers : users.Reads) (hrender : render.Offline)
    {requests : ι → Http.Request} (hrequests : ∀ i, IsSignup (requests i)) {rows : List User}
    (hdistinct : (rows.map User.email).Nodup) {ts : List (Turn ι)} {t : UserTable ι}
    {ys : ι → Action Http.Response}
    (h : Interleaves UserTable.Admits (.idle rows)
      (fun i => (site s users render).serve (requests i)) ts t ys)
    {m n : Nat} (hmn : m < n) {u v : User} (hu : t.rows[m]? = some u) (hv : t.rows[n]? = some v)
    (hsame : u.email = v.email) : Overlooked (.idle rows) ts t m v := by
  obtain ⟨hevolves, hleads⟩ := interleaves_iff.1 h
  obtain ⟨-, fresh, hrows, hinserted⟩ := UserTable.grows_of_evolves
    (P := fun u => ∃ turn ∈ ts, turn.exchange.effect = .run u.insertion) hevolves
    (Sql.Shared.pends_idle rows) fun turn hturn u hrun => ⟨turn, hturn, hrun⟩
  have hrows : t.rows = rows ++ fresh := hrows
  -- The later row is new, for the first rows have distinct addresses.
  have hfresh : v ∈ fresh := by
    rw [hrows] at hu hv
    by_cases hfirst : n < rows.length
    · rw [List.getElem?_append_left hfirst] at hv
      rw [List.getElem?_append_left (Nat.lt_trans hmn hfirst)] at hu
      have hemails : (rows.map User.email)[m]? = (rows.map User.email)[n]? := by
        rw [List.getElem?_map, List.getElem?_map, hu, hv, Option.map_some, Option.map_some, hsame]
      have hm : m < (rows.map User.email).length := by
        rw [List.length_map]
        omega
      exact absurd ((List.getElem?_inj hm hdistinct).1 hemails) (Nat.ne_of_lt hmn)
    · rw [List.getElem?_append_right (Nat.le_of_not_lt hfirst)] at hv
      exact List.mem_of_getElem? hv
  obtain ⟨turn, hturn, hinserts⟩ := hinserted v hfresh
  obtain ⟨sofar, rest, rfl⟩ := List.append_of_mem hturn
  -- Its task searched before that and found nobody.
  have hcautious := cautious_of_leads husers hrender (hrequests turn.task) (hleads turn.task)
  rw [ownTurns_append, ownTurns_cons_self] at hcautious
  obtain ⟨x, hx, hnobody⟩ := hcautious _ turn.exchange _ rfl v hinserts
  obtain ⟨before, between, rfl⟩ := List.append_of_mem (mem_ownTurns_iff.1 hx)
  rw [List.append_assoc, List.cons_append] at hevolves ⊢
  obtain ⟨t₁, hbefore, hafter⟩ := Evolves.append_iff.1 hevolves
  have hlater : turn ∈ between ++ turn :: rest := List.mem_append_right between List.mem_cons_self
  refine ⟨before, turn.task, x, between ++ turn :: rest, t₁, rfl, hnobody,
    ⟨turn.exchange, hlater, hinserts⟩, hbefore, hafter, ?_⟩
  -- What it did not see was not there.
  refine Nat.le_of_not_lt fun hthere => ?_
  obtain ⟨hpends, -⟩ := UserTable.grows_of_evolves (P := fun _ => True) hbefore
    (Sql.Shared.pends_idle rows) fun _ _ _ _ => trivial
  obtain ⟨-, more, hmore, -⟩ := UserTable.grows_of_evolves hafter hpends fun _ _ _ _ => trivial
  rw [hmore, List.getElem?_append_left hthere] at hu
  cases hafter with
  | turn hsearch _ =>
    exact UserTable.Admits.nobody hnobody hpends hsearch u (List.mem_of_getElem? hu) hsame

/-! ## Ann registers twice at the same time -/

/-- The UUIDs that are drawn for the two requests. -/
def twinUuid (b : Bool) : List UInt8 := List.replicate 16 (if b then 8 else 7)

def twin (b : Bool) : User := annWith (twinUuid b)

def turnsOf (b : Bool) (es : List Exchange) : List (Turn Bool) := es.map fun x => ⟨b, x⟩

/-- Both requests search, and then both insert. -/
def twinTurns : List (Turn Bool) :=
  turnsOf false ((signupWith (twinUuid false)).take 2) ++
    (turnsOf true ((signupWith (twinUuid true)).take 2) ++
      (turnsOf false ((signupWith (twinUuid false)).drop 2) ++
        turnsOf true ((signupWith (twinUuid true)).drop 2)))

theorem ownTurns_twinTurns (b : Bool) : ownTurns b twinTurns = signupWith (twinUuid b) := by
  cases b <;> rfl

theorem evolves_twinTurns :
    Evolves UserTable.Admits (.idle []) twinTurns (.idle [twin false, twin true]) := by
  have hsearch : ∀ b : Bool, Sql.Shared.Answers UserTable.dialect (.idle []) b
      (emailSearch annRegistration.email) (.ok ⟨[], [], 0⟩) (.idle []) := fun b =>
    .read (.searched _ rfl rfl)
  have hfirst : Sql.Shared.Answers UserTable.dialect (.idle []) false (twin false).insertion
      (.ok ⟨[], [], 1⟩) (.idle [twin false]) := by
    refine UserTable.answers_insert ?_
    simp [UserTable.Holds, Sql.Shared.idle, Sql.Shared.view]
  have hsecond : Sql.Shared.Answers UserTable.dialect (.idle [twin false]) true
      (twin true).insertion (.ok ⟨[], [], 1⟩) (.idle [twin false, twin true]) := by
    refine UserTable.answers_insert ?_
    simp only [UserTable.Holds, Sql.Shared.idle, Sql.Shared.view, Option.getD_none, id_eq,
      List.mem_singleton, exists_const, or_self, forall_eq]
    decide
  refine .turn rfl (.turn (hsearch false) (.turn rfl (.turn (hsearch true) ?_)))
  refine .turn rfl (.turn rfl (.turn rfl (.turn rfl (.turn hfirst (.turn rfl ?_)))))
  refine .turn rfl (.turn rfl (.turn rfl (.turn rfl (.turn hsecond (.turn rfl (.nil _))))))

theorem interleaves_twins :
    Interleaves UserTable.Admits (.idle []) (fun _ => (annSite 86400).serve (annForm "/api/users"))
      twinTurns (.idle [twin false, twin true])
      fun b => .done (signedInResponse (twin b) (cookieWith 86400 (twinUuid b))) := by
  refine interleaves_iff.2 ⟨evolves_twinTurns, fun b => ?_⟩
  rw [ownTurns_twinTurns]
  exact (runs_signupWith 86400 (twinUuid b)).leads

theorem isSignup_annForm : IsSignup (annForm "/api/users") := ⟨rfl, rfl⟩

theorem overlooked_of_interleaves_twins :
    Interleaves UserTable.Admits (.idle []) (fun _ => (annSite 86400).serve (annForm "/api/users"))
        twinTurns (.idle [twin false, twin true])
        (fun b => .done (signedInResponse (twin b) (cookieWith 86400 (twinUuid b)))) ∧
      Overlooked (.idle []) twinTurns (.idle [twin false, twin true]) 0 (twin true) := by
  have husers : (annSite 86400).users.Reads := fun _ => (Action.silent_done _).reads
  have hdistinct : (([] : List User).map User.email).Nodup := List.nodup_nil
  exact ⟨interleaves_twins, overlooked_of_interleaves (s := annSettings 86400) husers
    (fun _ _ => Fallible.silent_pure _) (fun _ => isSignup_annForm) hdistinct interleaves_twins
    Nat.zero_lt_one rfl rfl rfl⟩

/-- The table asks for an id that is its own and for nothing else, and so two requests at the same
time leave two rows with one e-mail address, and both are answered with success. -/
theorem emails_not_distinct :
    User.schema.createTableSql = "CREATE TABLE IF NOT EXISTS \"users\" (\n  " ++
        "\"id\" VARCHAR(50) NOT NULL,\n  \"email\" VARCHAR(50),\n  \"passwd\" VARCHAR(64),\n  " ++
        "\"admin\" BOOLEAN,\n  \"name\" VARCHAR(50),\n  \"image\" VARCHAR(500),\n  " ++
        "\"created_at\" DOUBLE PRECISION,\n  PRIMARY KEY (\"id\")\n)" ∧
      IsSignup (annForm "/api/users") ∧
      ∃ (ts : List (Turn Bool)) (t : UserTable Bool) (ys : Bool → Action Http.Response),
        Interleaves UserTable.Admits (.idle [])
          (fun _ => (annSite 86400).serve (annForm "/api/users")) ts t ys ∧
        ¬ (t.rows.map User.email).Nodup ∧
        ∀ b, ∃ response, ys b = .done response ∧ response.status = 200 := by
  refine ⟨by decide +kernel, isSignup_annForm, _, _, _, interleaves_twins, ?_, ?_⟩
  · have hsame : (twin false).email = (twin true).email := rfl
    simp [Sql.Shared.idle, hsame]
  · exact fun b => ⟨_, rfl, rfl⟩

end Blog
end Weblog
