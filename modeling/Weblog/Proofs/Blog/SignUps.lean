import Weblog.Proofs.Blog.Reports

/-!
# Weblog.Proofs.Blog.SignUps

What requests to register leave behind, and how they are answered.

* `Enlisting`: the course of a registration: a search at most, or an insert and what becomes of it.
* `Welcomes`: a response with the user, without the password hash, and the cookie of its session.
* `signups_accounted`: a user is left behind if the response welcomes the user, and otherwise only
  where the name of the cookie can stand in no header.
* `runs_serve_stranded`: under such a name every registration in order is stored and answered as a
  failure. Whether a configuration is accepted does not depend on the name (`validate_cookieName`).
-/

namespace Weblog

/-- No condition between settings is about the name of the cookie. -/
theorem AppConfig.validate_cookieName (c : AppConfig) (name : String) :
    AppConfig.validate { c with session := { c.session with cookieName := name } } = c.validate := rfl

/-- Every id may stand in a header, whatever the clock. -/
theorem Stamp.isHeaderText_idText (millis : Int) (uuid : List UInt8) :
    Http.IsHeaderText (idText millis uuid) := by
  refine Http.isHeaderText_of_visible fun c hc => ?_
  rcases mem_idText hc with ⟨rfl, -⟩ | hplain
  · decide
  · have := Cookie.toNat_of_digitOrLower hplain
    omega

/-- An error is answered with one header. -/
theorem Reply.length_headers_responseTo (err : AppError) :
    (responseTo (.error err)).headers.length = 1 := by
  cases err <;> rfl

theorem User.insertion_eq (u : User) : Draft.insertion u = u.insertion := by
  rw [insertion, row_eq]
  rfl

namespace Blog

variable {s : Settings} {c : Call} {q : Registration} {es : List Exchange}

/-! ## The cookie -/

/-- The error where the cookie can stand in no header. -/
def cookieRefused : AppError := .internal "invalid header value: failed to parse header value"

theorem headerValue_eq_ok {text : String} (h : Http.IsHeaderText text) :
    headerValue text = .ok (Text.Utf8.bytesOf text) :=
  headerValue_ok_iff.2 (Http.headerValue?_eq_some h)

theorem headerValue_eq_refused {text : String} (h : ¬ Http.IsHeaderText text) :
    headerValue text = .error cookieRefused := by
  cases hvalue : Http.headerValue? text with
  | none => simp only [headerValue, hvalue, cookieRefused]
  | some octets => exact absurd (Http.headerValue?_eq_some_iff.1 hvalue).1 h

/-- Of a user with a new id, the name of the cookie decides whether the cookie can be set. -/
theorem isHeaderText_sessionCookie_iff {session : SessionConfig} {millis created now : Int}
    {uuid : List UInt8} :
    Http.IsHeaderText (sessionCookie session (q.enrolled millis uuid created) now) ↔
      Http.IsHeaderText session.cookieName :=
  Cookie.isHeaderText_setting_issue_iff.trans
    (and_iff_left (Stamp.isHeaderText_idText millis uuid))

/-- The response welcomes a user: it holds the user without the password hash and sets the cookie of
the session. -/
def Welcomes (session : SessionConfig) (u : User) (response : Http.Response) : Prop :=
  ∃ (now : Int) (cookie : List UInt8), headerValue (sessionCookie session u now) = .ok cookie ∧
    response = signedInResponse u cookie

/-- What is answered once a user is stored. -/
structure Answered (session : SessionConfig) (u : User) (response : Http.Response) : Prop where
  welcomed : Http.IsHeaderText session.cookieName → Welcomes session u response
  stranded : ¬ Http.IsHeaderText session.cookieName → response = cookieRefused.response

theorem not_welcomes_of_status {session : SessionConfig} {u : User} {response : Http.Response}
    (h : response.status ≠ 200) : ¬ Welcomes session u response := by
  rintro ⟨now, cookie, -, rfl⟩
  exact h rfl

theorem not_welcomes_error (session : SessionConfig) (u : User) (err : AppError) :
    ¬ Welcomes session u (Reply.responseTo (.error err)) := by
  rintro ⟨now, cookie, -, heq⟩
  have hlength := Reply.length_headers_responseTo err
  rw [heq] at hlength
  cases hlength

/-! ## The course of a registration -/

/-- The outcome of a registration by the outcome of its insert. -/
def welcomed (session : SessionConfig) (u : User) (now : Int) (written : Except StoreError Nat) :
    Except AppError Reply :=
  (written.mapError .store).bind fun _ =>
    (headerValue (sessionCookie session u now)).map fun cookie =>
      .response (signedInResponse u cookie)

/-- The course of a registration. -/
inductive Enlisting (s : Settings) (q : Registration) :
    List Exchange → Except AppError Reply → Prop where
  /-- It is refused after a search at most. -/
  | refused {es : List Exchange} {err : AppError} :
      (∀ st ∈ sentBy es, st.IsSelect) → Enlisting s q es (.error err)
  /-- Its user is inserted. -/
  | inserted (before : List Exchange) {ws after : List Exchange} (millis created now : Int)
      (uuid : List UInt8) {written : Except StoreError Nat} :
      (∀ st ∈ sentBy before, st.IsSelect) → sentBy after = [] →
      Database.Executed (q.enrolled millis uuid created).insertion s.autocommit ws written →
      Enlisting s q (before ++ (ws ++ after))
        (welcomed s.session (q.enrolled millis uuid created) now written)

theorem Enlisting.after_reads {fs : List Exchange} {out : Except AppError Reply}
    (h : Enlisting s q es out) (hfs : ∀ st ∈ sentBy fs, st.IsSelect) :
    Enlisting s q (fs ++ es) out := by
  cases h with
  | refused hes =>
    refine .refused ?_
    rw [sentBy_append]
    exact List.forall_mem_append.2 ⟨hfs, hes⟩
  | inserted before millis created now uuid hbefore hafter hexecuted =>
    rw [← List.append_assoc]
    refine .inserted _ millis created now uuid ?_ hafter hexecuted
    rw [sentBy_append]
    exact List.forall_mem_append.2 ⟨hfs, hbefore⟩

/-- What a save of the user of a registration asks, and how it ends. -/
theorem saved_of_runs {millis : Int} {uuid : List UInt8} {out : Except AppError User}
    (h : Action.Runs
      (stored (Entity.save s.autocommit (q.user (Stamp.idText millis uuid)))).run es out) :
    ∃ (created : Int) (ws : List Exchange) (written : Except StoreError Nat),
      es = ⟨.clock, created⟩ :: (ws ++ Entity.notes .insertMissed written) ∧
      Database.Executed (q.enrolled millis uuid created).insertion s.autocommit ws written ∧
      out = (written.map fun _ => q.enrolled millis uuid created).mapError .store := by
  obtain ⟨saved, hsave, rfl⟩ := Fallible.runs_mapError_iff.1 h
  obtain ⟨ds, ws, u, written, rfl, hcomplete, hexecuted, rfl⟩ := Draft.runs_save_iff.1 hsave
  obtain ⟨created, rfl, rfl⟩ := Draft.of_runs_complete_of_id rfl rfl hcomplete
  rw [User.insertion_eq] at hexecuted
  exact ⟨created, ws, written, rfl, hexecuted, rfl⟩

theorem enlisting_of_runs_enroll {out : Except AppError Reply}
    (h : Action.Runs (enroll s q).run es out) : Enlisting s q es out := by
  unfold enroll at h
  rcases Fallible.runs_bind_iff.1 h with ⟨err, hid, -⟩ | ⟨fs, gs, uid, rfl, hid, hrest⟩
  · obtain ⟨_, _, hout⟩ := Fallible.runs_lift_iff.1 hid
    cases hout
  obtain ⟨_, hnew, hout⟩ := Fallible.runs_lift_iff.1 hid
  cases hout
  obtain ⟨millis, uuid, rfl, rfl⟩ := Stamp.runs_newId_iff.1 hnew
  refine Enlisting.after_reads ?_ (List.forall_mem_nil _)
  rcases Fallible.runs_bind_iff.1 hrest with
    ⟨err, hstored, rfl⟩ | ⟨hs, is, u, rfl, hstored, hsigned⟩
  · obtain ⟨created, ws, written, rfl, hexecuted, hout⟩ := saved_of_runs hstored
    cases written with
    | ok n => cases hout
    | error e =>
      cases hout
      exact .inserted [⟨.clock, created⟩] millis created 0 uuid (List.forall_mem_nil _)
        (Entity.sentBy_notes _ _) hexecuted
  · obtain ⟨created, ws, written, rfl, hexecuted, hout⟩ := saved_of_runs hstored
    cases written with
    | error e => cases hout
    | ok n =>
      cases hout
      obtain ⟨issued, rfl, rfl⟩ := runs_signedIn_iff.1 hsigned
      have hlast : sentBy (Entity.notes .insertMissed (.ok n) ++ [⟨.clock, issued⟩]) = [] := by
        rw [sentBy_append, Entity.sentBy_notes]
        rfl
      rw [List.cons_append, List.append_assoc]
      exact .inserted [⟨.clock, created⟩] millis created (issued / 1000) uuid
        (List.forall_mem_nil _) hlast hexecuted

theorem enlisting_of_runs {out : Except AppError Reply}
    (h : Action.Runs (register s c).run es out) : Enlisting s (registrationOf c) es out := by
  rw [register_eq] at h
  rcases Fallible.runs_bind_iff.1 h with ⟨err, hcheck, rfl⟩ | ⟨fs, gs, u, rfl, hcheck, hrest⟩
  · obtain ⟨rfl, -⟩ := Fallible.runs_ofExcept_iff.1 hcheck
    exact .refused (List.forall_mem_nil _)
  obtain ⟨rfl, -⟩ := Fallible.runs_ofExcept_iff.1 hcheck
  rw [List.nil_append]
  rcases Fallible.runs_bind_iff.1 hrest with
    ⟨err, hsearch, rfl⟩ | ⟨hs, is, others, rfl, hsearch, hend⟩
  · exact .refused (reads_usersOfEmail _ gs _ hsearch)
  have hreads := reads_usersOfEmail _ hs _ hsearch
  refine Enlisting.after_reads ?_ hreads
  cases others with
  | nil => exact enlisting_of_runs_enroll hend
  | cons u others =>
    obtain ⟨rfl, rfl⟩ := Fallible.runs_throw_iff.1 hend
    exact .refused (List.forall_mem_nil _)

/-! ## Requests to register -/

variable {users : Directory} {render : Renderer} {r : Http.Request}
  {captured : List (List Char)} {response : Http.Response}

/-- What is answered to a registration by the outcome of its insert. -/
theorem answered_of_conclude {visitor : Option SessionUser} {millis created now : Int}
    {uuid : List UInt8} {written : Except StoreError Nat} {gs : List Exchange}
    (h : Action.Runs (Entry.conclude visitor render
      (welcomed s.session (q.enrolled millis uuid created) now written)) gs response) :
    sentBy gs = [] ∧
      ((∃ n, written = .ok n) → Answered s.session (q.enrolled millis uuid created) response) ∧
      ((∃ u, Welcomes s.session u response) ↔
        (∃ n, written = .ok n) ∧ Http.IsHeaderText s.session.cookieName) := by
  cases written with
  | error e =>
    obtain ⟨rfl, rfl⟩ := Entry.runs_conclude_error_iff.1 h
    refine ⟨Reply.sentBy_loggedFor _, nofun, iff_of_false ?_ nofun⟩
    exact fun ⟨u, hu⟩ => not_welcomes_error _ u _ hu
  | ok n =>
    by_cases hname : Http.IsHeaderText s.session.cookieName
    · have hcookie := headerValue_eq_ok ((@isHeaderText_sessionCookie_iff q s.session millis created
        now uuid).2 hname)
      rw [welcomed, hcookie] at h
      obtain ⟨rfl, rfl⟩ := Action.runs_done_iff.1 h
      have hwelcomes : Welcomes s.session (q.enrolled millis uuid created)
          (signedInResponse (q.enrolled millis uuid created) _) := ⟨now, _, hcookie, rfl⟩
      exact ⟨rfl, fun _ => ⟨fun _ => hwelcomes, fun hnot => absurd hname hnot⟩,
        iff_of_true ⟨_, hwelcomes⟩ ⟨⟨n, rfl⟩, hname⟩⟩
    · have hcookie := headerValue_eq_refused fun h => hname
        ((@isHeaderText_sessionCookie_iff q s.session millis created now uuid).1 h)
      rw [welcomed, hcookie] at h
      obtain ⟨rfl, rfl⟩ := Entry.runs_conclude_error_iff.1 h
      refine ⟨Reply.sentBy_loggedFor _, fun _ => ⟨fun h => absurd h hname, fun _ => rfl⟩,
        iff_of_false ?_ fun h => hname h.2⟩
      exact fun ⟨u, hu⟩ => not_welcomes_error _ u _ hu

/-- What a request to register leaves behind, and how it is answered. -/
structure Accounted (s : Settings) (r : Http.Request) (es : List Exchange)
    (response : Http.Response) : Prop where
  /-- A user is welcomed exactly where one was stored and the cookie can be set. -/
  welcomes_iff : (∃ u, Welcomes s.session u response) ↔
    Database.Committed s.autocommit .insert User.schema.table es ∧
      Http.IsHeaderText s.session.cookieName
  /-- The user who was stored is the one that was asked for, and is welcomed if the cookie can be
  set. -/
  answered : Database.Committed s.autocommit .insert User.schema.table es →
    ∃ (millis created : Int) (uuid : List UInt8) (rs : ResultSet),
      ⟨.run ((asked r).enrolled millis uuid created).insertion, .ok rs⟩ ∈ es ∧
      Answered s.session ((asked r).enrolled millis uuid created) response

theorem Accounted.of_reads (hreads : ∀ st ∈ sentBy es, st.IsSelect)
    (hnot : ∀ u, ¬ Welcomes s.session u response) : Accounted s r es response where
  welcomes_iff := iff_of_false (fun ⟨u, hu⟩ => hnot u hu)
    fun h => Database.not_committed_of_reads hreads h.1
  answered h := absurd h (Database.not_committed_of_reads hreads)

/-- Of every run of a request to register, whatever the configuration and whatever the world answers:
the response welcomes a user exactly if one was stored and the name of the session cookie can stand
in a header. The user is then the one that was asked for. A response that welcomes nobody leaves
nobody behind, unless the name of the cookie can stand in no header: then the request fails after the
user is stored. -/
theorem signups_accounted (husers : users.Reads)
    (hmatches : (site s users render).Matches r (entryOf (registerRoute s)) captured)
    (h : Action.Runs ((site s users render).serve r) es response) : Accounted s r es response := by
  rcases uncalled_or_calls husers served_register.mem rfl hmatches h with
    ⟨hreads, hstatus⟩ | ⟨visitor, before, hs, c, rfl, hcalls, hcall⟩
  · exact .of_reads hreads fun u => not_welcomes_of_status hstatus
  obtain ⟨fs, gs, out, rfl, hregister, hconclude⟩ := Action.runs_bind_iff.1 hcall
  have hasked : registrationOf c = asked r := by
    have hcarried : ∀ name ∈ (entryOf (registerRoute s)).spec.named, name ≠ "id" →
        c.textOr name "" = (Site.carried? r name).getD "" := fun name hname hne =>
      textOr_eq_carried served_register.mem (hcalls.text name hname) hne
    have hnamed : (entryOf (registerRoute s)).spec.named = ["email", "name", "passwd"] := rfl
    rw [registrationOf, asked, hcarried "name" (by simp [hnamed]) (by decide),
      hcarried "email" (by simp [hnamed]) (by decide),
      hcarried "passwd" (by simp [hnamed]) (by decide)]
  have hcourse := (enlisting_of_runs hregister).after_reads hcalls.reads
  rw [hasked] at hcourse
  rw [← List.append_assoc]
  generalize before ++ fs = ts at hcourse ⊢
  cases hcourse with
  | @refused _ err hreads =>
    obtain ⟨rfl, rfl⟩ := Entry.runs_conclude_error_iff.1 hconclude
    refine .of_reads ?_ fun u => not_welcomes_error _ u err
    rwa [sentBy_append, Reply.sentBy_loggedFor, List.append_nil]
  | @inserted before ws after millis created now uuid written hbefore hafter hexecuted =>
    obtain ⟨hsilent, hanswered, hwelcomes⟩ := answered_of_conclude hconclude
    have hrest : sentBy (after ++ gs) = [] := by
      rw [sentBy_append, hafter, hsilent, List.append_nil]
    have hcommitted : Database.Committed s.autocommit .insert User.schema.table
        (before ++ (ws ++ after) ++ gs) ↔ ∃ n, written = .ok n := by
      rw [List.append_assoc, List.append_assoc]
      exact hexecuted.committed_iff (User.schema.changes_insertSql _) hbefore hrest
    refine ⟨hwelcomes.trans (and_congr_left' hcommitted.symm), fun hstored => ?_⟩
    obtain ⟨n, rfl⟩ := hcommitted.1 hstored
    obtain ⟨rs, -, rfl⟩ := hexecuted.eq_of_ok
    exact ⟨millis, created, uuid, rs, by simp, hanswered ⟨n, rfl⟩⟩

/-- Ann is stored, and welcomed. -/
theorem signups_accounted_ann :
    Database.Committed true .insert User.schema.table annSignup ∧
      Accounted (annSettings 86400) (annForm "/api/users") annSignup
        (signedInResponse ann (annCookie 86400)) := by
  have hmatches : (annSite 86400).Matches (annForm "/api/users")
      (entryOf (registerRoute (annSettings 86400))) [] := served_register.matches rfl rfl
  have haccounted := signups_accounted (fun _ => (Action.silent_done _).reads) hmatches
    (runs_annSignup 86400)
  exact ⟨(haccounted.welcomes_iff.1 ⟨ann, _, _, headerValue_annCookie 86400, rfl⟩).1, haccounted⟩

/-! ## A name that no header holds -/

/-- With autocommit, where the name of the cookie can stand in no header, a registration that carries
data in order is stored and then answered as a failure, if nobody else has the e-mail address and the
insert affects one row. -/
theorem runs_serve_stranded (hauto : s.autocommit = true)
    (hname : ¬ Http.IsHeaderText s.session.cookieName) {signup : Http.Request}
    (hmethod : signup.method = .post) (hpath : signup.uri.path = "/api/users")
    (hcarried : ∀ name ∈ ["email", "name", "passwd"], (Site.carried? signup name).isSome = true)
    (hcheck : (asked signup).check = .ok ()) {ds : List Exchange} {visitor : Option SessionUser}
    (hvisitor : Action.Runs ((site s users render).currentUser signup) ds visitor)
    {found inserted : ResultSet} (hfound : Entity.ofResult found = .ok ([] : List User))
    (hinserted : inserted.affected = 1) {millis created issued : Int} {uuid : List UInt8} {u : User}
    (hu : u = (asked signup).enrolled millis uuid created) :
    Action.Runs ((site s users render).serve signup)
      (ds ++ [⟨.connect, .ok ()⟩, ⟨.run (emailSearch (asked signup).email), .ok found⟩,
        ⟨.clock, millis⟩, ⟨.uuid, uuid⟩, ⟨.clock, created⟩, ⟨.connect, .ok ()⟩,
        ⟨.run u.insertion, .ok inserted⟩, ⟨.clock, issued⟩, ⟨.log .requestFailed, ()⟩])
      cookieRefused.response := by
  obtain ⟨r', args, hserve, hregistration⟩ := serve_register (s := s) users render hmethod hpath
    hcarried
  have hasked := hregistration visitor
  have hcookie : headerValue (sessionCookie s.session u (issued / 1000)) = .error cookieRefused :=
    headerValue_eq_refused fun h => hname (isHeaderText_sessionCookie_iff.1 (hu ▸ h))
  rw [hserve, ← hasked]
  rw [← hasked] at hcheck hu
  have hregister := @runs_register_inserted s _ hauto hcheck _ _ hfound hinserted millis created
    issued uuid u hu
  rw [hcookie] at hregister
  refine hvisitor.bind ?_
  rw [Entry.answer_eq]
  exact hregister.bind (Entry.runs_conclude_error_iff.2 ⟨rfl, rfl⟩)

/-- A configuration that gives the cookie of the session a name with a line feed. -/
def brokenName : AppConfig := { session := { cookieName := "a\nb" } }

def brokenSettings : Settings := ⟨brokenName.db.autocommit, brokenName.session⟩

/-- The configuration is accepted. Ann is stored under it, and not welcomed. -/
theorem stored_unwelcomed :
    brokenName.validate = .ok () ∧
      AppConfig.ofLookup (fun key => if key = "BLOG_SESSION_COOKIE" then some "a\nb" else none) =
        .ok brokenName ∧
      ∃ es response, Action.Runs ((site brokenSettings (Directory.ofList []) fun _ _ => pure "").serve
          (annForm "/api/users")) es response ∧
        Database.Committed brokenSettings.autocommit .insert User.schema.table es ∧
        ¬ ∃ u, Welcomes brokenSettings.session u response := by
  have hann : ann = (asked (annForm "/api/users")).enrolled annMillis (List.replicate 16 7)
      annMillis := by
    rw [asked_annForm, ann]
  have hrun := @runs_serve_stranded brokenSettings (Directory.ofList []) (fun _ _ => pure "") rfl
    (by decide) (annForm "/api/users") rfl rfl (isSome_carried?_annForm _) (check_annForm _) [] none
    .done ⟨[], [], 0⟩ ⟨[], [], 1⟩ rfl rfl annMillis annMillis annMillis (List.replicate 16 7) ann hann
  refine ⟨AppConfig.validate_cookieName {} _, rfl, _, cookieRefused.response, hrun, ?_, ?_⟩
  · exact ⟨⟨ann.insertion, ⟨[], [], 1⟩, by simp, User.schema.changes_insertSql _⟩, nofun⟩
  · exact fun ⟨u, hu⟩ => not_welcomes_error _ u cookieRefused hu

end Blog
end Weblog
