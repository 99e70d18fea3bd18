import Weblog.Proofs.Blog.Stamp
import Weblog.Proofs.Blog.Users

/-!
# Weblog.Proofs.Blog.Accounts

What registering and signing in ask of the world, and how they end.

* `runs_signedIn_iff`: signing in reads the clock once, for the cookie.
* `Registered`, `registered_of_runs_register`: a registration that succeeds drew an id, inserted the
  user and signed it in.
* `sentBy_of_register_refused`: a registration that is refused inserted nobody.
* `runs_authenticate`: a user who is found and whose password fits is signed in.
-/

namespace Weblog
namespace Blog

variable {s : Settings} {c : Call} {es : List Exchange}

/-- The response to a user who signed in, with the header that sets the cookie. -/
def signedInResponse (u : User) (cookie : List UInt8) : Http.Response :=
  (Http.Response.json 200 (entityJson u.masked)).withHeader "set-cookie" cookie

theorem runs_signedIn_iff {s : SessionConfig} {u : User} {out : Except AppError Reply} :
    Action.Runs (signedIn s u).run es out ↔ ∃ issued : Int, es = [⟨.clock, issued⟩] ∧
      out = (headerValue (sessionCookie s u (issued / 1000))).map fun cookie =>
        .response (signedInResponse u cookie) := by
  have hsigned : signedIn s u = Fallible.lift Action.seconds >>= fun now =>
      Fallible.ofExcept ((headerValue (sessionCookie s u now)).map fun cookie =>
        .response (signedInResponse u cookie)) := by
    rw [signedIn]
    refine congrArg (Fallible.lift Action.seconds >>= ·) ?_
    funext now
    cases headerValue (sessionCookie s u now) <;> rfl
  rw [hsigned]
  constructor
  · intro h
    rcases Fallible.runs_bind_iff.1 h with ⟨e, hclock, rfl⟩ | ⟨fs, gs, now, rfl, hclock, hcookie⟩
    · obtain ⟨now, -, he⟩ := Fallible.runs_lift_iff.1 hclock
      cases he
    · obtain ⟨n, hclock, hn⟩ := Fallible.runs_lift_iff.1 hclock
      cases hn
      obtain ⟨issued, rfl, rfl⟩ := Action.runs_seconds_iff.1 hclock
      obtain ⟨rfl, rfl⟩ := Fallible.runs_ofExcept_iff.1 hcookie
      exact ⟨issued, rfl, rfl⟩
  · rintro ⟨issued, rfl, rfl⟩
    have hclock := Action.runs_seconds_iff.2 ⟨issued, rfl, rfl⟩
    exact Fallible.runs_bind_iff.2 (.inr ⟨_, [], _, rfl, Fallible.runs_lift_iff.2 ⟨_, hclock, rfl⟩,
      Fallible.runs_ofExcept_iff.2 ⟨rfl, rfl⟩⟩)

theorem runs_signedIn {s : SessionConfig} {u : User} {issued : Int} {cookie : List UInt8}
    (h : headerValue (sessionCookie s u (issued / 1000)) = .ok cookie) :
    Action.Runs (signedIn s u).run [⟨.clock, issued⟩] (.ok (.response (signedInResponse u cookie))) :=
  runs_signedIn_iff.2 ⟨issued, rfl, by rw [h]; rfl⟩

def registrationOf (c : Call) : Registration :=
  ⟨c.textOr "name" "", c.textOr "email" "", c.textOr "passwd" ""⟩

/-- Saves the user of a registration under a new id and signs it in. -/
def enroll (s : Settings) (r : Registration) : Fallible AppError Reply := do
  let uid ← Fallible.lift Stamp.newId
  let user ← stored (Entity.save s.autocommit (r.user uid))
  signedIn s.session user

theorem register_eq : register s c =
    Fallible.ofExcept ((registrationOf c).check.mapError .api) >>= fun _ =>
      usersOfEmail (registrationOf c).email >>= fun others =>
        if others.isEmpty then enroll s (registrationOf c)
        else refuse ⟨"register:failed", "email", "Email is already in use."⟩ := rfl

theorem Registration.isEmail_of_check {r : Registration} (h : r.check = .ok ()) :
    isEmail r.email = true ∧ isDigest r.passwd = true := by
  unfold Registration.check at h
  split at h
  · cases h
  · split at h
    · cases h
    · rename_i hemail
      split at h
      · cases h
      · rename_i hdigest
        exact ⟨by simpa using hemail, by simpa using hdigest⟩

theorem Registration.email_ne_empty (r : Registration) (h : r.check = .ok ()) : r.email ≠ "" := by
  intro hempty
  have hemail := (Registration.isEmail_of_check h).1
  rw [hempty] at hemail
  exact absurd hemail (by decide)

theorem Registration.passwd_ne_empty (r : Registration) (h : r.check = .ok ()) : r.passwd ≠ "" := by
  intro hempty
  have hdigest := (Registration.isEmail_of_check h).2
  rw [hempty] at hdigest
  exact absurd hdigest (by decide)

/-- The user that a registration leaves behind. -/
def Registration.enrolled (r : Registration) (millis : Int) (uuid : List UInt8) (created : Int) :
    User :=
  (r.user (Stamp.idText millis uuid)).stamped created

/-- How a registration ends that leaves a user behind: its id was drawn, no other user was inserted,
and the last time that was read is the one of the cookie in the reply. -/
structure Registered (s : Settings) (r : Registration) (es : List Exchange) (reply : Reply)
    (u : User) : Prop where
  drawn : ∃ (millis : Int) (uuid : List UInt8) (created : Int),
    ⟨.clock, millis⟩ ∈ es ∧ u = r.enrolled millis uuid created
  inserted : ∀ st ∈ sentBy es, st.sql = Sql.native User.schema.insertSql → st = u.insertion
  answered : ∃ (before : List Exchange) (issued : Int) (cookie : List UInt8),
    es = before ++ [⟨.clock, issued⟩] ∧
    headerValue (sessionCookie s.session u (issued / 1000)) = .ok cookie ∧
    reply = .response (signedInResponse u cookie)

theorem registered_of_runs_enroll {r : Registration} {reply : Reply}
    (h : Action.Runs (enroll s r).run es (.ok reply)) : ∃ u, Registered s r es reply u := by
  unfold enroll at h
  obtain ⟨fs, gs, uid, rfl, hid, hrest⟩ := Fallible.runs_bind_ok_iff.1 h
  obtain ⟨uid', hid, hu⟩ := Fallible.runs_lift_iff.1 hid
  cases hu
  obtain ⟨millis, uuid, rfl, rfl⟩ := Stamp.runs_newId_iff.1 hid
  obtain ⟨hs, is, user, rfl, hstored, hsigned⟩ := Fallible.runs_bind_ok_iff.1 hrest
  obtain ⟨saved, hsave, hout⟩ := Fallible.runs_mapError_iff.1 hstored
  cases saved with
  | error e => cases hout
  | ok v =>
    cases hout
    obtain ⟨created, gs, rfl, rfl, hsent⟩ := User.runs_save_ok rfl rfl hsave
    obtain ⟨issued, rfl, hreply⟩ := runs_signedIn_iff.1 hsigned
    refine ⟨_, ⟨millis, uuid, created, List.mem_cons_self, rfl⟩, ?inserted, ?answered⟩
    case inserted =>
      intro st hst hsql
      have hwritten : st ∈ sentBy gs := by
        simpa [sentBy, Exchange.sent?] using hst
      exact eq_insertion_of_mem (hsent ▸ hwritten) hsql
    case answered =>
      cases hcookie : headerValue (sessionCookie s.session
          ((r.user (Stamp.idText millis uuid)).stamped created) (issued / 1000)) with
      | error e =>
        rw [hcookie] at hreply
        cases hreply
      | ok cookie =>
        rw [hcookie] at hreply
        exact ⟨⟨.clock, millis⟩ :: ⟨.uuid, uuid⟩ :: ⟨.clock, created⟩ :: gs, issued, cookie, rfl,
          hcookie, Except.ok.inj hreply⟩

/-- A registration that goes on after its search is the same one with the search before it. -/
theorem Registered.after_search {r : Registration} {reply : Reply} {u : User}
    (h : Registered s r es reply u) (rs : ResultSet) (email : String) :
    Registered s r (⟨.connect, .ok ()⟩ :: ⟨.run (emailSearch email), .ok rs⟩ :: es) reply u where
  drawn := by
    obtain ⟨millis, uuid, created, hclock, hu⟩ := h.drawn
    exact ⟨millis, uuid, created, List.mem_cons_of_mem _ (List.mem_cons_of_mem _ hclock), hu⟩
  inserted := by
    intro st hst hsql
    rcases List.mem_cons.1 (show st ∈ emailSearch email :: sentBy es from hst) with rfl | hst
    · exact absurd hsql (emailSearch_sql_ne email)
    · exact h.inserted st hst hsql
  answered := by
    obtain ⟨before, issued, cookie, rfl, hcookie, hreply⟩ := h.answered
    exact ⟨_ :: _ :: before, issued, cookie, rfl, hcookie, hreply⟩

/-- No error of the domain comes out of a registration whose data is in order. -/
theorem not_runs_enroll_api {r : Registration} {e : ApiError} :
    ¬ Action.Runs (enroll s r).run es (.error (.api e)) := by
  intro h
  unfold enroll at h
  rcases Fallible.runs_bind_iff.1 h with ⟨err, hid, he⟩ | ⟨fs, gs, uid, rfl, -, hrest⟩
  · obtain ⟨uid, -, hout⟩ := Fallible.runs_lift_iff.1 hid
    cases hout
  rcases Fallible.runs_bind_iff.1 hrest with ⟨err, hstored, he⟩ | ⟨hs, is, u, rfl, -, hsigned⟩
  · obtain ⟨saved, -, hout⟩ := Fallible.runs_mapError_iff.1 hstored
    cases he
    cases saved <;> cases hout
  · obtain ⟨issued, -, hout⟩ := runs_signedIn_iff.1 hsigned
    unfold headerValue at hout
    split at hout <;> cases hout

/-- A registration that ends in an error of the domain asked for nothing, or for the users with the
e-mail address alone. -/
theorem sentBy_of_register_refused {e : ApiError}
    (h : Action.Runs (register s c).run es (.error (.api e))) :
    ∀ st ∈ sentBy es, st = emailSearch (registrationOf c).email := by
  rw [register_eq] at h
  rcases Fallible.runs_bind_iff.1 h with ⟨err, hcheck, -⟩ | ⟨fs, gs, u, rfl, hcheck, hrest⟩
  · obtain ⟨rfl, -⟩ := Fallible.runs_ofExcept_iff.1 hcheck
    simp
  obtain ⟨rfl, -⟩ := Fallible.runs_ofExcept_iff.1 hcheck
  have hsent : ∀ {fs : List Exchange} {out : Except AppError (List User)},
      Action.Runs (usersOfEmail (registrationOf c).email).run fs out →
      ∀ st ∈ sentBy fs, st = emailSearch (registrationOf c).email := by
    intro fs out hsearch
    rcases runs_usersOfEmail_iff.1 hsearch with ⟨d, rfl, -⟩ | ⟨d, rfl, -⟩ | ⟨rs, rfl, -⟩
    · simp [sentBy, Exchange.sent?]
    · simp [sentBy, Exchange.sent?]
    · simp [sentBy, Exchange.sent?]
  rcases Fallible.runs_bind_iff.1 hrest with ⟨err, hsearch, -⟩ | ⟨hs, is, others, rfl, hsearch, hend⟩
  · exact hsent hsearch
  · cases hothers : others.isEmpty with
    | true =>
      simp only [hothers, if_true] at hend
      exact absurd hend not_runs_enroll_api
    | false =>
      simp only [hothers, Bool.false_eq_true, if_false] at hend
      obtain ⟨rfl, -⟩ := Fallible.runs_throw_iff.1 hend
      rw [List.nil_append, List.append_nil]
      exact hsent hsearch

/-- A registration that succeeds checked its data and leaves a user behind. -/
theorem registered_of_runs_register {reply : Reply}
    (h : Action.Runs (register s c).run es (.ok reply)) :
    (registrationOf c).check = .ok () ∧ ∃ u, Registered s (registrationOf c) es reply u := by
  rw [register_eq] at h
  obtain ⟨fs, gs, u, rfl, hcheck, hrest⟩ := Fallible.runs_bind_ok_iff.1 h
  obtain ⟨rfl, hchecked⟩ := Fallible.runs_ofExcept_iff.1 hcheck
  obtain ⟨hs, is, others, rfl, hsearch, hend⟩ := Fallible.runs_bind_ok_iff.1 hrest
  refine ⟨?_, ?_⟩
  · cases hc : (registrationOf c).check with
    | ok u => rfl
    | error e =>
      rw [hc] at hchecked
      cases hchecked
  · cases hothers : others.isEmpty with
    | true =>
      simp only [hothers, if_true] at hend
      obtain ⟨u, hu⟩ := registered_of_runs_enroll hend
      rcases runs_usersOfEmail_iff.1 hsearch with ⟨d, -, ho⟩ | ⟨d, -, ho⟩ | ⟨rs, rfl, -⟩
      · cases ho
      · cases ho
      · exact ⟨u, hu.after_search rs _⟩
    | false =>
      simp only [hothers, Bool.false_eq_true, if_false] at hend
      obtain ⟨-, ho⟩ := Fallible.runs_throw_iff.1 hend
      cases ho

/-- The database serves, and a search for the e-mail address of a user returns the user first. -/
structure Returns (u : User) (es : List Exchange) : Prop where
  connects : ∀ answer : Except DbError Unit, ⟨.connect, answer⟩ ∈ es → answer = .ok ()
  finds : ∀ answer : Except DbError ResultSet, ⟨.run (emailSearch u.email), answer⟩ ∈ es →
    ∃ rs others, answer = .ok rs ∧ Entity.ofResult rs = .ok (u :: others)

theorem Returns.mono {u : User} {fs : List Exchange} (h : Returns u es) (hsub : fs ⊆ es) :
    Returns u fs where
  connects := fun answer hmem => h.connects answer (hsub hmem)
  finds := fun answer hmem => h.finds answer (hsub hmem)

theorem Returns.found {u : User} (hdb : Returns u es) {out : Except AppError (List User)}
    (h : Action.Runs (usersOfEmail u.email).run es out) : ∃ others, out = .ok (u :: others) := by
  rcases runs_usersOfEmail_iff.1 h with ⟨d, rfl, rfl⟩ | ⟨d, rfl, rfl⟩ | ⟨rs, rfl, rfl⟩
  · have hconnected := hdb.connects (.error d) List.mem_cons_self
    cases hconnected
  · obtain ⟨rs, others, hanswer, -⟩ := hdb.finds _ (List.mem_cons_of_mem _ List.mem_cons_self)
    cases hanswer
  · obtain ⟨rs', others, hanswer, hrows⟩ := hdb.finds _ (List.mem_cons_of_mem _ List.mem_cons_self)
    cases hanswer
    exact ⟨others, by rw [hrows]; rfl⟩

theorem authenticate_eq {u : User} (hemail : c.textOr "email" "" = u.email) (hnamed : u.email ≠ "")
    (hdigest : c.textOr "passwd" "" ≠ "") :
    authenticate s c = usersOfEmail u.email >>= fun users =>
      match users with
      | [] => refuse (.value "email" "Email not exist.")
      | user :: _ =>
        if user.passwd = passwordHash (user.id.getD "") (c.textOr "passwd" "") then
          signedIn s.session user
        else refuse (.value "passwd" "Invalid password.") := by
  have hnamed' : ¬ (c.textOr "email" "").isEmpty = true := by simpa [hemail] using hnamed
  have hdigest' : ¬ (c.textOr "passwd" "").isEmpty = true := by simpa using hdigest
  refine (if_neg hnamed').trans ((if_neg hdigest').trans ?_)
  exact congrArg (usersOfEmail · >>= _) hemail

/-- A user who is found and whose password fits is signed in. -/
theorem runs_authenticate {u : User} (hdb : Returns u es) (hemail : c.textOr "email" "" = u.email)
    (hnamed : u.email ≠ "") (hdigest : c.textOr "passwd" "" ≠ "")
    (hpasswd : u.passwd = passwordHash (u.id.getD "") (c.textOr "passwd" ""))
    {out : Except AppError Reply} (h : Action.Runs (authenticate s c).run es out) :
    ∃ (fs : List Exchange) (issued : Int), es = fs ++ [⟨.clock, issued⟩] ∧
      out = (headerValue (sessionCookie s.session u (issued / 1000))).map fun cookie =>
        .response (signedInResponse u cookie) := by
  rw [authenticate_eq hemail hnamed hdigest] at h
  rcases Fallible.runs_bind_iff.1 h with ⟨err, hsearch, -⟩ | ⟨fs, gs, users, rfl, hsearch, hend⟩
  · obtain ⟨others, hout⟩ := hdb.found hsearch
    cases hout
  · obtain ⟨others, hout⟩ := (hdb.mono (List.subset_append_left fs gs)).found hsearch
    cases hout
    simp only [← hpasswd, if_true] at hend
    obtain ⟨issued, rfl, rfl⟩ := runs_signedIn_iff.1 hend
    exact ⟨fs, issued, rfl, rfl⟩

/-- With autocommit, a registration of data that is in order inserts its user if nobody else has the
e-mail address and the insert affects one row; the cookie decides on how it ends. -/
theorem runs_register_inserted (hauto : s.autocommit = true)
    (hcheck : (registrationOf c).check = .ok ()) {found inserted : ResultSet}
    (hfound : Entity.ofResult found = .ok ([] : List User)) (hinserted : inserted.affected = 1)
    {millis created issued : Int} {uuid : List UInt8} {u : User}
    (hu : u = (registrationOf c).enrolled millis uuid created) :
    Action.Runs (register s c).run
      [⟨.connect, .ok ()⟩, ⟨.run (emailSearch (registrationOf c).email), .ok found⟩,
        ⟨.clock, millis⟩, ⟨.uuid, uuid⟩, ⟨.clock, created⟩, ⟨.connect, .ok ()⟩,
        ⟨.run u.insertion, .ok inserted⟩, ⟨.clock, issued⟩]
      ((headerValue (sessionCookie s.session u (issued / 1000))).map fun cookie =>
        .response (signedInResponse u cookie)) := by
  subst hu
  have hid := Stamp.runs_newId_iff.2 ⟨millis, uuid, rfl, rfl⟩
  have hsave := User.runs_save (u := (registrationOf c).user (Stamp.idText millis uuid)) rfl rfl
    created hinserted
  rw [register_eq, hcheck]
  refine Fallible.runs_bind_iff.2 (.inr ⟨[], _, (), rfl, .done, ?_⟩)
  refine Fallible.runs_bind_iff.2 (.inr ⟨[_, _], _, [], rfl, runs_usersOfEmail hfound, ?_⟩)
  refine Fallible.runs_bind_iff.2
    (.inr ⟨[_, _], _, _, rfl, Fallible.runs_lift_iff.2 ⟨_, hid, rfl⟩, ?_⟩)
  refine Fallible.runs_bind_iff.2 (.inr
    ⟨[_, _, _], _, _, ?_, Fallible.runs_mapError_iff.2 ⟨_, hauto ▸ hsave, rfl⟩,
      runs_signedIn_iff.2 ⟨issued, rfl, rfl⟩⟩)
  rfl

/-- With autocommit, a registration of data that is in order succeeds if nobody else has the e-mail
address and the insert affects one row. -/
theorem runs_register (hauto : s.autocommit = true) (hcheck : (registrationOf c).check = .ok ())
    {found inserted : ResultSet} (hfound : Entity.ofResult found = .ok ([] : List User))
    (hinserted : inserted.affected = 1) {millis created issued : Int} {uuid : List UInt8} {u : User}
    (hu : u = (registrationOf c).enrolled millis uuid created) {cookie : List UInt8}
    (hcookie : headerValue (sessionCookie s.session u (issued / 1000)) = .ok cookie) :
    Action.Runs (register s c).run
      [⟨.connect, .ok ()⟩, ⟨.run (emailSearch (registrationOf c).email), .ok found⟩,
        ⟨.clock, millis⟩, ⟨.uuid, uuid⟩, ⟨.clock, created⟩, ⟨.connect, .ok ()⟩,
        ⟨.run u.insertion, .ok inserted⟩, ⟨.clock, issued⟩]
      (.ok (.response (signedInResponse u cookie))) := by
  have hends := @runs_register_inserted s c hauto hcheck _ _ hfound hinserted millis created issued
    uuid u hu
  rwa [hcookie] at hends

/-- A user who is found is signed in, if the password fits. -/
theorem runs_authenticate_of_found {u : User} (hemail : c.textOr "email" "" = u.email)
    (hnamed : u.email ≠ "") (hdigest : c.textOr "passwd" "" ≠ "")
    (hpasswd : u.passwd = passwordHash (u.id.getD "") (c.textOr "passwd" "")) {found : ResultSet}
    {others : List User} (hfound : Entity.ofResult found = .ok (u :: others)) {issued : Int}
    {cookie : List UInt8}
    (hcookie : headerValue (sessionCookie s.session u (issued / 1000)) = .ok cookie) :
    Action.Runs (authenticate s c).run
      [⟨.connect, .ok ()⟩, ⟨.run (emailSearch u.email), .ok found⟩, ⟨.clock, issued⟩]
      (.ok (.response (signedInResponse u cookie))) := by
  rw [authenticate_eq hemail hnamed hdigest]
  refine Fallible.runs_bind_ok_iff.2 ⟨[_, _], _, u :: others, rfl, runs_usersOfEmail hfound, ?_⟩
  simp only [← hpasswd, if_true]
  exact runs_signedIn hcookie

end Blog
end Weblog
