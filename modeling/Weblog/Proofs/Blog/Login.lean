import Weblog.Proofs.Blog.SignIn
import Weblog.Proofs.Blog.Site
import Weblog.Proofs.Blog.Stamp
import Weblog.Proofs.Route.Answer

/-!
# Weblog.Proofs.Blog.Login

Registering and signing in as requests to the site.

* `serve_eq_answer`: a POST whose body has what its route requires is answered by the handler.
* `registered_of_runs_serve`: a registration with status 200 that inserted a user.
* `signedIn_of_runs_serve`: a login with the e-mail address and the digest of a stored user.
* `runs_serve_register`, `runs_serve_authenticate`: requests that are in order are answered so.
* `login_round_trip`: whoever registered can sign in, and both responses set a cookie that leads to
  the user until it expires.
* `login_round_trip_limits`: what the expiry and the header of a client must keep to for that.
-/

namespace Weblog
namespace Blog

variable {s : Settings} {users : Directory} {render : Renderer}

variable {route : Route} {path : String} {r : Http.Request} {fs : Fields}

/-- A request whose body is decoded has these fields in it. -/
def Brings (r : Http.Request) (fs : Fields) : Prop :=
  (Site.dispatched? r).map Arguments.bodyFields = some (.ok fs)

theorem Brings.carried?_eq (h : Brings r fs) (name : String) :
    Site.carried? r name = (Fields.get? name fs).bind Json.argumentText := by
  rw [Site.carried?, h]

theorem exists_brings {name text : String} (h : Site.carried? r name = some text) :
    ∃ fs, Brings r fs := by
  unfold Site.carried? at h
  split at h
  · rename_i fs hbody
    exact ⟨fs, hbody⟩
  · cases h

/-- An argument that a handler declares by name is the text that the request carries. -/
theorem Brings.textOr_eq (h : Brings r fs) {e : Entry} {user : Option SessionUser}
    {r' : Http.Request} {sig : Signature} {name : String} (hname : name ∈ sig.named) :
    (e.call user r' (sig.admitted fs)).textOr name "" = (Site.carried? r name).getD "" := by
  rw [Call.textOr, Call.text, Call.arg, Entry.call, Signature.get?_admitted hname, h.carried?_eq]

/-- Behind a response with status 200 to a POST there is a body that was decoded, and after the
visitor was found the handler was called with what it may see of it. -/
theorem runs_serve_ok (hroute : Served s route path) (hreads : route.signature.readsInput = true)
    (hmethod : r.method = .post) (hpath : r.uri.path = path) {ds hs : List Exchange}
    {visitor : Option SessionUser} {response : Http.Response}
    (hvisitor : Action.Runs ((site s users render).currentUser r) ds visitor)
    (h : Action.Runs ((site s users render).serve r) (ds ++ hs) response)
    (hok : response.status = 200) :
    ∃ r' fs, Brings r fs ∧
      Action.Runs ((entryOf route).answer visitor render r' (route.signature.admitted fs)) hs
        response := by
  rw [hroute.serve_eq hmethod hpath] at h
  cases hdispatched : Site.dispatched? r with
  | none =>
    rw [hdispatched] at h
    obtain ⟨-, rfl⟩ := Action.runs_done_iff.1 h
    cases hok
  | some r' =>
    simp only [hdispatched] at h
    obtain ⟨fs, gs, user, hes, hfound, hdispatch⟩ := Action.runs_bind_iff.1 h
    obtain ⟨rfl, rfl⟩ := hvisitor.append_inj hfound hes
    obtain rfl := hvisitor.value_unique hfound
    obtain ⟨input, hdecoded, hanswer⟩ := Entry.runs_dispatch_ok hroute.inspect_eq hdispatch hok
    have hbody : Arguments.bodyFields r' = .ok input := by
      rw [← hdecoded, Signature.decoded_post
        ((Site.method_of_dispatched? hdispatched).trans hmethod) hreads]
    refine ⟨r', input, ?_, hanswer⟩
    rw [Brings, hdispatched, Option.map_some, hbody]

/-- A POST that carries what its route requires is answered by the handler, after the visitor was
found, with the texts that it carries for arguments. -/
theorem serve_eq_answer (users : Directory) (render : Renderer) (hroute : Served s route path)
    (hreads : route.signature.readsInput = true) (hmethod : r.method = .post)
    (hpath : r.uri.path = path) (hbrings : Brings r fs)
    (hpresent : ∀ name ∈ route.signature.required,
      name ∈ route.signature.named ∧ (Site.carried? r name).isSome = true) :
    ∃ (r' : Http.Request) (args : Fields),
      (site s users render).serve r = ((site s users render).currentUser r >>= fun user =>
        (entryOf route).answer user render r' args) ∧
      ∀ user, ∀ name ∈ route.signature.named,
        ((entryOf route).call user r' args).textOr name "" = (Site.carried? r name).getD "" := by
  obtain ⟨r', hdispatched, hfields⟩ := Option.map_eq_some_iff.1 hbrings
  have hdecoded : route.signature.decoded r' = .ok fs := by
    rw [Signature.decoded_post ((Site.method_of_dispatched? hdispatched).trans hmethod) hreads,
      hfields]
  have hmissing : route.signature.missing? (route.signature.admitted fs) = none := by
    refine Signature.missing?_eq_none ?_
    intro name hname
    obtain ⟨hnamed, hcarried⟩ := hpresent name hname
    rw [hbrings.carried?_eq] at hcarried
    rw [Signature.get?_admitted hnamed]
    cases hget : Fields.get? name fs with
    | none =>
      rw [hget] at hcarried
      cases hcarried
    | some v => rfl
  refine ⟨r', route.signature.admitted fs, ?_, fun user name hname => hbrings.textOr_eq hname⟩
  rw [hroute.serve_eq hmethod hpath, hdispatched]
  refine congrArg ((site s users render).currentUser r >>= ·) ?_
  funext user
  exact Entry.dispatch_eq_answer hroute.inspect_eq hdecoded hmissing

def asked (r : Http.Request) : Registration :=
  ⟨(Site.carried? r "name").getD "", (Site.carried? r "email").getD "",
    (Site.carried? r "passwd").getD ""⟩

/-- A registration with status 200 that inserted a user had its data in order, bound that user to the
insert, and answered with the cookie of the user. -/
theorem registered_of_runs_serve {signup : Http.Request} (hmethod : signup.method = .post)
    (hpath : signup.uri.path = "/api/users") {ds hs : List Exchange}
    {visitor : Option SessionUser} {response : Http.Response}
    (hvisitor : Action.Runs ((site s users render).currentUser signup) ds visitor)
    (h : Action.Runs ((site s users render).serve signup) (ds ++ hs) response)
    (hok : response.status = 200) {bound : List Bound}
    (hinsert : ⟨Sql.native User.schema.insertSql, bound⟩ ∈ sentBy hs) :
    (asked signup).check = .ok () ∧ ∃ u,
      Registered s (asked signup) hs (.response response) u ∧ bound = u.row.map Bound.ofJson := by
  obtain ⟨r', fs, hbrings, hanswer⟩ := runs_serve_ok served_register rfl hmethod hpath hvisitor h hok
  have hasked : registrationOf ((entryOf (registerRoute s)).call visitor r'
      ((registerRoute s).signature.admitted fs)) = asked signup := by
    have hnamed : (registerRoute s).signature.named = ["email", "name", "passwd"] := rfl
    rw [registrationOf, hbrings.textOr_eq (hnamed ▸ by decide),
      hbrings.textOr_eq (hnamed ▸ by decide), hbrings.textOr_eq (hnamed ▸ by decide)]
    rfl
  obtain ⟨fs', gs', rfl, hhandler⟩ := Entry.runs_answer_ok hanswer hok
  rcases hhandler with ⟨err, rfl, hrefused⟩ | ⟨reply, hregister, hrespond⟩
  · rw [List.append_nil] at hinsert
    have hsearch := sentBy_of_register_refused hrefused _ hinsert
    exact absurd (congrArg Statement.sql hsearch).symm (emailSearch_sql_ne _)
  · obtain ⟨hcheck, u, hu⟩ := registered_of_runs_register hregister
    rw [hasked] at hcheck hu
    obtain ⟨before, issued, cookie, rfl, hcookie, rfl⟩ := hu.answered
    obtain ⟨rfl, hresponse⟩ := Fallible.runs_pure_iff.1 hrespond
    cases hresponse
    rw [List.append_nil] at hinsert ⊢
    exact ⟨hcheck, u, hu, congrArg Statement.args (hu.inserted _ hinsert rfl)⟩

/-- A login that carries an e-mail address and a digest is answered by the handler, whose arguments
they are. -/
theorem serve_authenticate (users : Directory) (render : Renderer) {login : Http.Request}
    (hmethod : login.method = .post) (hpath : login.uri.path = "/api/authenticate")
    {email digest : String}
    (hemail : Site.carried? login "email" = some email)
    (hdigest : Site.carried? login "passwd" = some digest) :
    ∃ (r' : Http.Request) (args : Fields),
      (site s users render).serve login = ((site s users render).currentUser login >>= fun user =>
        (entryOf (authenticateRoute s)).answer user render r' args) ∧
      ∀ user, ((entryOf (authenticateRoute s)).call user r' args).textOr "email" "" = email ∧
        ((entryOf (authenticateRoute s)).call user r' args).textOr "passwd" "" = digest := by
  have hrequired : (authenticateRoute s).signature.required = ["email", "passwd"] := rfl
  have hnamed : (authenticateRoute s).signature.named = ["email", "passwd"] := rfl
  obtain ⟨fs, hbrings⟩ := exists_brings hemail
  have hpresent : ∀ name ∈ (authenticateRoute s).signature.required,
      name ∈ (authenticateRoute s).signature.named ∧ (Site.carried? login name).isSome = true := by
    intro name hname
    rw [hrequired] at hname
    refine ⟨hnamed ▸ hname, ?_⟩
    rcases List.mem_cons.1 hname with rfl | hname
    · rw [hemail]
      rfl
    · rw [List.mem_singleton.1 hname, hdigest]
      rfl
  obtain ⟨r', args, hserve, htexts⟩ := serve_eq_answer users render served_authenticate rfl hmethod
    hpath hbrings hpresent
  refine ⟨r', args, hserve, ?_⟩
  intro user
  rw [htexts user "email" (hnamed ▸ by decide), htexts user "passwd" (hnamed ▸ by decide), hemail,
    hdigest]
  exact ⟨rfl, rfl⟩

/-- A login that carries the e-mail address of a user and the digest that the stored hash was made
of is answered with a cookie of the user, if the database returns the user. -/
theorem signedIn_of_runs_serve {login : Http.Request} (hmethod : login.method = .post)
    (hpath : login.uri.path = "/api/authenticate") {u : User} {digest : String}
    (hemail : Site.carried? login "email" = some u.email) (hnamed : u.email ≠ "")
    (hdigest : Site.carried? login "passwd" = some digest) (hgiven : digest ≠ "")
    (hpasswd : u.passwd = passwordHash (u.id.getD "") digest) {es : List Exchange}
    {answer : Http.Response} (h : Action.Runs ((site s users render).serve login) es answer)
    (hdb : Returns u es)
    (hheader : ∀ now, Http.IsHeaderText (sessionCookie s.session u now)) :
    ∃ (before : List Exchange) (issued : Int) (cookie : List UInt8),
      es = before ++ [⟨.clock, issued⟩] ∧
      headerValue (sessionCookie s.session u (issued / 1000)) = .ok cookie ∧
      answer = signedInResponse u cookie := by
  obtain ⟨r', args, hserve, hargs⟩ := serve_authenticate (s := s) users render hmethod hpath
    hemail hdigest
  rw [hserve] at h
  obtain ⟨ds, hs, visitor, rfl, -, hanswer⟩ := Action.runs_bind_iff.1 h
  obtain ⟨fs, gs, outcome, rfl, hhandler, hfinished⟩ := Entry.runs_answer hanswer
  have hdb' : Returns u fs := by
    refine hdb.mono ?_
    intro x hx
    exact List.mem_append_right ds (List.mem_append_left gs hx)
  obtain ⟨hemail', hdigest'⟩ := hargs visitor
  obtain ⟨before, issued, rfl, hout⟩ := runs_authenticate hdb' hemail' hnamed
    (hdigest'.symm ▸ hgiven) (hdigest'.symm ▸ hpasswd) hhandler
  have hcookie : headerValue (sessionCookie s.session u (issued / 1000)) = .ok _ :=
    headerValue_ok_iff.2 (Http.headerValue?_eq_some (hheader (issued / 1000)))
  rw [hcookie] at hout
  obtain ⟨rfl, rfl⟩ := hfinished _ hout
  refine ⟨ds ++ before, issued, _, ?_, hcookie, rfl⟩
  rw [List.append_nil, List.append_assoc]

/-- A registration that carries every name is answered by the handler, which sees what it asks for. -/
theorem serve_register (users : Directory) (render : Renderer) {signup : Http.Request}
    (hmethod : signup.method = .post) (hpath : signup.uri.path = "/api/users")
    (hcarried : ∀ name ∈ ["email", "name", "passwd"], (Site.carried? signup name).isSome = true) :
    ∃ (r' : Http.Request) (args : Fields),
      (site s users render).serve signup = ((site s users render).currentUser signup >>= fun user =>
        (entryOf (registerRoute s)).answer user render r' args) ∧
      ∀ user, registrationOf ((entryOf (registerRoute s)).call user r' args) = asked signup := by
  have hnamed : (registerRoute s).signature.named = ["email", "name", "passwd"] := rfl
  have hrequired : (registerRoute s).signature.required = ["email", "name", "passwd"] := rfl
  obtain ⟨email, hemail⟩ := Option.isSome_iff_exists.1 (hcarried "email" List.mem_cons_self)
  obtain ⟨fs, hbrings⟩ := exists_brings hemail
  obtain ⟨r', args, hserve, htexts⟩ := serve_eq_answer users render served_register rfl hmethod
    hpath hbrings (by
      intro name hname
      rw [hrequired] at hname
      exact ⟨hnamed ▸ hname, hcarried name hname⟩)
  refine ⟨r', args, hserve, fun user => ?_⟩
  rw [registrationOf, htexts user "name" (hnamed ▸ by decide),
    htexts user "email" (hnamed ▸ by decide), htexts user "passwd" (hnamed ▸ by decide)]
  rfl

/-- With autocommit, a registration that carries data in order is answered with the cookie of the
user, if nobody else has the e-mail address and the insert affects one row. -/
theorem runs_serve_register (hauto : s.autocommit = true) {signup : Http.Request}
    (hmethod : signup.method = .post) (hpath : signup.uri.path = "/api/users")
    (hcarried : ∀ name ∈ ["email", "name", "passwd"], (Site.carried? signup name).isSome = true)
    (hcheck : (asked signup).check = .ok ()) {ds : List Exchange} {visitor : Option SessionUser}
    (hvisitor : Action.Runs ((site s users render).currentUser signup) ds visitor)
    {found inserted : ResultSet} (hfound : Entity.ofResult found = .ok ([] : List User))
    (hinserted : inserted.affected = 1) {millis created issued : Int} {uuid : List UInt8} {u : User}
    (hu : u = (asked signup).enrolled millis uuid created) {cookie : List UInt8}
    (hcookie : headerValue (sessionCookie s.session u (issued / 1000)) = .ok cookie) :
    Action.Runs ((site s users render).serve signup)
      (ds ++ [⟨.connect, .ok ()⟩, ⟨.run (emailSearch (asked signup).email), .ok found⟩,
        ⟨.clock, millis⟩, ⟨.uuid, uuid⟩, ⟨.clock, created⟩, ⟨.connect, .ok ()⟩,
        ⟨.run u.insertion, .ok inserted⟩, ⟨.clock, issued⟩])
      (signedInResponse u cookie) := by
  obtain ⟨r', args, hserve, hregistration⟩ := serve_register (s := s) users render hmethod hpath
    hcarried
  have hasked := hregistration visitor
  rw [hserve, ← hasked]
  rw [← hasked] at hcheck hu
  exact hvisitor.bind (Entry.runs_answer_of_response
    (runs_register hauto hcheck hfound hinserted hu hcookie))

/-- A login that carries the e-mail address of a user and the digest that the stored hash was made
of is answered with the cookie of the user, if the user is found. -/
theorem runs_serve_authenticate {login : Http.Request} (hmethod : login.method = .post)
    (hpath : login.uri.path = "/api/authenticate") {u : User} {digest : String}
    (hemail : Site.carried? login "email" = some u.email) (hnamed : u.email ≠ "")
    (hdigest : Site.carried? login "passwd" = some digest) (hgiven : digest ≠ "")
    (hpasswd : u.passwd = passwordHash (u.id.getD "") digest) {ds : List Exchange}
    {visitor : Option SessionUser}
    (hvisitor : Action.Runs ((site s users render).currentUser login) ds visitor)
    {found : ResultSet} {others : List User} (hfound : Entity.ofResult found = .ok (u :: others))
    {issued : Int} {cookie : List UInt8}
    (hcookie : headerValue (sessionCookie s.session u (issued / 1000)) = .ok cookie) :
    Action.Runs ((site s users render).serve login)
      (ds ++ [⟨.connect, .ok ()⟩, ⟨.run (emailSearch u.email), .ok found⟩, ⟨.clock, issued⟩])
      (signedInResponse u cookie) := by
  obtain ⟨r', args, hserve, htexts⟩ := serve_authenticate (s := s) users render hmethod hpath
    hemail hdigest
  obtain ⟨hemail', hdigest'⟩ := htexts visitor
  rw [hserve]
  exact hvisitor.bind (Entry.runs_answer_of_response
    (runs_authenticate_of_found hemail' hnamed (hdigest'.symm ▸ hgiven) (hdigest'.symm ▸ hpasswd)
      hfound hcookie))

theorem Registration.isDigitOrLower_of_mem_id (r : Registration) {millis : Int} (hmillis : 0 ≤ millis)
    (uuid : List UInt8) (created : Int) :
    ∀ c ∈ ((r.enrolled millis uuid created).id.getD "").toList,
      c.isDigit = true ∨ c.isLower = true :=
  fun _ hc => Stamp.isDigitOrLower_of_mem_idText hmillis hc

theorem eq_some_of_getD {o : Option String} (h : o.getD "" ≠ "") : o = some (o.getD "") := by
  cases o with
  | none => exact absurd rfl h
  | some text => rfl

/-- For every registration with status 200 that inserted a user: the insert bound that user, the
response signs the user in, and so does the response to every login with the same e-mail address and
digest against a database that returns the user, whatever else the world answers. The clock is
never negative, the cookie lives for no negative time, and its name may stand in a header. -/
theorem login_round_trip (hname : Cookie.IsName s.session.cookieName)
    (hheader : Http.IsHeaderText s.session.cookieName) (hage : 0 ≤ s.session.maxAge)
    {signup : Http.Request} (hmethod : signup.method = .post)
    (hpath : signup.uri.path = "/api/users") {ds hs : List Exchange}
    {visitor : Option SessionUser} {response : Http.Response}
    (hvisitor : Action.Runs ((site s users render).currentUser signup) ds visitor)
    (hsignup : Action.Runs ((site s users render).serve signup) (ds ++ hs) response)
    (hclock : ∀ millis : Int, ⟨.clock, millis⟩ ∈ hs → 0 ≤ millis) (hok : response.status = 200)
    {bound : List Bound}
    (hinsert : ⟨Sql.native User.schema.insertSql, bound⟩ ∈ sentBy hs) :
    ∃ u : User, bound = u.row.map Bound.ofJson ∧
      (site s users render).SignsIn u (ds ++ hs) response ∧
      ∀ (login : Http.Request) (es : List Exchange) (answer : Http.Response),
        login.method = .post → login.uri.path = "/api/authenticate" →
        Site.carried? login "email" = Site.carried? signup "email" →
        Site.carried? login "passwd" = Site.carried? signup "passwd" →
        Action.Runs ((site s users render).serve login) es answer → Returns u es →
        (∀ millis : Int, ⟨.clock, millis⟩ ∈ es → 0 ≤ millis) →
        (site s users render).SignsIn u es answer := by
  obtain ⟨hcheck, u, hu, hbound⟩ :=
    registered_of_runs_serve hmethod hpath hvisitor hsignup hok hinsert
  obtain ⟨millis, uuid, created, hdrawn, rfl⟩ := hu.drawn
  have huid := (asked signup).isDigitOrLower_of_mem_id (hclock millis hdrawn) uuid created
  refine ⟨_, hbound, ?signup, ?login⟩
  case signup =>
    obtain ⟨before, issued, cookie, rfl, hcookie, hresponse⟩ := hu.answered
    have hissued := hclock issued (List.mem_append_right before List.mem_cons_self)
    cases hresponse
    rw [← List.append_assoc]
    exact signsIn_of_signedIn hname hage huid hissued hcookie
  case login =>
    intro login es answer hmethod' hpath' hemail hdigest hlogin hdb hclock'
    have hnamed := (asked signup).email_ne_empty hcheck
    have hgiven := (asked signup).passwd_ne_empty hcheck
    obtain ⟨before, issued, cookie, rfl, hcookie, rfl⟩ := signedIn_of_runs_serve hmethod' hpath'
      (hemail.trans (eq_some_of_getD hnamed)) hnamed (hdigest.trans (eq_some_of_getD hgiven)) hgiven
      rfl hlogin hdb (fun now => Cookie.isHeaderText_setting hheader huid)
    have hissued := hclock' issued (List.mem_append_right before List.mem_cons_self)
    exact signsIn_of_signedIn hname hage huid hissued hcookie

/-! ## One user -/

def annRegistration : Registration :=
  ⟨"Ann", "ann@mail.org", String.ofList (List.replicate 64 '0')⟩

def annForm (path : String) : Http.Request :=
  .make .post ⟨"", path, none⟩
    [⟨"content-type", Text.Utf8.bytesOf "application/x-www-form-urlencoded"⟩]
    ("email=ann@mail.org&name=Ann&passwd=" ++ annRegistration.passwd).toUTF8

theorem carried?_annForm (path : String) :
    Site.carried? (annForm path) "email" = some annRegistration.email ∧
      Site.carried? (annForm path) "name" = some annRegistration.name ∧
      Site.carried? (annForm path) "passwd" = some annRegistration.passwd := by
  have hpath : Site.carried? (annForm path) = Site.carried? (annForm "") := rfl
  rw [hpath]
  decide +kernel

theorem asked_annForm (path : String) : asked (annForm path) = annRegistration := by
  obtain ⟨hemail, hname, hpasswd⟩ := carried?_annForm path
  rw [asked, hemail, hname, hpasswd]
  rfl

theorem isSome_carried?_annForm (path : String) :
    ∀ name ∈ ["email", "name", "passwd"], (Site.carried? (annForm path) name).isSome = true := by
  obtain ⟨hemail, hname, hpasswd⟩ := carried?_annForm path
  simp [hemail, hname, hpasswd]

theorem check_annRegistration : annRegistration.check = .ok () := by rfl

theorem check_annForm (path : String) : (asked (annForm path)).check = .ok () := by
  rw [asked_annForm, check_annRegistration]

/-- The time when Ann registers. -/
def annMillis : Int := 1700000000123

/-- Ann as she is stored. -/
def ann : User := annRegistration.enrolled annMillis (List.replicate 16 7) annMillis

def annSettings (maxAge : Int) : Settings := ⟨true, "awesession", "Awesome", maxAge⟩

def annSite (maxAge : Int) : Site :=
  site (annSettings maxAge)
    (Directory.ofList [(ann.id.getD "", .found ⟨ann.sessionUser, ann.passwd⟩)]) fun _ _ => pure ""

def annCookie (maxAge : Int) : List UInt8 :=
  Text.Utf8.bytesOf (sessionCookie (annSettings maxAge).session ann (annMillis / 1000))

/-- How the world answers the registration of Ann. -/
def annSignup : List Exchange :=
  [⟨.connect, .ok ()⟩, ⟨.run (emailSearch annRegistration.email), .ok ⟨[], [], 0⟩⟩,
    ⟨.clock, annMillis⟩, ⟨.uuid, List.replicate 16 7⟩, ⟨.clock, annMillis⟩, ⟨.connect, .ok ()⟩,
    ⟨.run ann.insertion, .ok ⟨[], [], 1⟩⟩, ⟨.clock, annMillis⟩]

def annLogin : List Exchange :=
  [⟨.connect, .ok ()⟩, ⟨.run (emailSearch ann.email), .ok ann.selected⟩, ⟨.clock, annMillis⟩]

/-- Ann as she is stored under an id that another UUID was drawn for. -/
def annWith (uuid : List UInt8) : User := annRegistration.enrolled annMillis uuid annMillis

def cookieWith (maxAge : Int) (uuid : List UInt8) : List UInt8 :=
  Text.Utf8.bytesOf (sessionCookie (annSettings maxAge).session (annWith uuid) (annMillis / 1000))

def signupWith (uuid : List UInt8) : List Exchange :=
  [⟨.connect, .ok ()⟩, ⟨.run (emailSearch annRegistration.email), .ok ⟨[], [], 0⟩⟩,
    ⟨.clock, annMillis⟩, ⟨.uuid, uuid⟩, ⟨.clock, annMillis⟩, ⟨.connect, .ok ()⟩,
    ⟨.run (annWith uuid).insertion, .ok ⟨[], [], 1⟩⟩, ⟨.clock, annMillis⟩]

theorem headerValue_cookieWith (maxAge : Int) (uuid : List UInt8) :
    headerValue (sessionCookie (annSettings maxAge).session (annWith uuid) (annMillis / 1000)) =
      .ok (cookieWith maxAge uuid) :=
  headerValue_ok_iff.2 (Http.headerValue?_eq_some (Cookie.isHeaderText_setting
    (show Http.IsHeaderText "awesession" by decide)
    (annRegistration.isDigitOrLower_of_mem_id (by decide) _ _)))

theorem runs_signupWith (maxAge : Int) (uuid : List UInt8) :
    Action.Runs ((annSite maxAge).serve (annForm "/api/users")) (signupWith uuid)
      (signedInResponse (annWith uuid) (cookieWith maxAge uuid)) := by
  have hasked := asked_annForm "/api/users"
  have hnobody : Entity.ofResult ⟨[], [], 0⟩ = .ok ([] : List User) := rfl
  have hinserted : (⟨[], [], 1⟩ : ResultSet).affected = 1 := rfl
  have hann : annWith uuid = (asked (annForm "/api/users")).enrolled annMillis uuid annMillis := by
    rw [hasked, annWith]
  have hemail : annRegistration.email = (asked (annForm "/api/users")).email := by rw [hasked]
  rw [signupWith, hemail]
  exact runs_serve_register (s := annSettings maxAge) rfl rfl rfl (isSome_carried?_annForm _)
    (check_annForm _) .done hnobody hinserted hann (headerValue_cookieWith maxAge uuid)

theorem headerValue_annCookie (maxAge : Int) :
    headerValue (sessionCookie (annSettings maxAge).session ann (annMillis / 1000)) =
      .ok (annCookie maxAge) := headerValue_cookieWith maxAge (List.replicate 16 7)

theorem runs_annSignup (maxAge : Int) :
    Action.Runs ((annSite maxAge).serve (annForm "/api/users")) annSignup
      (signedInResponse ann (annCookie maxAge)) := runs_signupWith maxAge (List.replicate 16 7)

theorem runs_annLogin (maxAge : Int) :
    Action.Runs ((annSite maxAge).serve (annForm "/api/authenticate")) annLogin
      (signedInResponse ann (annCookie maxAge)) := by
  obtain ⟨hemail, -, hpasswd⟩ := carried?_annForm "/api/authenticate"
  exact runs_serve_authenticate (s := annSettings maxAge) rfl rfl (u := ann) hemail (by decide)
    hpasswd (by decide) rfl .done (User.ofResult_selected rfl) (headerValue_annCookie maxAge)

theorem returns_annLogin : Returns ann annLogin where
  connects := by
    intro answer h
    simp only [annLogin, List.mem_cons] at h
    rcases h with h | h | h | h
    · cases h
      rfl
    · cases h
    · cases h
    · cases h
  finds := by
    intro answer h
    simp only [annLogin, List.mem_cons] at h
    rcases h with h | h | h | h
    · cases h
    · cases h
      exact ⟨ann.selected, [], rfl, User.ofResult_selected rfl⟩
    · cases h
    · cases h

theorem users_annSite (maxAge : Int) :
    Action.Runs ((annSite maxAge).users (ann.id.getD "")) []
      (.found ⟨ann.sessionUser, ann.passwd⟩) :=
  Directory.runs_ofList_head _ _ _

theorem isName_awesession : Cookie.IsName "awesession" where
  not_blank := by simp [Text.isBlank]
  no_equals := by decide
  no_semicolon := by decide

theorem insertion_mem_annSignup : ann.insertion ∈ sentBy annSignup :=
  List.mem_cons_of_mem (emailSearch annRegistration.email) (List.mem_singleton.2 rfl)

theorem nonneg_of_clock {es : List Exchange}
    (h : ∀ x ∈ es, x.effect = .clock → x = ⟨.clock, annMillis⟩) :
    ∀ millis : Int, ⟨.clock, millis⟩ ∈ es → 0 ≤ millis := by
  intro millis hmem
  cases h _ hmem rfl
  decide

theorem login_round_trip_ann :
    (annSite 86400).SignsIn ann annSignup (signedInResponse ann (annCookie 86400)) ∧
      (annSite 86400).SignsIn ann annLogin (signedInResponse ann (annCookie 86400)) := by
  have hvisitor : Action.Runs ((annSite 86400).currentUser (annForm "/api/users")) [] none := .done
  have hcarried := carried?_annForm "/api/users"
  have hcarried' := carried?_annForm "/api/authenticate"
  obtain ⟨u, hbound, hsignup, hlogin⟩ := login_round_trip (s := annSettings 86400) isName_awesession
    (by decide) (by decide) rfl rfl hvisitor (runs_annSignup 86400) (nonneg_of_clock (by simp)) rfl
    insertion_mem_annSignup
  obtain rfl := User.bound_injective hbound
  have hnonneg : ∀ millis : Int, ⟨.clock, millis⟩ ∈ annLogin → 0 ≤ millis :=
    nonneg_of_clock (by simp [annLogin])
  exact ⟨hsignup, hlogin _ _ _ rfl rfl (hcarried'.1.trans hcarried.1.symm)
    (hcarried'.2.2.trans hcarried.2.2.symm) (runs_annLogin 86400) returns_annLogin hnonneg⟩

/-- Ann registered, the directory knows her, and her client keeps a token. -/
structure AnnKeeps (maxAge : Int) (token : String) : Prop where
  registered : ∃ response setting,
    Action.Runs ((annSite maxAge).serve (annForm "/api/users")) annSignup response ∧
    response.status = 200 ∧
    Http.header? "set-cookie" response.headers = some (Text.Utf8.bytesOf setting) ∧
    Cookie.kept? setting = some ((annSite maxAge).session.cookieName, token)
  inserted : ann.insertion ∈ sentBy annSignup
  known : Action.Runs ((annSite maxAge).users (ann.id.getD "")) []
    (.found ⟨ann.sessionUser, ann.passwd⟩)

def annToken (maxAge : Int) : String :=
  Cookie.issue (ann.id.getD "") ann.passwd maxAge "Awesome" (annMillis / 1000)

theorem isDigitOrLower_of_mem_annId : ∀ c ∈ (ann.id.getD "").toList,
    c.isDigit = true ∨ c.isLower = true :=
  annRegistration.isDigitOrLower_of_mem_id (by decide) _ _

theorem isToken_annToken (maxAge : Int) : Cookie.IsToken (annToken maxAge) :=
  Cookie.isToken_issue isDigitOrLower_of_mem_annId

theorem header?_signedInResponse (u : User) (cookie : List UInt8) :
    Http.header? "set-cookie" (signedInResponse u cookie).headers = some cookie := rfl

theorem annCookie_eq (maxAge : Int) : annCookie maxAge =
    Text.Utf8.bytesOf (Cookie.setting "awesession" (annToken maxAge) maxAge) := rfl

theorem annKeeps_annToken (maxAge : Int) : AnnKeeps maxAge (annToken maxAge) where
  registered := by
    have hkept := Cookie.kept?_setting isName_awesession (isToken_annToken maxAge) maxAge
    have hset := (header?_signedInResponse ann (annCookie maxAge)).trans
      (congrArg some (annCookie_eq maxAge))
    exact ⟨_, _, runs_annSignup maxAge, rfl, hset, hkept⟩
  inserted := insertion_mem_annSignup
  known := users_annSite maxAge

def visit (cookie : String) : Http.Request :=
  .make .get ⟨"", "/", none⟩ [⟨"cookie", Text.Utf8.bytesOf cookie⟩] .empty

theorem isSentBack_annToken (maxAge : Int) :
    Cookie.IsSentBack "awesession" (annToken maxAge)
      (visit (Cookie.pairText "awesession" (annToken maxAge))).headers := by
  refine Cookie.isSentBack_alone ?_
  intro c hc
  rw [Cookie.toList_pairText] at hc
  rcases List.mem_append.1 hc with hc | hc
  · have hall : "awesession".toList.all fun c => 32 ≤ c.toNat && c.toNat < 127 := by decide
    simpa using List.all_eq_true.1 hall c hc
  · rcases List.mem_cons.1 hc with rfl | hc
    · decide
    · have := Cookie.visible_of_mem_issue isDigitOrLower_of_mem_annId hc
      omega

theorem resolve_annToken (users : Directory) (now : Int) :
    Cookie.resolve users (annToken Text.IntRange.i64.greatest) "Awesome" now = .done none := by
  have hdash : '-' ∉ (ann.id.getD "").toList := by
    intro h
    exact absurd (isDigitOrLower_of_mem_annId '-' h) (by decide)
  exact Cookie.resolve_issue_of_overflow hdash (by decide) (by decide) (by decide)

theorem runs_currentUser_lapsed :
    Action.Runs ((annSite Text.IntRange.i64.greatest).currentUser
      (visit (Cookie.pairText "awesession" (annToken Text.IntRange.i64.greatest))))
      [⟨.clock, annMillis⟩] none := by
  have htoken : Cookie.tokenIn? (visit (Cookie.pairText "awesession"
      (annToken Text.IntRange.i64.greatest))).headers
        (annSite Text.IntRange.i64.greatest).session.cookieName =
          some (annToken Text.IntRange.i64.greatest) :=
    Cookie.tokenIn?_of_isSentBack isName_awesession (isToken_annToken _) (isSentBack_annToken _)
  rw [Site.currentUser_of_some htoken]
  refine (Action.runs_seconds_iff.2 ⟨annMillis, rfl, rfl⟩).bind ?_
  rw [show (annSite Text.IntRange.i64.greatest).session.secret = "Awesome" from rfl,
    resolve_annToken]
  exact .done

theorem runs_currentUser_unreadable :
    Action.Runs ((annSite 86400).currentUser
      (visit (Cookie.sentBack [("lang", "é")] " " "awesession" (annToken 86400)))) [] none := by
  have hmem : 'é' ∈ (Cookie.sentBack [("lang", "é")] " " "awesession" (annToken 86400)).toList := by
    simp [Cookie.sentBack, Cookie.pairText]
  have htoken : Cookie.tokenIn? (visit (Cookie.sentBack [("lang", "é")] " " "awesession"
      (annToken 86400))).headers (annSite 86400).session.cookieName = none :=
    Cookie.tokenIn?_of_unreadable (Http.readable?_bytesOf_eq_none hmem (by decide)) _
  rw [Site.currentUser_of_none htoken]
  exact .done

/-- Neither a cookie that lives longer than 64 bits can say nor one in a header that is not
readable leads back to Ann. -/
theorem login_round_trip_limits :
    (∃ token r, AnnKeeps Text.IntRange.i64.greatest token ∧
      Cookie.IsSentBack "awesession" token (r : Http.Request).headers ∧
      Action.Runs ((annSite Text.IntRange.i64.greatest).currentUser r) [⟨.clock, annMillis⟩] none) ∧
    ∃ token r, AnnKeeps 86400 token ∧ Cookie.IsOther "awesession" ("lang", "é") ∧
      (r : Http.Request).headers = [⟨"cookie",
        Text.Utf8.bytesOf (Cookie.sentBack [("lang", "é")] " " "awesession" token)⟩] ∧
      Action.Runs ((annSite 86400).currentUser r) [] none := by
  have hother : Cookie.IsOther "awesession" ("lang", "é") := ⟨by decide, by decide, by decide⟩
  exact ⟨⟨_, _, annKeeps_annToken _, isSentBack_annToken _, runs_currentUser_lapsed⟩,
    _, _, annKeeps_annToken _, hother, rfl, runs_currentUser_unreadable⟩

end Blog
end Weblog
