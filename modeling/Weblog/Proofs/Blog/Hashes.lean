import Weblog.Proofs.Blog.Discreet
import Weblog.Proofs.Blog.Statements

/-!
# Weblog.Proofs.Blog.Hashes

Stored password hashes stay in the database.

* `alike_entered_of_not_isLogin`: a request other than one to sign in does not depend on hashes.
* `alike_entered_of_accepts`: what a request to sign in shows depends on whether they accept the
  digest that it carries.
* `alike_currentUser`: the user of a session is looked for in the same way.
* `hides_digests`: what responses and statements say of the hashes.
-/

namespace Weblog

open Fallible

namespace Blog

variable {s : Settings} {c : Call} {Q : ResultSet → ResultSet → Prop} {users : Directory}
  {render : Renderer} {r : Http.Request}

/-- A request to sign in. -/
def IsLogin (r : Http.Request) : Prop := r.method = .post ∧ r.uri.path = "/api/authenticate"

theorem isLogin_of_matches {captured : List (List Char)}
    (h : (site s users render).Matches r (entryOf (authenticateRoute s)) captured) : IsLogin r := by
  refine ⟨h.method_eq rfl, ?_⟩
  have hpath : (entryOf (authenticateRoute s)).path = "/api/authenticate" :=
    served_authenticate.kept
  have hparts : PathPart.read "/api/authenticate" =
      "/api/authenticate".toList.map PathPart.char := by decide +kernel
  have hfits := h.fits
  rw [hpath, hparts] at hfits
  exact String.toList_inj.1 hfits.eq_of_chars

theorem alike_commonPage (p : CommonPage) :
    Action.Alike (apartFrom "passwd" Q) (fun x y => x = y ∧ x.Masked) p.response p.response := by
  have htexts : ∀ (code : Nat) (pairs : List (String × String)), (∀ q ∈ pairs, q.1 ≠ "passwd") →
      (Http.Response.json code (CommonPage.texts pairs)).Masked := by
    intro code pairs hpairs
    refine Http.Response.masked_json (Json.masked_ofFields (List.forall_mem_map.2 fun q hq => ?_)) _
    exact ⟨.string q.2, fun h => absurd h (hpairs q hq)⟩
  cases p with
  | health => exact .done ⟨rfl, htexts 200 _ (by decide)⟩
  | version => exact .done ⟨rfl, htexts 200 _ (by decide)⟩
  | ready =>
    have hping : Alike (apartFrom "passwd" Q) Eq Database.ping Database.ping := by
      refine Database.alike_connect.bind_same fun _ => ?_
      exact (Database.alike_run _).bind fun _ _ _ => alike_pure rfl
    refine Action.Alike.bind hping fun out out' hout => ?_
    cases hout with
    | ok _ => exact .done ⟨rfl, htexts 200 _ (by decide)⟩
    | error e =>
      refine (Action.alike_self eq_of_apartFrom (Action.silent_log _)).bind fun _ _ _ => ?_
      exact .done ⟨rfl, htexts 503 _ (by decide)⟩

/-- Behind the gate a request goes on as the handler of its route does. -/
theorem alike_entered (hrender : render.Offline) {T : Http.Response → Http.Response → Prop}
    (hT : ∀ x : Http.Response, x.Masked → T x x)
    (hroutes : ∀ route ∈ routes s, ∀ captured,
      (site s users render).Matches r (entryOf route) captured → ∀ visitor r' es args,
      Site.dispatched? r = some r' → Action.Runs ((entryOf route).spec.arguments
        ((entryOf route).parameters captured) r').run es (.ok args) →
      Alike (apartFrom "passwd" Q) (Reply.Alike T)
        (route.handler ((entryOf route).call visitor r' args))
        (route.handler ((entryOf route).call visitor r' args)))
    (visitor : Option SessionUser) :
    Action.Alike (apartFrom "passwd" Q) T ((site s users render).entered r visitor)
      ((site s users render).entered r visitor) := by
  unfold Site.entered
  split
  · exact .done (hT _ (Http.Response.masked_typed (by decide)))
  · rename_i r' hdispatched
    split
    · rcases hfind : Branch.find? (site s users render).places r.uri.path.toList with
        _ | ⟨_ | ⟨page, handlers⟩, captured⟩
      · simp only [Site.behind, hfind]
        exact .done (hT _ (Http.Response.masked_of_body rfl))
      · simp only [Site.behind, hfind]
        exact .done (hT _ (Files.masked_response _ _))
      · rcases hendpoint : Place.endpoint? page handlers r.method with _ | p | e
        · simp only [Site.behind, hfind, hendpoint]
          exact .done (hT _ (Http.Response.masked_of_body rfl))
        · simp only [Site.behind, hfind, hendpoint]
          refine (alike_commonPage p).mono ?_
          rintro x _ ⟨rfl, hx⟩
          exact hT x hx
        · obtain ⟨he, hmatches⟩ := Site.matches_of_find? nodup_key_table hfind hendpoint
          have hmem : e ∈ (routes s).map entryOf := table_eq s ▸ he
          obtain ⟨route, hroute, rfl⟩ := List.mem_map.1 hmem
          rw [hmatches.behind_eq]
          exact Entry.alike_dispatch hrender hT fun es args hargs =>
            hroutes route hroute captured hmatches visitor r' es args hdispatched hargs
    · exact .done (hT _ (Http.Response.masked_of_body rfl))

/-- No other request than one to sign in depends on hashes. -/
theorem alike_entered_of_not_isLogin (hrender : render.Offline) (hlogin : ¬ IsLogin r)
    (visitor : Option SessionUser) :
    Action.Alike (apartFrom "passwd" Q) (fun x y => x = y ∧ x.Masked)
      ((site s users render).entered r visitor) ((site s users render).entered r visitor) := by
  refine alike_entered hrender (fun x hx => ⟨rfl, hx⟩) ?_ visitor
  intro route hroute captured hmatches visitor r' es args _ _
  rcases discreet_routes s route hroute with hdiscreet | rfl
  · refine (hdiscreet Q _).mono ?_
    rintro reply _ ⟨rfl, hmasked⟩
    exact .same hmasked
  · exact absurd (isLogin_of_matches hmatches) hlogin

/-- The digest that a request to sign in carries. -/
def submitted (r : Http.Request) : String := (Site.carried? r "passwd").getD ""

/-- What every request shows depends on hashes only through whether they accept the digest that it
carries. -/
theorem alike_entered_of_accepts (hrender : render.Offline) (r : Http.Request)
    (visitor : Option SessionUser) :
    Action.Alike (apartFrom "passwd" (SameVerdict (submitted r))) ShownAlike
      ((site s users render).entered r visitor) ((site s users render).entered r visitor) := by
  refine alike_entered hrender (fun x hx => ⟨rfl, rfl, hx⟩) ?_ visitor
  intro route hroute captured hmatches visitor r' es args hdispatched hargs
  rcases discreet_routes s route hroute with hdiscreet | rfl
  · refine (hdiscreet _ _).mono ?_
    rintro reply _ ⟨rfl, hmasked⟩
    exact .same hmasked
  · refine alike_authenticate ?_
    have hnames : (entryOf (authenticateRoute s)).spec.named = ["email", "passwd"] := rfl
    have hnamed : "passwd" ∈ (entryOf (authenticateRoute s)).spec.named := hnames ▸ by decide
    rw [Call.textOr, text_of_arguments hroute (hmatches.method_eq rfl) hdispatched hargs hnamed,
      requested?_of_ne hroute captured (by decide), submitted]

/-- The user of a session is looked for in the same way, whatever the hashes are. -/
theorem alike_currentUser (s : Settings) (render : Renderer) (r : Http.Request) :
    Action.Alike (apartFrom "passwd" Q) (fun _ _ => True) ((site s directory render).currentUser r)
      ((site s directory render).currentUser r) := by
  have hlookup : ∀ uid, Action.Alike (apartFrom "passwd" Q)
      (fun found found' : Lookup => found = .failed ↔ found' = .failed) (directory uid)
      (directory uid) := by
    intro uid
    refine Action.Alike.bind (Entity.alike_find User.conceals User.build_eq (.string uid)) ?_
    intro out out' hout
    rcases hout with e | hfound
    · exact .done Iff.rfl
    · cases hfound with
      | none => exact .done Iff.rfl
      | some huv => exact .done ⟨nofun, nofun⟩
  unfold Site.currentUser
  split
  · exact .done trivial
  · refine (Action.alike_self eq_of_apartFrom Action.silent_seconds).bind fun now _ hnow => ?_
    subst hnow
    unfold Cookie.resolve
    split
    · exact .done trivial
    · refine (hlookup _).bind fun found found' hfailed => ?_
      by_cases hfound : found = .failed
      · rw [if_pos hfound, if_pos (hfailed.1 hfound)]
        exact (Action.alike_self eq_of_apartFrom (Action.silent_log _)).bind
          fun _ _ _ => .done trivial
      · rw [if_neg hfound, if_neg (mt hfailed.2 hfound)]
        exact .done trivial

/-- No response shows a stored password hash. Two runs of a request for the same user of its
session, against databases that differ in the texts of password columns alone, have the same
response and send the same, unless the request is one to sign in. Then they send the same, and have
the same status and body, if the hash of the first user found is that of the digest in both or in
neither. -/
theorem hides_digests (hrender : render.Offline) (r : Http.Request) :
    (∀ es response, Action.Runs ((site s directory render).serve r) es response → response.Masked) ∧
    ∀ visitor ds hs response ds' hs' response',
      (site s directory render).Visit r visitor ds hs response →
      (site s directory render).Visit r visitor ds' hs' response' →
      AnswersAlike (apartFrom "passwd" fun _ _ => True) ds ds' →
      (¬ IsLogin r → AnswersAlike (apartFrom "passwd" fun _ _ => True) hs hs' →
        response = response' ∧ sentBy (ds ++ hs) = sentBy (ds' ++ hs')) ∧
      (IsLogin r → AnswersAlike (apartFrom "passwd" (SameVerdict (submitted r))) hs hs' →
        response.status = response'.status ∧ response.body = response'.body ∧
          sentBy (ds ++ hs) = sentBy (ds' ++ hs')) := by
  refine ⟨?masked, ?alike⟩
  case masked =>
    intro es response h
    obtain ⟨visitor, ds, hs, rfl, hvisit⟩ := Site.exists_visit h
    obtain ⟨inner, hentered, rfl⟩ := hvisit.entered
    -- a run is alike itself
    have hsame : AnswersAlike (apartFrom "passwd" (SameVerdict (submitted r))) hs hs :=
      .refl (apartFrom_refl fun _ => Iff.rfl) hs
    have hshown := (alike_entered_of_accepts hrender r visitor).of_runs hentered hentered hsame
    exact Site.masked_finish hshown.2.masked _ r
  case alike =>
    intro visitor ds hs response ds' hs' response' hvisit hvisit' hds
    obtain ⟨inner, hentered, rfl⟩ := hvisit.entered
    obtain ⟨inner', hentered', rfl⟩ := hvisit'.entered
    have hlookups : sentBy ds = sentBy ds' := by
      by_cases hlength : Site.dispatched? r = none
      · rw [hvisit.lookup_eq_nil hlength, hvisit'.lookup_eq_nil hlength]
      · exact sentBy_congr ((alike_currentUser s render r).of_runs (hvisit.found hlength)
          (hvisit'.found hlength) hds).1
    rw [sentBy_append, sentBy_append, hlookups]
    constructor
    · intro hlogin hhs
      obtain ⟨heffects, rfl, -⟩ :=
        (alike_entered_of_not_isLogin hrender hlogin visitor).of_runs hentered hentered' hhs
      exact ⟨rfl, by rw [sentBy_congr heffects]⟩
    · intro _ hhs
      obtain ⟨heffects, hshown⟩ :=
        (alike_entered_of_accepts hrender r visitor).of_runs hentered hentered' hhs
      refine ⟨?_, Site.body_finish_congr hshown.body _ r, by rw [sentBy_congr heffects]⟩
      rw [Site.status_finish, Site.status_finish, hshown.status]

/-! ## Two stored hashes -/

/-- Ann with another text for a password hash. -/
def annHashed (hash : String) : User := { ann with passwd := hash }

/-- How the world answers where Ann is found and nothing else is asked. -/
def annFound (hash : String) : List Exchange :=
  [⟨.connect, .ok ()⟩, ⟨.run (emailSearch ann.email), .ok (annHashed hash).selected⟩]

theorem ofResult_annHashed (hash : String) :
    Entity.ofResult (annHashed hash).selected = .ok [annHashed hash] :=
  User.ofResult_selected rfl

theorem answersAlike_annFound (hash hash' : String)
    (h : Q (annHashed hash).selected (annHashed hash').selected) :
    AnswersAlike (apartFrom "passwd" Q) (annFound hash) (annFound hash') := by
  have hrow : Row.Alike "passwd"
      (Row.ofCells (annHashed hash).selected.columns (annHashed hash).selected.rows.head!)
      (Row.ofCells (annHashed hash).selected.columns (annHashed hash').selected.rows.head!) :=
    .cons ⟨rfl, .same _⟩ (.cons ⟨rfl, .same _⟩ (.cons ⟨rfl, .texts _ _ rfl⟩ (.cons ⟨rfl, .same _⟩
      (.cons ⟨rfl, .same _⟩ (.cons ⟨rfl, .same _⟩ (.cons ⟨rfl, .same _⟩ .nil))))))
  have hfound : (annHashed hash).selected.Alike "passwd" (annHashed hash').selected :=
    ⟨rfl, rfl, .cons hrow .nil⟩
  exact fun _ => ⟨.mk rfl, fun _ => ⟨.mk (.ok ⟨hfound, h⟩), trivial⟩⟩

theorem visit_of_serve_eq {path : String} {f : Option SessionUser → Action Http.Response}
    (h : storedSite.serve (annForm path) = (storedSite.currentUser (annForm path) >>= f))
    {hs : List Exchange} {response : Http.Response} (hruns : Action.Runs (f none) hs response) :
    storedSite.Visit (annForm path) none [] hs response := by
  have hvisitor : Action.Runs (storedSite.currentUser (annForm path)) [] none := .done
  exact ⟨h ▸ hvisitor.bind hruns, fun _ => hvisitor⟩

theorem runs_register_taken (hcheck : (registrationOf c).check = .ok ()) {found : ResultSet}
    {u : User} {others : List User} (hfound : Entity.ofResult found = .ok (u :: others)) :
    Action.Runs (register s c).run
      [⟨.connect, .ok ()⟩, ⟨.run (emailSearch (registrationOf c).email), .ok found⟩]
      (.error (.api ⟨"register:failed", "email", "Email is already in use."⟩)) := by
  rw [register_eq, hcheck]
  refine runs_bind_iff.2 (.inr ⟨[], _, (), rfl, .done, ?_⟩)
  exact runs_bind_iff.2 (.inr ⟨[_, _], [], u :: others, rfl, runs_usersOfEmail hfound, .done⟩)

theorem runs_authenticate_of_mismatch {u : User} (hemail : c.textOr "email" "" = u.email)
    (hnamed : u.email ≠ "") (hdigest : c.textOr "passwd" "" ≠ "")
    (hpasswd : u.passwd ≠ passwordHash (u.id.getD "") (c.textOr "passwd" "")) {found : ResultSet}
    {others : List User} (hfound : Entity.ofResult found = .ok (u :: others)) :
    Action.Runs (authenticate s c).run
      [⟨.connect, .ok ()⟩, ⟨.run (emailSearch u.email), .ok found⟩]
      (.error (.api (.value "passwd" "Invalid password."))) := by
  rw [authenticate_eq hemail hnamed hdigest]
  refine runs_bind_iff.2 (.inr ⟨[_, _], [], u :: others, rfl, runs_usersOfEmail hfound, ?_⟩)
  simp only [if_neg hpasswd]
  exact .done

/-- A registration with the address of Ann is refused. -/
theorem visit_taken (hash : String) :
    ∃ response, storedSite.Visit (annForm "/api/users") none [] (annFound hash) response := by
  obtain ⟨r', args, hserve, hasked⟩ := serve_register (s := annSettings 86400) directory
    (fun _ _ => pure "") rfl rfl (isSome_carried?_annForm _)
  have hregistration := (hasked none).trans (asked_annForm "/api/users")
  have htaken := runs_register_taken (s := annSettings 86400)
    (hregistration ▸ check_annRegistration) (ofResult_annHashed hash)
  rw [hregistration] at htaken
  exact ⟨_, visit_of_serve_eq hserve (Entry.runs_answer_of_refusal htaken)⟩

/-- What holds another character than digits and letters is no hash. -/
theorem ne_passwordHash {hash : String} (h : '*' ∈ hash.toList) (uid digest : String) :
    hash ≠ passwordHash uid digest := by
  rintro rfl
  exact absurd (Sha256.isDigitOrLower_of_mem_hexDigest h) (by decide)

/-- A login of Ann is refused where another hash is stored. -/
theorem visit_mismatch {hash : String} (h : '*' ∈ hash.toList) :
    ∃ response,
      storedSite.Visit (annForm "/api/authenticate") none [] (annFound hash) response := by
  obtain ⟨hemail, -, hpasswd⟩ := carried?_annForm "/api/authenticate"
  obtain ⟨r', args, hserve, htexts⟩ := serve_authenticate (s := annSettings 86400) directory
    (fun _ _ => pure "") rfl rfl hemail hpasswd
  obtain ⟨hemail', hdigest'⟩ := htexts none
  have hgiven : annRegistration.passwd ≠ "" := annRegistration.passwd_ne_empty check_annRegistration
  have hnamed : (annHashed hash).email ≠ "" := annRegistration.email_ne_empty check_annRegistration
  have hmismatch := runs_authenticate_of_mismatch (s := annSettings 86400) (u := annHashed hash)
    hemail' hnamed (hdigest'.symm ▸ hgiven) (ne_passwordHash h _ _) (ofResult_annHashed hash)
  exact ⟨_, visit_of_serve_eq hserve (Entry.runs_answer_of_refusal hmismatch)⟩

theorem hides_digests_ann :
    (∃ response, storedSite.Visit (annForm "/api/users") none [] (annFound "one") response ∧
      storedSite.Visit (annForm "/api/users") none [] (annFound "another") response ∧
      response.Masked) ∧
    ∃ response response', response.body = response'.body ∧
      storedSite.Visit (annForm "/api/authenticate") none [] (annFound "*") response ∧
      storedSite.Visit (annForm "/api/authenticate") none [] (annFound "**") response' := by
  have hrender : Renderer.Offline storedSite.render := fun _ _ => silent_pure _
  constructor
  · obtain ⟨response, hone⟩ := visit_taken "one"
    obtain ⟨response', hanother⟩ := visit_taken "another"
    have hlogin : ¬ IsLogin (annForm "/api/users") := fun h => absurd h.2 (by decide)
    obtain ⟨hmasked, halike⟩ :=
      hides_digests (s := annSettings 86400) hrender (annForm "/api/users")
    obtain ⟨rfl, -⟩ := (halike none [] _ response [] _ response' hone hanother trivial).1 hlogin
      (answersAlike_annFound "one" "another" trivial)
    exact ⟨response, hone, hanother, hmasked _ _ hone.served⟩
  · obtain ⟨response, hone⟩ := visit_mismatch (show '*' ∈ "*".toList by decide)
    obtain ⟨response', hanother⟩ := visit_mismatch (show '*' ∈ "**".toList by decide)
    have hverdict : SameVerdict (submitted (annForm "/api/authenticate")) (annHashed "*").selected
        (annHashed "**").selected := by
      rw [SameVerdict, accepts_iff (ofResult_annHashed _), accepts_iff (ofResult_annHashed _)]
      exact iff_of_false (ne_passwordHash (by decide) _ _) (ne_passwordHash (by decide) _ _)
    obtain ⟨-, halike⟩ :=
      hides_digests (s := annSettings 86400) hrender (annForm "/api/authenticate")
    obtain ⟨-, hbody, -⟩ := (halike none [] _ response [] _ response' hone hanother trivial).2
      ⟨rfl, rfl⟩ (answersAlike_annFound "*" "**" hverdict)
    exact ⟨response, response', hbody, hone, hanother⟩

end Blog
end Weblog
