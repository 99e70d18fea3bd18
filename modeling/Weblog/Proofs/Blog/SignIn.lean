import Weblog.Proofs.Blog.Accounts
import Weblog.Proofs.Session.Header
import Weblog.Site

/-!
# Weblog.Proofs.Blog.SignIn

What it means that a response signs a user in.

* `Resolves`: a cookie that leads to a user at a time.
* `SignsIn`: a response that sets a cookie which leads to a user until it expires.
* `signsIn_of_signedIn`: the response to a user who signed in is one.
-/

namespace Weblog
namespace Site

/-- Sent back to the site at a time, a cookie leads to a user, if the directory returns the user
with the stored password hash. -/
def Resolves (site : Site) (token : String) (u : User) (now : Int) : Prop :=
  ∀ (r : Http.Request) (millis : Int) (ds : List Exchange),
    Cookie.IsSentBack site.session.cookieName token r.headers → millis / 1000 = now →
    Action.Runs (site.users (u.id.getD "")) ds (.found ⟨u.sessionUser, u.passwd⟩) →
    Action.Runs (site.currentUser r) (⟨.clock, millis⟩ :: ds) (some u.sessionUser)

/-- A response signs a user in with the cookie of the last time of a run: its status is 200, and it
sets the cookie to a value that leads to the user until it expires, at a time of 64 bits. -/
def SignsIn (site : Site) (u : User) (es : List Exchange) (response : Http.Response) : Prop :=
  ∃ (before : List Exchange) (issued : Int) (setting token : String),
    es = before ++ [⟨.clock, issued⟩] ∧ response.status = 200 ∧
    Http.header? "set-cookie" response.headers = some (Text.Utf8.bytesOf setting) ∧
    Cookie.kept? setting = some (site.session.cookieName, token) ∧
    (issued / 1000 + site.session.maxAge ≤ Text.IntRange.i64.greatest →
      ∀ now ≤ issued / 1000 + site.session.maxAge, site.Resolves token u now)

theorem currentUser_of_some {site : Site} {r : Http.Request} {token : String}
    (h : Cookie.tokenIn? r.headers site.session.cookieName = some token) :
    site.currentUser r = Action.seconds >>= fun now =>
      Cookie.resolve site.users token site.session.secret now := by
  rw [currentUser, h]

theorem currentUser_of_none {site : Site} {r : Http.Request}
    (h : Cookie.tokenIn? r.headers site.session.cookieName = none) :
    site.currentUser r = .done none := by
  rw [currentUser, h]

theorem resolves_issue {site : Site} {u : User} {issued now : Int}
    (hname : Cookie.IsName site.session.cookieName)
    (huid : ∀ c ∈ (u.id.getD "").toList, c.isDigit = true ∨ c.isLower = true)
    (hnonneg : 0 ≤ issued + site.session.maxAge)
    (hbound : issued + site.session.maxAge ≤ Text.IntRange.i64.greatest)
    (hnow : now ≤ issued + site.session.maxAge) :
    site.Resolves (Cookie.issue (u.id.getD "") u.passwd site.session.maxAge site.session.secret issued)
      u now := by
  intro r millis ds hsent hmillis hfound
  have htoken := Cookie.tokenIn?_of_isSentBack hname (Cookie.isToken_issue huid) hsent
  have hdash : '-' ∉ (u.id.getD "").toList := by
    intro h
    rcases huid '-' h with h | h
    · exact absurd h (by decide)
    · exact absurd h (by decide)
  rw [currentUser_of_some htoken]
  exact (Action.runs_seconds_iff.2 ⟨millis, rfl, rfl⟩).bind
    (Cookie.runs_resolve_issue hdash hnonneg hbound (hmillis ▸ hnow) hfound)

end Site

namespace Blog

theorem headerValue_ok_iff {text : String} {octets : List UInt8} :
    headerValue text = .ok octets ↔ Http.headerValue? text = some octets := by
  rw [headerValue]
  cases Http.headerValue? text <;> simp

/-- The response to a user who signed in, whose id holds only digits and lowercase letters, signs
the user in. -/
theorem signsIn_of_signedIn {site : Site} {u : User} {before : List Exchange} {issued : Int}
    {cookie : List UInt8} (hname : Cookie.IsName site.session.cookieName)
    (hage : 0 ≤ site.session.maxAge)
    (huid : ∀ c ∈ (u.id.getD "").toList, c.isDigit = true ∨ c.isLower = true)
    (hissued : 0 ≤ issued)
    (hcookie : headerValue (sessionCookie site.session u (issued / 1000)) = .ok cookie) :
    site.SignsIn u (before ++ [⟨.clock, issued⟩]) (signedInResponse u cookie) := by
  obtain ⟨-, rfl⟩ := Http.headerValue?_eq_some_iff.1 (headerValue_ok_iff.1 hcookie)
  refine ⟨before, issued, _, _, rfl, rfl, rfl,
    Cookie.kept?_setting hname (Cookie.isToken_issue huid) _, ?_⟩
  intro hbound now hnow
  have hseconds : 0 ≤ issued / 1000 := Int.ediv_nonneg hissued (by decide)
  exact Site.resolves_issue hname huid (by omega) hbound hnow

end Blog
end Weblog
