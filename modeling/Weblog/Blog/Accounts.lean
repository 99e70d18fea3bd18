import Weblog.Blog.Handlers

/-!
# Weblog.Blog.Accounts

Registration, signing in and out, and the list of users.

* `isEmail`, `isDigest`: the shapes of an e-mail address and of a password digest.
* `passwordHash`: what is stored of a password digest, salted with the id of the user.
* `signedIn`: the response to a user who signed in, with a fresh session cookie.
-/

namespace Weblog
namespace Blog

def isLabelChar (c : Char) : Bool := c.isLower || c.isDigit || c == '-' || c == '_'

def isLabel (cs : List Char) : Bool := !cs.isEmpty && cs.all isLabelChar

/-- A domain name of two to five labels. -/
def isDomain (cs : List Char) : Bool :=
  let labels := Text.splitAll '.' cs
  labels.all isLabel && decide (2 ≤ labels.length) && decide (labels.length ≤ 5)

/-- The part of an address before the at sign. -/
def isLocalPart (cs : List Char) : Bool :=
  !cs.isEmpty && cs.all fun c => isLabelChar c || c == '.'

/-- An e-mail address in lower case. -/
def isEmail (s : String) : Bool :=
  match Text.splitOnce '@' s.toList with
  | some (before, domain) => isLocalPart before && isDomain domain
  | none => false

def isHexDigit (c : Char) : Bool := c.isDigit || (decide ('a' ≤ c) && decide (c ≤ 'f'))

def isDigest (s : String) : Bool := s.length == 64 && s.toList.all isHexDigit

def passwordHash (uid digest : String) : String := Sha256.hexDigest (uid ++ ":" ++ digest)

/-- The address of the picture that belongs to an e-mail address. -/
def gravatar (email : String) : String :=
  "https://www.gravatar.com/avatar/" ++ Sha256.hexDigest (Http.lower (Text.trim email)) ++
    "?d=mm&s=120"

def headerValue (text : String) : Except AppError (List UInt8) :=
  match Http.headerValue? text with
  | some octets => .ok octets
  | none => .error (.internal "invalid header value: failed to parse header value")

def sessionCookie (s : SessionConfig) (u : User) (now : Int) : String :=
  Cookie.setting s.cookieName (Cookie.issue (u.id.getD "") u.passwd s.maxAge s.secret now) s.maxAge

/-- The response to a user who signed in: the user without the password hash, and a fresh session
cookie. -/
def signedIn (s : SessionConfig) (u : User) : Fallible AppError Reply := do
  let now ← Fallible.lift Action.seconds
  let cookie ← Fallible.ofExcept (headerValue (sessionCookie s u now))
  return .response ((Http.Response.json 200 (entityJson u.masked)).withHeader "set-cookie" cookie)

/-- The users with an e-mail address. -/
def usersOfEmail (email : String) : Fallible AppError (List User) :=
  stored (Entity.findAll User { filter := some ⟨"email = ?", [.string email]⟩ })

/-- What a registration asks for. -/
structure Registration where
  name : String
  email : String
  passwd : String
  deriving DecidableEq, Repr

def Registration.check (r : Registration) : Except ApiError Unit :=
  if Text.isBlankText r.name then .error (.value "name" "Invalid name.")
  else if !isEmail r.email then .error (.value "email" "Invalid email.")
  else if !isDigest r.passwd then .error (.value "passwd" "Invalid password.")
  else .ok ()

def Registration.user (r : Registration) (uid : String) : User where
  id := some uid
  email := r.email
  passwd := passwordHash uid r.passwd
  name := Text.trim r.name
  image := gravatar r.email

/-- Registers a user, who is then signed in. -/
def register (s : Settings) : Handler := fun c => do
  let r : Registration := ⟨c.textOr "name" "", c.textOr "email" "", c.textOr "passwd" ""⟩
  Fallible.ofExcept (r.check.mapError .api)
  let others ← usersOfEmail r.email
  if others.isEmpty then
    let uid ← Fallible.lift Stamp.newId
    let user ← stored (Entity.save s.autocommit (r.user uid))
    signedIn s.session user
  else refuse ⟨"register:failed", "email", "Email is already in use."⟩

/-- Signs a user in. -/
def authenticate (s : Settings) : Handler := fun c => do
  let email := c.textOr "email" ""
  let passwd := c.textOr "passwd" ""
  if email.isEmpty then refuse (.value "email" "Invalid email.")
  else if passwd.isEmpty then refuse (.value "passwd" "Invalid password.")
  else
    match ← usersOfEmail email with
    | [] => refuse (.value "email" "Email not exist.")
    | user :: _ =>
      if user.passwd = passwordHash (user.id.getD "") passwd then signedIn s.session user
      else refuse (.value "passwd" "Invalid password.")

/-- Ends the session and goes back where the user came from. -/
def signout (s : Settings) : Handler := fun c => do
  let target ← Fallible.ofExcept (headerValue ((c.header "referer").getD "/"))
  let cookie ← Fallible.ofExcept (headerValue (Cookie.setting s.session.cookieName Cookie.deleted 0))
  return .response ((Http.Response.redirect target).withHeader "set-cookie" cookie)

/-- One page of users, the newest first, without their password hashes. -/
def listUsers : Handler := fun c => do
  let (page, users) ← listing User "created_at DESC" c
  return .ofJson (listingJson "users" page (users.map User.masked))

/-- The directory over the stored users. -/
def directory : Directory := fun uid => do
  match ← (Entity.find User (.string uid)).run with
  | .ok (some u) => return .found ⟨u.sessionUser, u.passwd⟩
  | .ok none => return .unknown
  | .error _ => return .failed

end Blog
end Weblog
