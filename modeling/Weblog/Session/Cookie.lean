import Weblog.Action
import Weblog.Http.Message
import Weblog.Sha256
import Weblog.Text.Blank
import Weblog.Text.Numeral
import Weblog.Text.Split

/-!
# Weblog.Session.Cookie

Signed session cookies: the id of a user, an expiry in seconds since the epoch and a digest, with
dashes between them. The digest covers the id, the stored password hash, the expiry and a secret,
so that a change of the password ends every session of the user.

* `issue`: the cookie of a user.
* `parse?`: the three parts of a cookie.
* `resolve`: the user of a cookie that is valid at a time.
* `valueIn?`, `tokenIn?`: the value of a cookie in a header, and in the headers of a request.
-/

namespace Weblog

/-- A user as handlers and pages see it. -/
structure SessionUser where
  id : String
  name : String
  email : String
  image : String
  admin : Bool
  deriving DecidableEq, Repr

def SessionUser.toJson (u : SessionUser) : Json :=
  .ofFields [("id", .string u.id), ("name", .string u.name), ("email", .string u.email),
    ("image", .string u.image), ("admin", .bool u.admin)]

/-- A user with the stored password hash. -/
structure Credentials where
  user : SessionUser
  passwd : String
  deriving DecidableEq, Repr

/-- What a directory says about an id. -/
inductive Lookup where
  | found (c : Credentials)
  | unknown
  | failed
  deriving DecidableEq, Repr

/-- Where the users of cookies are looked up. -/
abbrev Directory : Type := String → Action Lookup

namespace Cookie

/-- The value of the cookie that ends a session. -/
def deleted : String := "-deleted-"

def signedText (uid passwd : String) (expires : Int) (secret : String) : String :=
  uid ++ "-" ++ passwd ++ "-" ++ Text.ofInt expires ++ "-" ++ secret

def digest (uid passwd : String) (expires : Int) (secret : String) : String :=
  Sha256.hexDigest (signedText uid passwd expires secret)

def write (uid : String) (expires : Int) (digest : String) : String :=
  uid ++ "-" ++ Text.ofInt expires ++ "-" ++ digest

/-- The time that is `maxAge` seconds after `now`, in 64 bits: past the greatest time the least one
follows. -/
def expiry (now maxAge : Int) : Int := (now + maxAge).bmod 18446744073709551616

/-- The cookie of a user, valid for `maxAge` seconds from `now`. -/
def issue (uid passwd : String) (maxAge : Int) (secret : String) (now : Int) : String :=
  write uid (expiry now maxAge) (digest uid passwd (expiry now maxAge) secret)

/-- The id, the expiry and the digest of a cookie, if it has exactly three parts. -/
def parse? (cookie : String) : Option (String × String × String) :=
  match Text.splitAll '-' cookie.toList with
  | [uid, expires, digest] =>
    some (String.ofList uid, String.ofList expires, String.ofList digest)
  | _ => none

/-- The user that a directory finds, if the digest fits. -/
def verify (uid digest : String) (expires : Int) (secret : String) : Lookup → Option SessionUser
  | .found c => if digest = Cookie.digest uid c.passwd expires secret then some c.user else none
  | .unknown => none
  | .failed => none

/-- The parts of a cookie that is not expired. -/
def current? (cookie : String) (now : Int) : Option (String × Int × String) :=
  match parse? cookie with
  | none => none
  | some (uid, expires, digest) =>
    match Text.ranged? .i64 expires with
    | none => none
    | some e => if e < now then none else some (uid, e, digest)

/-- The user of a cookie that is valid at a time. A failing directory is noted in the log. -/
def resolve (users : Directory) (cookie secret : String) (now : Int) :
    Action (Option SessionUser) :=
  match current? cookie now with
  | none => .done none
  | some (uid, expires, digest) => do
    let found ← users uid
    if found = .failed then Action.log .lookupFailed
    return verify uid digest expires secret found

/-- The header that sets a cookie for a time. -/
def setting (name value : String) (maxAge : Int) : String :=
  name ++ "=" ++ value ++ "; Max-Age=" ++ Text.ofInt maxAge ++ "; Path=/; HttpOnly"

def pair? (segment : List Char) : Option (List Char × List Char) :=
  Text.splitOnce '=' (Text.trimChars segment)

/-- The value of the first pair with a name. -/
def valueOf? (name : List Char) : List (List Char) → Option (List Char)
  | [] => none
  | segment :: rest =>
    match pair? segment with
    | some (k, v) => if k = name then some v else valueOf? name rest
    | none => valueOf? name rest

def valueIn? (header name : String) : Option String :=
  (valueOf? name.toList (Text.splitAll ';' header.toList)).map String.ofList

/-- The cookie of a name in the headers of a request: of the readable cookie headers the first that
holds the name decides. An empty value counts as none. -/
def tokenIn? (headers : List Http.Header) (name : String) : Option String :=
  let texts := (headers.filter fun h => h.name = "cookie").filterMap fun h => Http.readable? h.value
  (texts.findSome? fun text => valueIn? text name).bind fun value =>
    let value := Text.trim value
    if value.isEmpty then none else some value

end Cookie

/-- A directory that is a list of ids and what is known of each. -/
def Directory.ofList (users : List (String × Lookup)) : Directory := fun uid =>
  .done (((users.find? fun u => u.1 = uid).map (·.2)).getD .unknown)

end Weblog
