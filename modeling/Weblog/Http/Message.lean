import Weblog.Text.Split
import Weblog.Text.Utf8

/-!
# Weblog.Http.Message

Requests and responses.

* `Method`, `Uri`, `Header`: the parts of a message.
* `readable?`: the text of a header value, if it is visible ASCII, spaces and tabs.
* `headerValue?`: a text as a header value, if it holds no control characters.
* `Request`, `Response`: messages.
-/

namespace Weblog
namespace Http

/-- A request method. -/
inductive Method where
  | get
  | post
  | head
  | other (name : String)
  deriving DecidableEq, Repr

def Method.ofName : String → Method
  | "GET" => .get
  | "POST" => .post
  | "HEAD" => .head
  | unknown => .other unknown

def Method.text : Method → String
  | .get => "GET"
  | .post => "POST"
  | .head => "HEAD"
  | .other name => name

/-- The target of a request. -/
structure Uri where
  /-- The scheme and the authority, where the target names them. -/
  origin : String
  /-- The path, with its escapes. -/
  path : String
  /-- What stands after the first question mark. -/
  query : Option String
  deriving DecidableEq, Repr

namespace Uri

/-- A target as it is shown. -/
def text (u : Uri) : String :=
  u.origin ++ u.path ++ (match u.query with | some q => "?" ++ q | none => "")

def withPath (u : Uri) (path : String) : Uri := { u with path }

/-- A scheme as it is shown: the two of the web are in lower case. -/
def shownScheme (scheme : List Char) : List Char :=
  let small := scheme.map Char.toLower
  if small = "http".toList ∨ small = "https".toList then small else scheme

/-- The scheme and authority before a path, and the rest. -/
def splitOrigin (cs : List Char) : List Char × List Char :=
  match cs with
  | '/' :: _ => ([], cs)
  | _ =>
    match Text.cutAt [':', '/', '/'] cs with
    | some (scheme, _ :: _ :: _ :: rest) =>
      let authority := rest.takeWhile fun c => c ≠ '/' ∧ c ≠ '?'
      (shownScheme scheme ++ [':', '/', '/'] ++ authority, rest.drop authority.length)
    | _ => ([], cs)

/-- Reads a target: a path, or a path after scheme and authority. A fragment is left out, and an
empty path is the root. -/
def ofText (s : String) : Uri :=
  let (origin, rest) := splitOrigin (s.toList.takeWhile (· ≠ '#'))
  let (path, query) := match Text.splitOnce '?' rest with
    | some (path, query) => (path, some query)
    | none => (rest, none)
  let path := if path.isEmpty then ['/'] else path
  ⟨String.ofList origin, String.ofList path, query.map String.ofList⟩

end Uri

/-- A header; its name is in lower case. -/
structure Header where
  name : String
  value : List UInt8
  deriving DecidableEq, Repr

def isHeaderOctet (b : UInt8) : Bool := (32 ≤ b.toNat && b.toNat ≠ 127) || b.toNat == 9

/-- An octet of a header value that is readable as text. -/
def isVisible (b : UInt8) : Bool := (32 ≤ b.toNat && b.toNat < 127) || b.toNat == 9

/-- The text of a header value, if every octet is readable. -/
def readable? (value : List UInt8) : Option String :=
  if value.all isVisible then some (String.ofList (value.map fun b => Char.ofNat b.toNat)) else none

/-- A text as a header value, if it may be one. -/
def headerValue? (text : String) : Option (List UInt8) :=
  let octets := Text.Utf8.bytesOf text
  if octets.all isHeaderOctet then some octets else none

/-- ASCII letters in lower case, all else unchanged. -/
def lower (s : String) : String := String.ofList (s.toList.map Char.toLower)

def Header.make (name : String) (value : List UInt8) : Header := ⟨lower name, value⟩

/-- The first header of a name, given in any case. -/
def header? (name : String) (headers : List Header) : Option (List UInt8) :=
  (headers.find? fun h => h.name = lower name).map (·.value)

/-- The text of the first header of a name, if it is readable. -/
def headerText? (name : String) (headers : List Header) : Option String :=
  (header? name headers).bind readable?

/-- A request. -/
structure Request where
  method : Method
  uri : Uri
  headers : List Header
  body : ByteArray
  /-- How many octets of the body may be read. -/
  limit : Nat

def Request.make (method : Method) (uri : Uri) (headers : List Header) (body : ByteArray) :
    Request :=
  ⟨method, uri, headers, body, body.size⟩

/-- A response. -/
structure Response where
  status : Nat
  headers : List Header
  body : List UInt8
  deriving DecidableEq, Repr

namespace Response

/-- A response without body. -/
def empty (status : Nat) : Response := ⟨status, [], []⟩

def typed (status : Nat) (contentType : String) (body : List UInt8) : Response :=
  ⟨status, [⟨"content-type", Text.Utf8.bytesOf contentType⟩], body⟩

def text (status : Nat) (contentType body : String) : Response :=
  typed status contentType (Text.Utf8.bytesOf body)

def withHeader (r : Response) (name : String) (value : List UInt8) : Response :=
  { r with headers := r.headers ++ [⟨name, value⟩] }

def redirect (location : List UInt8) : Response :=
  ⟨302, [⟨"location", location⟩], []⟩

def notAllowed (methods : String) : Response :=
  (empty 405).withHeader "allow" (Text.Utf8.bytesOf methods)

/-- The response without its body where the method is HEAD. -/
def forMethod (m : Method) (r : Response) : Response :=
  if m = .head then { r with body := [] } else r

end Response
end Http
end Weblog
