import Weblog.Http.Form
import Weblog.Http.Message

/-!
# Weblog.Files

The files that pages load beside themselves.

* `File`, `Files.all`: a file, and the ones there are.
* `Files.segments?`: the names on the way to a file, out of a requested path.
* `Files.response`: the response to a request for a file. A folder has no page of its own; without a
  slash at its end its address is answered with the one that has it.
-/

namespace Weblog

/-- A file in its folders. -/
structure File where
  path : List String
  contentType : String
  content : String
  deriving DecidableEq, Repr

namespace Files

def formHelpers : List String :=
  ["// Form submission helpers: the password is sent as its SHA-256 hex digest.",
   "async function sha256Hex(text) \x7b",
   "  const data = new TextEncoder().encode(text);",
   "  const digest = await crypto.subtle.digest('SHA-256', data);",
   "  return Array.from(new Uint8Array(digest)).map(b => b.toString(16).padStart(2, '0'))" ++
     ".join('');",
   "\x7d",
   "",
   "async function postJSON(url, body) \x7b",
   "  const resp = await fetch(url, \x7b",
   "    method: 'POST',",
   "    headers: \x7b 'Content-Type': 'application/json' \x7d,",
   "    body: JSON.stringify(body),",
   "  \x7d);",
   "  const data = await resp.json();",
   "  if (data && data.error) \x7b",
   "    throw data;",
   "  \x7d",
   "  return data;",
   "\x7d",
   "",
   "document.addEventListener('DOMContentLoaded', () => \x7b",
   "  document.querySelectorAll('form[data-action]').forEach(form => \x7b",
   "    form.addEventListener('submit', async event => \x7b",
   "      event.preventDefault();",
   "      const body = Object.fromEntries(new FormData(form).entries());",
   "      if (body.passwd) \x7b",
   "        body.passwd = await sha256Hex(body.email + ':' + body.passwd);",
   "      \x7d",
   "      try \x7b",
   "        await postJSON(form.dataset.action, body);",
   "        location.assign(form.id === 'blog-edit' ? '/manage/blogs' : '/');",
   "      \x7d catch (err) \x7b",
   "        alert(err.message || err.error);",
   "      \x7d",
   "    \x7d);",
   "  \x7d);",
   "\x7d);"]

/-- The text of lines, each with its end. -/
def ofLines (lines : List String) : String := String.join (lines.map (· ++ "\n"))

def all : List File := [⟨["js", "awesome.js"], "text/javascript", ofLines formHelpers⟩]

def find? (path : List String) : Option File := all.find? fun f => f.path = path

def isFolder (path : List String) : Bool :=
  all.any fun f => path.isPrefixOf f.path && path.length < f.path.length

/-- The path of the files among all paths. -/
def root : String := "/static"

def below (path : String) : List Char :=
  match path.toList.drop (root.length + 1) with
  | '/' :: rest => '/' :: rest
  | rest => '/' :: rest

/-- The names on the way to a file. Empty names and single dots lead nowhere, and no path leads
up. -/
def segments? (path : List Char) : Option (List String) :=
  let named := path.dropWhile (· = '/')
  match Text.Utf8.text? (Http.percentDecode (Text.Utf8.encode named)) with
  | none => none
  | some text =>
    let names := (Text.splitAll '/' text.toList).map String.ofList
    if text.toList.head? = some '/' || names.contains ".." then none
    else some (names.filter fun n => n ≠ "" ∧ n ≠ ".")

/-- A name that no file can have. -/
def isImpossible (name : String) : Bool :=
  name.toList.contains '\x00' || 255 < name.utf8ByteSize

def responseAt (target : Http.Uri) (path : List String) : Http.Response :=
  if path.any isImpossible then .empty 500
  else if isFolder path then
    let own := below target.path
    if own.getLast? = some '/' then .empty 404
    else
      let location := (target.withPath (String.ofList (own ++ ['/']))).text
      (Http.Response.empty 307).withHeader "location" (Text.Utf8.bytesOf location)
  else
    match find? path with
    | some f => .text 200 f.contentType f.content
    | none => .empty 404

def response (method : Http.Method) (target : Http.Uri) : Http.Response :=
  match method with
  | .get | .head =>
    match segments? (below target.path) with
    | some path => (responseAt target path).forMethod method
    | none => .empty 404
  | _ => .notAllowed "GET,HEAD"

end Files
end Weblog
