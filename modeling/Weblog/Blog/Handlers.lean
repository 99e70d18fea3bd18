import Weblog.Blog.Entities
import Weblog.Page
import Weblog.Route.Table

/-!
# Weblog.Blog.Handlers

What the handlers of the blog share.

* `Settings`: what they are configured with.
* `stored`: what they ask of the database.
* `requireAdmin`, `nonBlank`: checks of the caller and of an argument.
* `countOf`, `listing`: how many entities there are, and one page of them.
-/

namespace Weblog
namespace Blog

/-- What the handlers are configured with. -/
structure Settings where
  /-- Writes are not wrapped in transactions. -/
  autocommit : Bool
  session : SessionConfig

/-- What is asked of the database, with its errors among all others. -/
def stored {α : Type} (x : Fallible StoreError α) : Fallible AppError α :=
  Fallible.mapError .store x

def refuse {α : Type} (e : ApiError) : Fallible AppError α := throw (.api e)

/-- The user of the session, who must be an administrator. -/
def requireAdmin (c : Call) : Fallible AppError SessionUser :=
  match c.user with
  | some u => if u.admin then pure u else refuse (.permission "")
  | none => refuse (.permission "")

/-- An argument that must be there. -/
def required (c : Call) (name : String) : Fallible AppError String :=
  Fallible.ofExcept (c.required name)

/-- An argument that must be there and not be blank, without the white space at its ends. -/
def nonBlank (c : Call) (name : String) : Fallible AppError String := do
  let s := Text.trim (← required c name)
  if s.isEmpty then refuse (.value name (name ++ " cannot be empty.")) else return s

def countOf (α : Type) [Entity α] : Fallible AppError Int := do
  let n ← stored (Entity.findNumber α "COUNT(id)" none [])
  return (n.bind Json.int64?).getD 0

/-- The page that a call asks for among so many items. -/
def askedPage (c : Call) (itemCount : Int) : Page :=
  Page.make itemCount (pageIndex (c.textOr "page" "1"))

/-- One page of entities in an order; nothing is asked for where there are none. -/
def listing (α : Type) [Entity α] (order : String) (c : Call) : Fallible AppError (Page × List α) := do
  let n ← countOf α
  let page := askedPage c n
  if n = 0 then return (page, [])
  else return (page, ← stored (Entity.findAll α { order := some order, limit := some page.limit }))

def entityJson {α : Type} [Entity α] (v : α) : Json := .object (Entity.encode v)

def listingJson {α : Type} [Entity α] (name : String) (page : Page) (items : List α) : Json :=
  .ofFields [("page", page.toJson), (name, .array (items.map entityJson))]

/-- The entity with an id that a call names, or the error that there is none. -/
def findNamed (α : Type) [Entity α] (resource label id : String) : Fallible AppError α := do
  match ← stored (Entity.find α (.string id)) with
  | some v => return v
  | none => refuse (.notFound resource (label ++ " " ++ id ++ " not found"))

end Blog
end Weblog
