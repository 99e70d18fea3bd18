import Weblog.Blog.Stamp
import Weblog.Json.Members
import Weblog.Session.Cookie
import Weblog.Store.Entity

/-!
# Weblog.Blog.Entities

What the blog stores: users, posts and comments.

* `User`, `Post`, `Comment`: the entities. The id and the time of creation are absent until an
  entity is saved, and are then generated.
* `Entity` instances: the model of each, and the fields that stand for its attributes.
* `User.masked`, `User.sessionUser`: a user without the stored password hash.
-/

namespace Weblog

/-- A user. -/
structure User where
  id : Option String := none
  email : String := ""
  passwd : String := ""
  admin : Bool := false
  name : String := ""
  image : String := ""
  createdAt : Option Binary64 := none
  deriving DecidableEq, Repr

/-- A post. -/
structure Post where
  id : Option String := none
  userId : String := ""
  userName : String := ""
  userImage : String := ""
  name : String := ""
  summary : String := ""
  content : String := ""
  createdAt : Option Binary64 := none
  deriving DecidableEq, Repr

/-- A comment on a post. -/
structure Comment where
  id : Option String := none
  blogId : String := ""
  userId : String := ""
  userName : String := ""
  userImage : String := ""
  content : String := ""
  createdAt : Option Binary64 := none
  deriving DecidableEq, Repr

namespace Blog

def idField : Field :=
  ((Field.string "id").primaryKey.generatedBy (Json.string <$> Stamp.newId)).typed "VARCHAR(50)"

def createdAtField : Field :=
  (Field.float "created_at").generatedBy (Json.ofFloat <$> Stamp.timestamp)

def shortText (attr : String) (length : Nat) : Field :=
  (Field.string attr).typed ("VARCHAR(" ++ toString length ++ ")")

/-- The fields of an entity: the given ones, with the id and the time of creation where they are
there. -/
def entityFields (id : Option String) (createdAt : Option Binary64) (rest : List (String × Json)) :
    Fields :=
  Fields.ofList ((id.map fun s => ("id", Json.string s)).toList ++ rest ++
    (createdAt.map fun x => ("created_at", Json.ofFloat x)).toList)

end Blog

namespace User

/-- The model of users. -/
def declaration : Declaration where
  model := "User"
  table := some "users"
  fields := [Blog.idField, Blog.shortText "email" 50, Blog.shortText "passwd" 64,
    Field.boolean "admin", Blog.shortText "name" 50, Blog.shortText "image" 500,
    Blog.createdAtField]

def toFields (u : User) : Fields :=
  Blog.entityFields u.id u.createdAt
    [("email", .string u.email), ("passwd", .string u.passwd), ("admin", .bool u.admin),
      ("name", .string u.name), ("image", .string u.image)]

/-- The user of a JSON value; unless told otherwise, no administrator. -/
def ofJson? (v : Json) : Option User := do
  let m ← v.members? ["id", "email", "passwd", "admin", "name", "image", "created_at"]
  return {
    id := ← Json.optional Json.readText m "id"
    email := ← Json.required Json.readText m "email"
    passwd := ← Json.required Json.readText m "passwd"
    admin := ← Json.orElse Json.readBool false m "admin"
    name := ← Json.required Json.readText m "name"
    image := ← Json.required Json.readText m "image"
    createdAt := ← Json.optional Json.readFloat m "created_at" }

instance : Entity User := ⟨declaration.build, toFields, ofJson?⟩

/-- What stands in place of the stored password hash. -/
def mask : String := "******"

/-- The user without the stored password hash. -/
def masked (u : User) : User := { u with passwd := mask }

/-- The user as handlers and pages see it. -/
def sessionUser (u : User) : SessionUser := ⟨u.id.getD "", u.name, u.email, u.image, u.admin⟩

end User

namespace Post

/-- The model of posts. -/
def declaration : Declaration where
  model := "Blog"
  table := some "blogs"
  fields := [Blog.idField, Blog.shortText "user_id" 50, Blog.shortText "user_name" 50,
    Blog.shortText "user_image" 500, Blog.shortText "name" 50, Blog.shortText "summary" 200,
    Field.text "content", Blog.createdAtField]

def toFields (p : Post) : Fields :=
  Blog.entityFields p.id p.createdAt
    [("user_id", .string p.userId), ("user_name", .string p.userName),
      ("user_image", .string p.userImage), ("name", .string p.name),
      ("summary", .string p.summary), ("content", .string p.content)]

def ofJson? (v : Json) : Option Post := do
  let m ← v.members? ["id", "user_id", "user_name", "user_image", "name", "summary", "content",
    "created_at"]
  return {
    id := ← Json.optional Json.readText m "id"
    userId := ← Json.required Json.readText m "user_id"
    userName := ← Json.required Json.readText m "user_name"
    userImage := ← Json.required Json.readText m "user_image"
    name := ← Json.required Json.readText m "name"
    summary := ← Json.required Json.readText m "summary"
    content := ← Json.required Json.readText m "content"
    createdAt := ← Json.optional Json.readFloat m "created_at" }

instance : Entity Post := ⟨declaration.build, toFields, ofJson?⟩

end Post

namespace Comment

/-- The model of comments. -/
def declaration : Declaration where
  model := "Comment"
  table := some "comments"
  fields := [Blog.idField, Blog.shortText "blog_id" 50, Blog.shortText "user_id" 50,
    Blog.shortText "user_name" 50, Blog.shortText "user_image" 500, Field.text "content",
    Blog.createdAtField]

def toFields (c : Comment) : Fields :=
  Blog.entityFields c.id c.createdAt
    [("blog_id", .string c.blogId), ("user_id", .string c.userId), ("user_name", .string c.userName),
      ("user_image", .string c.userImage), ("content", .string c.content)]

def ofJson? (v : Json) : Option Comment := do
  let m ← v.members? ["id", "blog_id", "user_id", "user_name", "user_image", "content",
    "created_at"]
  return {
    id := ← Json.optional Json.readText m "id"
    blogId := ← Json.required Json.readText m "blog_id"
    userId := ← Json.required Json.readText m "user_id"
    userName := ← Json.required Json.readText m "user_name"
    userImage := ← Json.required Json.readText m "user_image"
    content := ← Json.required Json.readText m "content"
    createdAt := ← Json.optional Json.readFloat m "created_at" }

instance : Entity Comment := ⟨declaration.build, toFields, ofJson?⟩

end Comment

def Blog.schemas : Except SchemaError (List Schema) :=
  [User.declaration, Post.declaration, Comment.declaration].mapM Declaration.build

end Weblog
