import Weblog.Blog.Handlers

/-!
# Weblog.Blog.Posts

The interface to posts and comments: lists, single entities, and the writes.
-/

namespace Weblog
namespace Blog

def findPost (id : String) : Fallible AppError Post := findNamed Post "Blog" "blog" id

/-- One page of posts, the newest first. -/
def listPosts : Handler := fun c => do
  let (page, posts) ← listing Post "created_at DESC" c
  return .ofJson (listingJson "blogs" page posts)

def getPost : Handler := fun c => do
  let post ← findPost (← required c "id")
  return .ofJson (entityJson post)

/-- Makes a post of the administrator who calls. -/
def createPost (s : Settings) : Handler := fun c => do
  let user ← requireAdmin c
  let name ← nonBlank c "name"
  let summary ← nonBlank c "summary"
  let content ← nonBlank c "content"
  let post : Post :=
    { userId := user.id, userName := user.name, userImage := user.image, name := name,
      summary := summary, content := content }
  let post ← stored (Entity.save s.autocommit post)
  return .ofJson (entityJson post)

/-- Gives a post another name, summary and content. -/
def updatePost (s : Settings) : Handler := fun c => do
  let _ ← requireAdmin c
  let post ← findPost (← required c "id")
  let name ← nonBlank c "name"
  let summary ← nonBlank c "summary"
  let content ← nonBlank c "content"
  let post := { post with name := name, summary := summary, content := content }
  stored (Entity.update s.autocommit post)
  return .ofJson (entityJson post)

def deleted (id : String) : Reply := .ofJson (.ofFields [("id", .string id)])

def deletePost (s : Settings) : Handler := fun c => do
  let _ ← requireAdmin c
  let id ← required c "id"
  let post ← findPost id
  stored (Entity.remove s.autocommit post)
  return deleted id

/-- One page of comments, the oldest first. -/
def listComments : Handler := fun c => do
  let (page, comments) ← listing Comment "created_at" c
  return .ofJson (listingJson "comments" page comments)

/-- The user of the session, who must be signed in. -/
def requireUser (c : Call) : Fallible AppError SessionUser :=
  match c.user with
  | some u => pure u
  | none => refuse (.permission "Please signin first.")

def createComment (s : Settings) : Handler := fun c => do
  let user ← requireUser c
  let content := Text.trim (c.textOr "content" "")
  if content.isEmpty then refuse (.value "content" "content cannot be empty.")
  else
    let id ← required c "id"
    let post ← findPost id
    let comment : Comment :=
      { blogId := post.id.getD id, userId := user.id, userName := user.name,
        userImage := user.image, content := content }
    let comment ← stored (Entity.save s.autocommit comment)
    return .ofJson (entityJson comment)

def deleteComment (s : Settings) : Handler := fun c => do
  let _ ← requireAdmin c
  let id ← required c "id"
  let comment ← findNamed Comment "Comment" "comment" id
  stored (Entity.remove s.autocommit comment)
  return deleted id

end Blog
end Weblog
