import Weblog.Blog.Accounts
import Weblog.Blog.Posts

/-!
# Weblog.Blog.Routes

The pages of the blog and all of its routes.
-/

namespace Weblog
namespace Blog

/-- The page with the newest posts. -/
def indexPage : Handler := fun c => do
  let (page, posts) ← listing Post "created_at DESC" c
  return .page "blogs.html" (listingJson "blogs" page posts)

def plainPage (name : String) : Handler := fun _ => pure (.page name (.object []))

/-- The form of a post under an address that takes it. -/
def editPage (id action : String) : Reply :=
  .page "manage_blog_edit.html" (.ofFields [("id", .string id), ("action", .string action)])

/-- The form of a new post. -/
def createPage : Handler := fun _ => pure (editPage "" "/api/blogs")

/-- The form of a post that is there. -/
def updatePage : Handler := fun c => do
  let id ← required c "id"
  return editPage id ("/api/blogs/" ++ id)

/-- A list for administrators, which loads its own page. -/
def managePage (name : String) : Handler := fun c =>
  pure (.page name (.ofFields [("page_index", .ofInt (pageIndex (c.textOr "page" "1")))]))

/-- The routes of the blog in the order of their registration. -/
def routes (s : Settings) : List Route :=
  [(Route.get "/" indexPage).keywordDefault "page",
   Route.get "/register" (plainPage "register.html"),
   Route.get "/signin" (plainPage "signin.html"),
   (Route.get "/signout" (signout s)).request,
   (((Route.post "/api/users" (register s)).keyword "email").keyword "name").keyword "passwd",
   ((Route.post "/api/authenticate" (authenticate s)).keyword "email").keyword "passwd",
   (Route.get "/api/users" listUsers).keywordDefault "page",
   Route.get "/manage/blogs/create" createPage,
   (Route.get "/manage/blogs" (managePage "manage_blogs.html")).keywordDefault "page",
   (Route.get "/manage/blogs/edit" updatePage).keyword "id",
   (Route.get "/manage/comments" (managePage "manage_comments.html")).keywordDefault "page",
   (Route.get "/manage/users" (managePage "manage_users.html")).keywordDefault "page",
   (Route.get "/api/blogs" listPosts).keywordDefault "page",
   ((((Route.post "/api/blogs" (createPost s)).request.keyword "name").keyword
     "summary").keyword "content"),
   (Route.get "/api/blogs/\x7bid\x7d" getPost).keyword "id",
   ((((Route.post "/api/blogs/\x7bid\x7d" (updatePost s)).request.keyword "id").keyword
     "name").keyword "summary").keyword "content",
   (Route.post "/api/blogs/\x7bid\x7d/delete" (deletePost s)).request.keyword "id",
   (Route.get "/api/comments" listComments).keywordDefault "page",
   ((Route.post "/api/blogs/\x7bid\x7d/comments" (createComment s)).request.keyword "id").keyword
     "content",
   (Route.post "/api/comments/\x7bid\x7d/delete" (deleteComment s)).request.keyword "id"]

end Blog
end Weblog
