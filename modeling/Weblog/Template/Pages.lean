import Weblog.Reply
import Weblog.Template.Basic

/-!
# Weblog.Template.Pages

The pages of the site.

* `layout`: what all pages have in common: head, navigation, and places for a title and a content.
* `Page.find?`: the page of a name.
* `render`: the text of a page; `renderer` reads the clock for it.
-/

namespace Weblog
namespace Template

def sessionUser : Expr := .var Reply.userKey

/-- What all pages have in common. -/
def layout : List Node :=
  [.text ("<!DOCTYPE html>\n<html>\n<head>\n  <meta charset=\"utf-8\">\n  <title>"),
   .place "title" [.text "Awesome Blog"],
   .text ("</title>\n  <script src=\"/static/js/awesome.js\"></script>\n</head>\n<body>\n" ++
     "  <nav>\n    <a href=\"/\">Blogs</a>\n    "),
   .cond sessionUser
     [.text "\n      <span>", .value (.attr sessionUser "name"), .text "</span>\n      ",
      .cond (.attr sessionUser "admin") [.text "<a href=\"/manage/blogs\">Manage</a>"] [],
      .text "\n      <a href=\"/signout\">Sign out</a>\n    "]
     [.text ("\n      <a href=\"/signin\">Sign in</a>\n" ++
        "      <a href=\"/register\">Register</a>\n    ")],
   .text "\n  </nav>\n  <main>",
   .place "content" [],
   .text "</main>\n</body>\n</html>"]

/-- What a page puts into the places of the layout. -/
abbrev Blocks : Type := List (String × List Node)

def registerPage : Blocks :=
  [("title", [.text "Register"]),
   ("content",
    [.text ("\n  <form id=\"register\" data-action=\"/api/users\">\n" ++
      "    <input name=\"name\" placeholder=\"Name\">\n" ++
      "    <input name=\"email\" type=\"email\" placeholder=\"Email\">\n" ++
      "    <input name=\"passwd\" type=\"password\" placeholder=\"Password\">\n" ++
      "    <button type=\"submit\">Register</button>\n  </form>\n")])]

def signinPage : Blocks :=
  [("title", [.text "Sign in"]),
   ("content",
    [.text ("\n  <form id=\"signin\" data-action=\"/api/authenticate\">\n" ++
      "    <input name=\"email\" type=\"email\" placeholder=\"Email\">\n" ++
      "    <input name=\"passwd\" type=\"password\" placeholder=\"Password\">\n" ++
      "    <button type=\"submit\">Sign in</button>\n  </form>\n")])]

def article : List Node :=
  [.text "\n    <article>\n      <h2>", .value (.attr (.var "blog") "name"),
   .text "</h2>\n      <p class=\"meta\">by ", .value (.attr (.var "blog") "user_name"),
   .text ", ", .value (.age (.attr (.var "blog") "created_at")),
   .text "</p>\n      <p>", .value (.attr (.var "blog") "summary"),
   .text "</p>\n    </article>\n  "]

def pageAttr (name : String) : Expr := .attr (.var "page") name

/-- The list of posts. -/
def blogsPage : Blocks :=
  [("content",
    [.text "\n  ",
     .each "blog" (.var "blogs") article [.text "\n    <p>No posts yet.</p>\n  "],
     .text "\n  <p class=\"pager\">\n    ",
     .cond (pageAttr "has_previous")
       [.text "<a href=\"/?page=", .value (.plus (pageAttr "page_index") (-1)),
        .text "\">Newer</a>"] [],
     .text "\n    Page ", .value (pageAttr "page_index"), .text " of ",
     .value (pageAttr "page_count"), .text "\n    ",
     .cond (pageAttr "has_next")
       [.text "<a href=\"/?page=", .value (.plus (pageAttr "page_index") 1),
        .text "\">Older</a>"] [],
     .text "\n  </p>\n"])]

/-- The form of a post. -/
def editPage : Blocks :=
  [("title", [.text "Edit blog"]),
   ("content",
    [.text "\n  <form id=\"blog-edit\" data-id=\"", .value (.var "id"),
     .text "\" data-action=\"", .value (.var "action"),
     .text ("\">\n    <input name=\"name\" placeholder=\"Title\">\n" ++
       "    <textarea name=\"summary\" rows=\"3\" placeholder=\"Summary\"></textarea>\n" ++
       "    <textarea name=\"content\" rows=\"12\" placeholder=\"Content\"></textarea>\n" ++
       "    <button type=\"submit\">Save</button>\n  </form>\n")])]

/-- A list for administrators, which is loaded from a source. -/
def managePage (title id source : String) : Blocks :=
  [("title", [.text title]),
   ("content",
    [.text ("\n  <div id=\"" ++ id ++ "\" data-source=\"" ++ source ++ "\" data-page=\""),
     .value (.var "page_index"), .text "\"></div>\n"])]

/-- The page of a name; the layout is one as well. -/
def blocks? : String → Option Blocks
  | "base.html" => some []
  | "blogs.html" => some blogsPage
  | "manage_blog_edit.html" => some editPage
  | "manage_blogs.html" => some (managePage "Manage blogs" "manage-blogs" "/api/blogs")
  | "manage_comments.html" => some (managePage "Manage comments" "manage-comments" "/api/comments")
  | "manage_users.html" => some (managePage "Manage users" "manage-users" "/api/users")
  | "register.html" => some registerPage
  | "signin.html" => some signinPage
  | _ => none

/-- The page of a name; slashes before the name are left out. -/
def find? (name : String) : Option Blocks :=
  blocks? (String.ofList (name.toList.dropWhile (· = '/')))

def fillings (blocks : Blocks) : Fillings := fun name =>
  (blocks.find? fun b => b.1 = name).map fun b s => renderAll (fun _ => none) s b.2

def render (name : String) (context : Json) (now : Int) : Except RenderError String :=
  match find? name with
  | none => .error (.missing name)
  | some blocks =>
    match renderAll (fillings blocks) (.ofContext context now) layout with
    | some text => .ok text
    | none => .error (.failed name)

def renderer : Renderer := fun name context => do
  let now ← Fallible.lift Action.seconds
  Fallible.ofExcept ((render name context now).mapError .template)

end Template
end Weblog
