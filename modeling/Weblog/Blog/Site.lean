import Weblog.Blog.Routes
import Weblog.Route.Registry
import Weblog.Site

/-!
# Weblog.Blog.Site

The blog as a site.
-/

namespace Weblog
namespace Blog

def table (s : Settings) : RouteTable := .ofRoutes (routes s)

def site (s : Settings) (users : Directory) (render : Renderer) : Site :=
  ⟨users, s.session, render, table s⟩

end Blog
end Weblog
