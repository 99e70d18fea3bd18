import Weblog.Proofs.Blog.Parameters
import Weblog.Proofs.Head

/-!
# Weblog.Proofs.Blog.Heads

Requests to the blog for the head of a response.

* `ignoresMethod_of_mem_routes`: no page of the blog looks at the method of its request.
* `heads_of_blog`: so the HEAD for a page whose query names nothing but parameters of its path has
  the status and the headers of the GET.
-/

namespace Weblog
namespace Blog

variable {s : Settings} {users : Directory} {render : Renderer} {r : Http.Request} {route : Route}
  {captured : List (List Char)} {es : List Exchange} {response : Http.Response}

/-- Of the request signing out reads only where the visitor comes from. -/
theorem signout_of_method (s : Settings) (c : Call) (m : Http.Method) :
    signout s { c with request := c.request.map fun x => { x with method := m } } =
      signout s c := by
  have hheader : Call.header { c with request := c.request.map fun x => { x with method := m } }
      "referer" = c.header "referer" := by
    rw [Call.header, Call.header]
    cases c.request <;> rfl
  rw [signout, signout, hheader]

theorem ignoresMethod_of_mem_routes (hroute : route ∈ routes s) (hverb : route.verb = .get) :
    (entryOf route).IgnoresMethod := by
  intro c m
  simp only [routes, List.mem_cons, List.not_mem_nil, or_false] at hroute
  rcases hroute with rfl | rfl | rfl | rfl | rfl | rfl | rfl | rfl | rfl | rfl | rfl | rfl | rfl |
    rfl | rfl | rfl | rfl | rfl | rfl | rfl
  case inr.inr.inr.inl => exact signout_of_method s c m
  all_goals first | rfl | cases hverb

/-- For every GET to the blog that is matched to one of its pages: where the names that the page
sees of the query are those of parameters of the path, as they are without a query, the HEAD has its
status and its headers and asks the same of the world, but for notes in the log. -/
theorem heads_of_blog (hroute : route ∈ routes s)
    (hmatches : (site s users render).Matches r (entryOf route) captured)
    (hmethod : r.method = .get)
    (hnames : ∀ name, Fields.has name ((entryOf route).seen r) = true →
      name ∈ ((entryOf route).parameters captured).map Prod.fst)
    (hruns : Action.Runs ((site s users render).serve r) es response) :
    ∃ ds ns hs, es = ds ++ ns ++ hs ∧ (∀ x ∈ ns, x.effect = .log .duplicateArgument) ∧
      Action.Runs ((site s users render).serve r.asHead) (ds ++ hs) response.bare := by
  have hverb : route.verb = .get := by
    cases hroute : route.verb with
    | get => rfl
    | post =>
      have hpost := hmatches.method_eq hroute
      rw [hmethod] at hpost
      cases hpost
  exact Site.runs_asHead hmatches hmethod (ignoresMethod_of_mem_routes hroute hverb) hnames hruns

end Blog
end Weblog
