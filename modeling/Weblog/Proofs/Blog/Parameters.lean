import Weblog.Proofs.Blog.Site
import Weblog.Proofs.Gate
import Weblog.Proofs.Route.Answer
import Weblog.Proofs.Route.Captured

/-!
# Weblog.Proofs.Blog.Parameters

What a handler finds under the name of a parameter of its path.

* `parameter_of_matched`: where every value in the path is decoded, it is the text of the segment at
  the place of the parameter. Where one is not, the path gives no parameters at all, and it is what
  the handler may see of the input under that name.
* `matches_of_lookup`: a request for the path of a route of the blog is matched to its entry.
* `parameter_of_undecoded`: so a query can name the post that a request leads to.
-/

namespace Weblog

open PathPart

/-- For every table of registered routes and every request that the router matches to an entry with
a parameter in a segment of its own, the last one of this name, the handler is called with the
arguments that are gathered, and not otherwise. Where all values in the path are decoded, its
argument is the decoded text of the segment at the place of the parameter, whatever the input holds.
Where one of them is not, its arguments are what it may see of the input. -/
theorem Site.parameter_of_matched {s : Site} {declared : List Route}
    (hroutes : s.routes = .ofRoutes declared) {r : Http.Request} {e : Entry}
    {captured : List (List Char)} (hmatched : s.Matches r e captured) {i : Nat} {p : List Char}
    (hown : (segments (read e.path))[i]? = some [.param p])
    (hlast : p ∉ names ((segments (read e.path)).drop (i + 1)).flatten)
    (user : Option SessionUser) (r' : Http.Request) :
    ∃ route ∈ declared, route.Yields e ∧
      s.behind r user r' = ((e.spec.arguments (e.parameters captured) r').run >>= fun outcome =>
        match outcome with
        | .error err => err.respond
        | .ok args => e.answer user s.render r' args) ∧
      ∃ value, (Text.splitAll '/' r.uri.path.toList)[i]? = some value ∧
        ∀ es args, Action.Runs (e.spec.arguments (e.parameters captured) r').run es (.ok args) →
          ((∀ v ∈ captured, (decode? v).isSome = true) → ∃ text, decode? value = some text ∧
            Fields.get? (String.ofList p) args = some (.string text)) ∧
          ((∃ v ∈ captured, decode? v = none) → ∃ fs, route.signature.decoded r' = .ok fs ∧
            args = route.signature.admitted fs) := by
  obtain ⟨hdistinct, hdeclared⟩ := RouteTable.registered_ofRoutes declared
  rw [← hroutes] at hdistinct hdeclared
  obtain ⟨route, hroute, hyields⟩ : ∃ route ∈ declared, route.Yields e := by
    obtain ⟨page, handlers, -, hfind, hendpoint⟩ := hmatched.found
    have hmem := (matches_of_find? hdistinct hfind hendpoint).1
    exact hdeclared e hmem
  obtain ⟨k, value, hname, hvalue, hsegment, hafter⟩ :=
    hmatched.fits.captured_segment (endsAtRest_read e.path) hown
  have hbehind := (hmatched.behind_eq user r').trans (Entry.dispatch_eq e user s.render _ r')
  refine ⟨route, hroute, hyields, hbehind, value, hsegment, ?_⟩
  intro es args hargs
  obtain ⟨fs, hdecoded, rfl⟩ := ArgSpec.of_runs_arguments hyields.inspected hargs
  constructor
  · intro hall
    obtain ⟨before, text, after, htext, hpath, hnone⟩ :=
      exists_decodeAll hname hvalue (hafter ▸ hlast) hall
    refine ⟨text, htext, ?_⟩
    rw [Entry.parameters, hpath]
    exact Arguments.get?_overlaid_last hnone before text _
  · rintro ⟨v, hv, hundecoded⟩
    obtain ⟨j, hj, rfl⟩ := List.mem_iff_getElem.1 hv
    have hlength := hmatched.fits.length_eq (endsAtRest_read e.path)
    have hpair : ((names (read e.path))[j], captured[j]) ∈ (names (read e.path)).zip captured :=
      List.mem_iff_getElem.2 ⟨j, by rw [List.length_zip]; omega, List.getElem_zip⟩
    refine ⟨fs, hdecoded, ?_⟩
    rw [Entry.parameters, decodeAll_eq_nil hpair hundecoded]
    rfl

namespace Blog

variable {s : Settings} {users : Directory} {render : Renderer}

theorem matches_of_lookup {route : Route} (hroute : route ∈ routes s)
    {path : String} (hkept : keptPath route.pattern = path)
    (hpage : CommonPage.ofPath? path = none) {r : Http.Request}
    (hmethod : route.verb = .get ∧ r.method = .get ∨ route.verb = .post ∧ r.method = .post)
    {captured : List (List Char)}
    (hlookup : Branch.find? (Site.labels paths) r.uri.path.toList = some (some path, captured)) :
    (site s users render).Matches r (entryOf route) captured := by
  subst hkept
  have hentry : entryOf route ∈ table s := table_eq s ▸ List.mem_map_of_mem hroute
  refine Site.matches_of_label nodup_key_table hentry hpage hmethod ?_
  rw [map_path_resources]
  exact hlookup

/-- The route that shows a post. -/
def postRoute : Route := (Route.get "/api/blogs/\x7bid\x7d" getPost).keyword "id"

/-- A blog that nobody is signed in to. -/
def openSite : Site := site ⟨false, "", "", 0⟩ (fun _ => .done .unknown) fun _ _ => pure ""

def postRequest (path query : String) : Http.Request :=
  .make .get ⟨"", path, some query⟩ [] .empty

theorem inspect_postRoute :
    postRoute.signature.inspect postRoute.pattern = .ok (entryOf postRoute).spec := rfl

theorem path_postRoute : (entryOf postRoute).path = "/api/blogs/:id" := by decide +kernel

theorem matches_postRoute {path query : String} {captured : List (List Char)}
    (hlookup : Branch.find? (Site.labels paths) path.toList =
      some (some "/api/blogs/:id", captured)) :
    openSite.Matches (postRequest path query) (entryOf postRoute) captured :=
  matches_of_lookup (List.mem_iff_getElem?.2 ⟨14, rfl⟩) path_postRoute (by decide)
    (.inl ⟨rfl, rfl⟩) hlookup

theorem parameter_of_matched_post :
    openSite.Matches (postRequest "/api/blogs/7" "id=8") (entryOf postRoute) [['7']] ∧
      ∃ es args, Action.Runs ((entryOf postRoute).spec.arguments
          ((entryOf postRoute).parameters [['7']]) (postRequest "/api/blogs/7" "id=8")).run es
            (.ok args) ∧
        Fields.get? "id" args = some (.string "7") := by
  have hmatched : openSite.Matches (postRequest "/api/blogs/7" "id=8") (entryOf postRoute)
      [['7']] := matches_postRoute (by rw [paths_eq]; decide +kernel)
  have hpath : (entryOf postRoute).parameters [['7']] = [("id", "7")] := by
    rw [Entry.parameters, path_postRoute]
    decide +kernel
  have hruns : Action.Runs ((entryOf postRoute).spec.arguments
      ((entryOf postRoute).parameters [['7']]) (postRequest "/api/blogs/7" "id=8")).run
        [⟨.log .duplicateArgument, ()⟩] (.ok [("id", .string "7")]) := by
    rw [hpath]
    exact .ask .done
  have hroutes : openSite.routes = .ofRoutes (routes ⟨false, "", "", 0⟩) := rfl
  obtain ⟨route, -, -, -, value, hvalue, hargs⟩ := Site.parameter_of_matched hroutes hmatched
    (i := 3) (p := ['i', 'd']) (by rw [path_postRoute]; decide) (by rw [path_postRoute]; decide) none
    (postRequest "/api/blogs/7" "id=8")
  obtain ⟨text, htext, hget⟩ := (hargs _ _ hruns).1 (by decide +kernel)
  have hseven : (Text.splitAll '/' "/api/blogs/7".toList)[3]? = some ['7'] := by decide +kernel
  obtain rfl : value = ['7'] := Option.some.inj (hvalue.symm.trans hseven)
  obtain rfl : text = "7" := Option.some.inj (htext.symm.trans (by decide +kernel))
  exact ⟨hmatched, _, _, hruns, hget⟩

/-- An octet in the path that is not UTF-8 lets the query name the post. -/
theorem parameter_of_undecoded :
    openSite.Matches (postRequest "/api/blogs/%FF" "id=7") (entryOf postRoute) [['%', 'F', 'F']] ∧
      (segments (read (entryOf postRoute).path))[3]? = some [.param ['i', 'd']] ∧
      (Text.splitAll '/' "/api/blogs/%FF".toList)[3]? = some ['%', 'F', 'F'] ∧
      decode? ['%', 'F', 'F'] = none ∧
      openSite.behind (postRequest "/api/blogs/%FF" "id=7") none
          (postRequest "/api/blogs/%FF" "id=7") =
        (entryOf postRoute).answer none openSite.render (postRequest "/api/blogs/%FF" "id=7")
          [("id", .string "7")] := by
  have hmatched : openSite.Matches (postRequest "/api/blogs/%FF" "id=7") (entryOf postRoute)
      [['%', 'F', 'F']] := matches_postRoute (by rw [paths_eq]; decide +kernel)
  have hundecoded : decode? ['%', 'F', 'F'] = none := by decide +kernel
  have hdecoded : postRoute.signature.decoded (postRequest "/api/blogs/%FF" "id=7") =
      .ok [("id", .string "7")] := rfl
  refine ⟨hmatched, by rw [path_postRoute]; decide, by decide +kernel, hundecoded, ?_⟩
  rw [hmatched.behind_eq, Entry.parameters, decodeAll_eq_nil (p := (['i', 'd'], ['%', 'F', 'F']))
    (by rw [path_postRoute]; decide) hundecoded]
  exact Entry.dispatch_eq_answer inspect_postRoute hdecoded rfl

end Blog
end Weblog
