import Weblog.Proofs.Blog.Parameters
import Weblog.Proofs.Route.Delimited

/-!
# Weblog.Proofs.Blog.ParameterNames

The names of the parameters that a request is dispatched with, against those that the pattern of its
route has in braces.

* `Matches.names_parameters`, `Matches.parameters_eq_nil`: they are the names that the router reads
  in the path, or there are none, where a value is not decoded.
* `parameters_of_converted`: they are the names in braces exactly if the pieces of the pattern are
  delimited.
* `parameters_of_suffixed`: text behind a group becomes part of its name.
-/

namespace Weblog

open PathPart

namespace Site

variable {s : Site} {r : Http.Request} {e : Entry} {captured : List (List Char)}

theorem Matches.names_parameters (h : s.Matches r e captured)
    (hall : ∀ v ∈ captured, (decode? v).isSome = true) :
    (e.parameters captured).map Prod.fst = (names (read e.path)).map String.ofList := by
  have hlength := h.fits.length_eq (endsAtRest_read e.path)
  rw [Entry.parameters, decodeAll_eq_map fun p hp => hall p.2 (List.of_mem_zip hp).2]
  calc _ = (((names (read e.path)).zip captured).map Prod.fst).map String.ofList := by
        rw [List.map_map, List.map_map]
        rfl
    _ = _ := by rw [List.map_fst_zip (Nat.le_of_eq hlength.symm)]

theorem Matches.parameters_eq_nil (h : s.Matches r e captured)
    (hsome : ∃ v ∈ captured, decode? v = none) : e.parameters captured = [] := by
  obtain ⟨v, hv, hundecoded⟩ := hsome
  have hlength := h.fits.length_eq (endsAtRest_read e.path)
  rw [← List.map_snd_zip (Nat.le_of_eq hlength)] at hv
  obtain ⟨p, hp, rfl⟩ := List.mem_map.1 hv
  exact decodeAll_eq_nil hp hundecoded

end Site

namespace Pattern

/-- A pattern that has a path is spelled by pieces, and by no others. The names that the router
reads in the path are those in braces exactly if the pieces are delimited. So are, for every request
that is matched to an entry of this path, the names of the parameters that it is dispatched with,
unless a value is not decoded: then it is dispatched with none. -/
theorem parameters_of_converted {pattern path : String} (h : convert pattern = .ok path) :
    ∃ ps, Spells ps pattern ∧ (∀ qs, Spells qs pattern → qs = ps) ∧
      (PathPart.names (read path) = names ps ↔ Delimited ps) ∧
      ∀ (s : Site) (r : Http.Request) (e : Entry) (captured : List (List Char)), e.path = path →
        s.Matches r e captured →
          (∀ user r', s.behind r user r' =
            e.dispatch user s.render (e.parameters captured) r') ∧
          ((∀ v ∈ captured, (decode? v).isSome = true) →
            ((e.parameters captured).map Prod.fst = (names ps).map String.ofList ↔ Delimited ps)) ∧
          ((∃ v ∈ captured, decode? v = none) → e.parameters captured = []) := by
  obtain ⟨ps, hps, rfl⟩ := exists_spells_of_convert h
  have hnames := names_read_iff hps.wellFormed
  refine ⟨ps, hps, fun qs => hps.unique, hnames, ?_⟩
  intro s r e captured hentry hmatched
  refine ⟨hmatched.behind_eq, fun hall => ?_, hmatched.parameters_eq_nil⟩
  rw [hmatched.names_parameters hall, hentry, ← hnames]
  exact List.map_inj_right fun _ _ => String.ofList_injective

/-- The pieces of the pattern of a post. -/
def postPieces : List Piece := "/api/blogs/".toList.map .char ++ [.name ['i', 'd']]

theorem wellFormed_id : (Piece.name ['i', 'd']).WellFormed := isName_iff.1 rfl

theorem spells_postPieces : Spells postPieces Blog.postRoute.pattern where
  begins := by decide
  wellFormed := by
    refine List.forall_mem_append.2 ⟨wellFormed_of_not_mem (by decide) (by decide), ?_⟩
    exact List.forall_mem_singleton.2 wellFormed_id
  written_eq := by decide

theorem parameters_of_converted_post :
    convert Blog.postRoute.pattern = .ok "/api/blogs/:id" ∧
      Blog.openSite.Matches (Blog.postRequest "/api/blogs/7" "") (Blog.entryOf Blog.postRoute)
        [['7']] ∧
      ((Blog.entryOf Blog.postRoute).parameters [['7']]).map Prod.fst = ["id"] := by
  have hconverted : convert Blog.postRoute.pattern = .ok "/api/blogs/:id" := by decide +kernel
  have hmatched : Blog.openSite.Matches (Blog.postRequest "/api/blogs/7" "")
      (Blog.entryOf Blog.postRoute) [['7']] :=
    Blog.matches_postRoute (by rw [Blog.paths_eq]; decide +kernel)
  obtain ⟨ps, -, hunique, hnames, hserved⟩ := parameters_of_converted hconverted
  obtain rfl := hunique postPieces spells_postPieces
  have hdelimited : Delimited postPieces := hnames.1 (by decide +kernel)
  obtain ⟨-, hdecoded, -⟩ := hserved _ _ _ _ Blog.path_postRoute hmatched
  exact ⟨hconverted, hmatched, (hdecoded (by decide +kernel)).2 hdelimited⟩

/-- A route whose group has text behind it. -/
def suffixedRoute : Route :=
  (Route.get "/h/\x7bid\x7dx" fun _ => pure (.text "found")).keyword "id"

def suffixedPieces : List Piece := "/h/".toList.map .char ++ [.name ['i', 'd'], .char 'x']

def suffixedEntry : Entry :=
  ⟨.get, "/h/:idx", suffixedRoute.signature.spec, suffixedRoute.handler⟩

def suffixedSite : Site :=
  ⟨fun _ => .done .unknown, {}, fun _ _ => pure "", .ofRoutes [suffixedRoute]⟩

def suffixedRequest : Http.Request := .make .get ⟨"", "/h/5x", none⟩ [] .empty

theorem routes_suffixedSite : suffixedSite.routes = [suffixedEntry] :=
  Site.routes_only ⟨rfl, rfl, by decide +kernel, rfl⟩

/-- What stands behind a group becomes part of its name: the handler, which requires the name in
braces, is not called. -/
theorem parameters_of_suffixed :
    convert suffixedRoute.pattern = .ok "/h/:idx" ∧
      Spells suffixedPieces suffixedRoute.pattern ∧
      names suffixedPieces = [['i', 'd']] ∧
      PathPart.names (read "/h/:idx") = [['i', 'd', 'x']] ∧
      suffixedSite.Matches suffixedRequest suffixedEntry [['5', 'x']] ∧
      suffixedEntry.parameters [['5', 'x']] = [("idx", "5x")] ∧
      suffixedSite.behind suffixedRequest none suffixedRequest =
        (AppError.missingArgument "id").respond := by
  have hspells : Spells suffixedPieces suffixedRoute.pattern := by
    refine ⟨by decide, ?_, by decide⟩
    refine List.forall_mem_append.2 ⟨wellFormed_of_not_mem (by decide) (by decide), ?_⟩
    exact List.forall_mem_cons.2 ⟨wellFormed_id,
      List.forall_mem_singleton.2 (.char (by decide) (by decide))⟩
  have hmatched : suffixedSite.Matches suffixedRequest suffixedEntry [['5', 'x']] := by
    have hroutes := routes_suffixedSite
    refine Site.matches_of_label (hroutes ▸ List.pairwise_singleton _ _)
      (hroutes ▸ List.mem_singleton_self _) (by decide) (.inl ⟨rfl, rfl⟩) ?_
    rw [Site.map_path_resources, hroutes]
    decide +kernel
  have hparameters : suffixedEntry.parameters [['5', 'x']] = [("idx", "5x")] := by decide +kernel
  refine ⟨by decide +kernel, hspells, rfl, by decide +kernel, hmatched, hparameters, ?_⟩
  rw [hmatched.behind_eq, hparameters]
  rfl

end Pattern
end Weblog
