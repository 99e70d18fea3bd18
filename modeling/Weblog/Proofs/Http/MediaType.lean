import Mathlib.Data.List.TakeWhile
import Weblog.Http.Multipart
import Weblog.Proofs.Text.Blank
import Weblog.Proofs.Text.Split

/-!
# Weblog.Proofs.Http.MediaType

The media type that a text names.

* `mediaType`: what stands before the first semicolon, in lower case and without white space around.
* `prefix_lower_iff`: a text begins with the letters of a type, whatever the case, if and only if it
  has no white space in front and its media type begins with them.
* `mediaType_of_parse?`: where a text is read with its parameters, what is read is its media type,
  up to a suffix behind a plus; `mediaType_of_boundary?`: so it is where a boundary is announced.
-/

namespace Weblog
namespace Http

/-- The media type that a text names: what stands before its first semicolon, in lower case and
without the white space around it. -/
def mediaType (text : String) : String :=
  Text.trim (String.ofList ((lower text).toList.takeWhile (· ≠ ';')))

/-- No white space stands in front of a text. -/
def IsFlush (text : String) : Prop := ∀ c ∈ text.toList.head?, Text.isBlank c = false

theorem toList_lower (text : String) : (lower text).toList = text.toList.map Char.toLower :=
  String.toList_ofList

theorem toList_mediaType (text : String) : (mediaType text).toList =
    Text.trimChars ((text.toList.map Char.toLower).takeWhile (· ≠ ';')) := by
  rw [mediaType, Text.toList_trim, String.toList_ofList, toList_lower]

theorem toNat_toLower (c : Char) :
    c.toLower.toNat = c.toNat ∧ ¬ (65 ≤ c.toNat ∧ c.toNat ≤ 90) ∨
      c.toLower.toNat = c.toNat + 32 ∧ 65 ≤ c.toNat ∧ c.toNat ≤ 90 := by
  unfold Char.toLower
  split
  · rename_i h
    have hlow : 65 ≤ c.toNat := h.1
    have hhigh : c.toNat ≤ 90 := h.2
    refine .inr ⟨?_, hlow, hhigh⟩
    have hsum : (c.val + ('a'.val - 'A'.val)).toNat = (c.toNat + 32) % 2 ^ 32 :=
      UInt32.toNat_add _ _
    exact hsum.trans (Nat.mod_eq_of_lt (by omega))
  · rename_i h
    exact .inl ⟨rfl, h⟩

theorem isBlank_toLower (c : Char) : Text.isBlank c.toLower = Text.isBlank c := by
  rcases toNat_toLower c with ⟨hsame, -⟩ | ⟨hshifted, hrange⟩
  · rw [Char.toNat_inj.1 hsame]
  · rw [Text.isBlank_of_visible (by omega), Text.isBlank_of_visible (by omega)]

/-- A text begins with a word in lower case, whatever the case of its letters, if and only if no
white space stands in front of it and its media type begins with that word. -/
theorem prefix_lower_iff {mark text : String} (hne : mark ≠ "")
    (hmark : ∀ c ∈ mark.toList, Text.isBlank c = false ∧ c ≠ ';') :
    mark.toList <+: (lower text).toList ↔
      IsFlush text ∧ mark.toList <+: (mediaType text).toList := by
  have hblank : ∀ c ∈ mark.toList, Text.isBlank c = false := fun c hc => (hmark c hc).1
  have hopen : ∀ c ∈ mark.toList, decide (c ≠ ';') = true := fun c hc => by simp [(hmark c hc).2]
  rw [toList_lower, toList_mediaType]
  constructor
  · rintro ⟨rest, hrest⟩
    -- The word has no semicolon and no blank, so that neither cutting nor trimming takes of it.
    have htype : (text.toList.map Char.toLower).takeWhile (· ≠ ';') =
        mark.toList ++ rest.takeWhile (· ≠ ';') := by
      rw [← hrest, List.takeWhile_append_of_pos hopen]
    obtain ⟨first, others, hcons⟩ := List.exists_cons_of_ne_nil
      (fun hnil => hne (String.toList_eq_nil_iff.1 hnil) : mark.toList ≠ [])
    have hfirst : Text.isBlank first = false := hblank first (by simp [hcons])
    have hhead : (text.toList.map Char.toLower).head? = some first := by
      rw [← hrest, hcons]
      rfl
    refine ⟨?flush, ?marked⟩
    case flush =>
      intro c hc
      rw [List.head?_map, Option.mem_def.1 hc, Option.map_some] at hhead
      rw [← isBlank_toLower, Option.some.inj hhead, hfirst]
    case marked =>
      rw [htype, Text.prefix_trimChars_iff (by simp [hcons, hfirst]) hblank]
      exact List.prefix_append _ _
  · rintro ⟨hflush, hbegins⟩
    -- A media type is a part of the text as it stands, unless blanks in front are dropped.
    have hfront : ∀ c ∈ ((text.toList.map Char.toLower).takeWhile (· ≠ ';')).head?,
        Text.isBlank c = false := by
      intro c hc
      rw [List.head?_takeWhile, List.head?_map] at hc
      obtain ⟨d, hd, rfl⟩ := Option.map_eq_some_iff.1 (Option.filter_eq_some_iff.1 hc).1
      rw [isBlank_toLower]
      exact hflush d hd
    exact (hbegins.trans (Text.trimChars_begins hfront)).trans (List.takeWhile_prefix _)

theorem toNat_of_isAlphanum {c : Char} (h : c.isAlphanum = true) :
    (65 ≤ c.toNat ∧ c.toNat ≤ 90) ∨ (97 ≤ c.toNat ∧ c.toNat ≤ 122) ∨
      (48 ≤ c.toNat ∧ c.toNat ≤ 57) := by
  rcases Bool.or_eq_true_iff.1 h with hletter | hdigit
  · rcases Bool.or_eq_true_iff.1 hletter with hupper | hlower
    · exact .inl (of_decide_eq_true hupper)
    · obtain ⟨hleast, hgreatest⟩ := Bool.and_eq_true_iff.1 hlower
      exact .inr (.inl ⟨of_decide_eq_true hleast, of_decide_eq_true hgreatest⟩)
  · exact .inr (.inr (Char.isDigit_iff_toNat.1 hdigit))

theorem not_blank_of_isToken {c : Char} (h : isToken c = true) :
    Text.isBlank c = false ∧ c ≠ ';' := by
  have hrange : 33 ≤ c.toNat ∧ c.toNat ≤ 126 ∧ c.toNat ≠ 59 := by
    rw [isToken, Bool.or_eq_true, Bool.or_eq_true, Bool.or_eq_true] at h
    rcases h with ((halnum | hmark) | hquote) | htick
    · have hcodes := toNat_of_isAlphanum halnum
      omega
    · have hmarks : ("!#$%&*+-.^_|~".toList.all fun d =>
          decide (33 ≤ d.toNat ∧ d.toNat ≤ 126 ∧ d.toNat ≠ 59)) = true := by decide
      exact of_decide_eq_true (List.all_eq_true.1 hmarks c (List.contains_iff_mem.1 hmark))
    · rw [beq_iff_eq.1 hquote]
      decide
    · rw [beq_iff_eq.1 htick]
      decide
  refine ⟨Text.isBlank_of_visible (by omega), ?_⟩
  rintro rfl
  exact hrange.2.2 rfl

theorem toLower_ne_semicolon {c : Char} (h : c ≠ ';') : c.toLower ≠ ';' := by
  intro hlower
  have hnat : c.toLower.toNat = 59 := congrArg Char.toNat hlower
  rcases toNat_toLower c with ⟨hsame, -⟩ | ⟨hshifted, hrange⟩
  · exact h (Char.toNat_inj.1 (hsame.symm.trans hnat))
  · omega

theorem toList_mediaType_append {text : String} {front rest : List Char}
    (htext : text.toList = front ++ rest)
    (hfront : ∀ c ∈ front, Text.isBlank c = false ∧ c ≠ ';') (hrest : ∀ c ∈ rest.head?, c = ';') :
    (mediaType text).toList = front.map Char.toLower := by
  have hopen : ∀ c ∈ front.map Char.toLower, decide (c ≠ ';') = true := by
    intro c hc
    obtain ⟨d, hd, rfl⟩ := List.mem_map.1 hc
    exact decide_eq_true (toLower_ne_semicolon (hfront d hd).2)
  have hend : (rest.map Char.toLower).takeWhile (· ≠ ';') = [] := by
    cases rest with
    | nil => rfl
    | cons c cs =>
      obtain rfl : c = ';' := hrest c rfl
      rfl
  have hblank : ∀ c ∈ front.map Char.toLower, Text.isBlank c = false := by
    intro c hc
    obtain ⟨d, hd, rfl⟩ := List.mem_map.1 hc
    rw [isBlank_toLower, (hfront d hd).1]
  rw [toList_mediaType, htext, List.map_append, List.takeWhile_append_of_pos hopen, hend,
    List.append_nil, Text.trimChars_eq_self hblank]

namespace MediaType

theorem eq_withoutSuffix_append (subtype : List Char) :
    ∃ suffix, subtype = withoutSuffix subtype ++ suffix ∧ ∀ c ∈ suffix.head?, c = '+' := by
  unfold withoutSuffix
  split
  · rename_i after before hsplit
    split
    · exact ⟨[], by simp⟩
    · obtain ⟨hreverse, -⟩ := Text.splitOnce_eq_some_iff.1 hsplit
      refine ⟨'+' :: after.reverse, ?_, by simp⟩
      rw [← List.reverse_reverse subtype, hreverse]
      simp
  · exact ⟨[], by simp⟩

theorem exists_pieces_of_parse? {text : String} {m : MediaType} (h : parse? text = some m) :
    ∃ type subtype rest : List Char, text.toList = type ++ '/' :: subtype ++ rest ∧
      (∀ c ∈ type, isToken c = true) ∧ (∀ c ∈ subtype, isToken c = true) ∧
      (∀ c ∈ rest.head?, c = ';') ∧
      m.type = lower (String.ofList type) ∧
      m.subtype = lower (String.ofList (withoutSuffix subtype)) := by
  unfold parse? at h
  obtain ⟨⟨type, after⟩, hslash, h⟩ := Option.bind_eq_some_iff.1 h
  obtain ⟨htext, -⟩ := Text.splitOnce_eq_some_iff.1 hslash
  cases hsemicolon : Text.splitOnce ';' after with
  | none =>
    simp only [hsemicolon] at h
    split at h
    · cases h
    rename_i htokens
    split at h
    · cases h
    obtain ⟨params, -, hm⟩ := Option.bind_eq_some_iff.1 h
    cases hm
    simp only [Bool.not_eq_true', not_or, Bool.not_eq_false, List.all_eq_true] at htokens
    exact ⟨type, after, [], by simp [htext], htokens.2.1, htokens.2.2, by simp, rfl, rfl⟩
  | some p =>
    obtain ⟨hafter, -⟩ := Text.splitOnce_eq_some_iff.1 hsemicolon
    simp only [hsemicolon] at h
    split at h
    · cases h
    rename_i htokens
    split at h
    · cases h
    obtain ⟨params, -, hm⟩ := Option.bind_eq_some_iff.1 h
    cases hm
    simp only [Bool.not_eq_true', not_or, Bool.not_eq_false, List.all_eq_true] at htokens
    exact ⟨type, p.1, ';' :: p.2, by simp [htext, hafter], htokens.2.1, htokens.2.2, by simp,
      rfl, rfl⟩

/-- Where a text is read with its parameters, its media type is the type and the subtype that are
read, followed by nothing or by a plus and more. -/
theorem mediaType_of_parse? {text : String} {m : MediaType} (h : parse? text = some m) :
    ∃ suffix, (mediaType text).toList = m.type.toList ++ '/' :: (m.subtype.toList ++ suffix) ∧
      ∀ c ∈ suffix.head?, c = '+' := by
  obtain ⟨type, subtype, rest, htext, htype, hsubtype, hrest, hm⟩ := exists_pieces_of_parse? h
  have hfront : ∀ c ∈ type ++ '/' :: subtype, Text.isBlank c = false ∧ c ≠ ';' := by
    intro c hc
    rcases List.mem_append.1 hc with hc | hc
    · exact not_blank_of_isToken (htype c hc)
    · rcases List.mem_cons.1 hc with rfl | hc
      · decide
      · exact not_blank_of_isToken (hsubtype c hc)
  obtain ⟨suffix, hsuffix, hplus⟩ := eq_withoutSuffix_append subtype
  refine ⟨suffix.map Char.toLower, ?_, ?_⟩
  · have hslash : Char.toLower '/' = '/' := rfl
    rw [toList_mediaType_append htext hfront hrest, hm.1, hm.2, toList_lower, toList_lower,
      String.toList_ofList, String.toList_ofList, List.map_append, List.map_cons, hslash,
      ← List.map_append, ← hsuffix]
  · intro c hc
    rw [List.head?_map] at hc
    obtain ⟨d, hd, rfl⟩ := Option.map_eq_some_iff.1 hc
    rw [hplus d hd]
    rfl

end MediaType

/-- What a body of several parts needs of its content type: with a suffix or without. -/
theorem mediaType_of_boundary? {text : String} {boundary : List UInt8}
    (h : Multipart.boundary? text = some boundary) :
    ∃ suffix, (mediaType text).toList = "multipart/form-data".toList ++ suffix ∧
      ∀ c ∈ suffix.head?, c = '+' := by
  unfold Multipart.boundary? at h
  obtain ⟨m, hm, h⟩ := Option.bind_eq_some_iff.1 h
  split at h
  · rename_i htype
    obtain ⟨suffix, hsuffix, hplus⟩ := MediaType.mediaType_of_parse? hm
    refine ⟨suffix, ?_, hplus⟩
    rw [hsuffix, htype.1, htype.2]
    rfl
  · cases h

end Http
end Weblog
