import Weblog.Blog.Stamp
import Weblog.Proofs.Fallible
import Weblog.Proofs.Sha256
import Weblog.Proofs.Text.Digits

/-!
# Weblog.Proofs.Blog.Stamp

What new ids are made of, and how they sort.

* `mem_idText`: an id holds only digits and lowercase letters, and a dash where the time is negative.
* `isDigitOrLower_of_mem_idText`: an id of a time that is not negative holds no dash.
* `idText_lt_idText`, `idText_injective`: ids sort by their times, and one id is of one time and one
  UUID, as long as the times have at most fifteen digits.
* `newId_sorts_by_time`: the same of the ids that are drawn, with their length and their characters.
-/

namespace Weblog

/-- The lowercase hexadecimal digits. -/
def Text.hexAlphabet : List Char := "0123456789abcdef".toList

theorem Text.hexDigit_mem : ∀ n, n < 16 → hexDigit n ∈ hexAlphabet := by decide

theorem Text.mem_hexAlphabet_of_mem_hexChars {c : Char} {bytes : List UInt8}
    (h : c ∈ hexChars bytes) : c ∈ hexAlphabet := by
  obtain ⟨b, -, hc⟩ := List.mem_flatMap.1 h
  have hb : b.toNat < 256 := b.toNat_lt
  rcases List.mem_cons.1 hc with rfl | hc
  · exact hexDigit_mem _ (by omega)
  · obtain rfl := List.mem_singleton.1 hc
    exact hexDigit_mem _ (by omega)

theorem Text.mem_hexAlphabet_of_isDigit {c : Char} (h : c.isDigit = true) : c ∈ hexAlphabet := by
  have hdigit : ∀ n, n < 10 → Char.ofNat (48 + n) ∈ hexAlphabet := by decide
  obtain ⟨hc, hlt⟩ := toNat_of_isDigit h
  rw [← c.ofNat_toNat, hc]
  exact hdigit _ hlt

namespace Stamp

/-- The clock is written in digits, after a sign where it is negative. -/
theorem mem_clockText {millis : Int} {c : Char} (h : c ∈ (clockText millis).toList) :
    (c = '-' ∧ millis < 0) ∨ c.isDigit = true := by
  cases millis with
  | ofNat n =>
    rw [clockText, String.toList_ofList] at h
    exact .inr (Text.isDigit_of_mem_padded h)
  | negSucc n =>
    rw [clockText, String.toList_ofList] at h
    rcases List.mem_cons.1 h with rfl | h
    · exact .inl ⟨rfl, Int.negSucc_lt_zero n⟩
    · exact .inr (Text.isDigit_of_mem_padded h)

theorem mem_idText {millis : Int} {uuid : List UInt8} {c : Char}
    (h : c ∈ (idText millis uuid).toList) :
    (c = '-' ∧ millis < 0) ∨ c.isDigit = true ∨ c.isLower = true := by
  rw [idText, String.toList_append, String.toList_append, List.append_assoc] at h
  rcases List.mem_append.1 h with h | h
  · exact (mem_clockText h).imp_right .inl
  · rcases List.mem_append.1 h with h | h
    · rw [Text.hex, String.toList_ofList] at h
      exact .inr (Text.isDigitOrLower_of_mem_hexChars h)
    · have hzeros : "000".toList = List.replicate 3 '0' := rfl
      rw [hzeros] at h
      obtain ⟨-, rfl⟩ := List.mem_replicate.1 h
      exact .inr (.inl (by decide))

theorem isDigitOrLower_of_mem_idText {millis : Int} {uuid : List UInt8} {c : Char}
    (hmillis : 0 ≤ millis) (h : c ∈ (idText millis uuid).toList) :
    c.isDigit = true ∨ c.isLower = true :=
  (mem_idText h).resolve_left fun hsign => absurd hsign.2 (Int.not_lt.2 hmillis)

/-- How many digits the clock has in an id. -/
def clockWidth : Nat := 15

theorem clockWidth_pos : 0 < clockWidth := by decide

theorem toList_idText (n : Nat) (uuid : List UInt8) :
    (idText n uuid).toList =
      Text.padded clockWidth n ++ (Text.hexChars uuid ++ List.replicate 3 '0') := by
  have hclock : (clockText n).toList = Text.padded clockWidth n := String.toList_ofList
  have hzeros : "000".toList = List.replicate 3 '0' := rfl
  rw [idText, String.toList_append, String.toList_append, hclock, hzeros, Text.hex,
    String.toList_ofList, List.append_assoc]

theorem length_idText {n : Nat} (hn : n < 10 ^ clockWidth) (uuid : List UInt8) :
    (idText n uuid).length = clockWidth + 2 * uuid.length + 3 := by
  rw [← String.length_toList, toList_idText, List.length_append, List.length_append,
    Text.length_padded clockWidth_pos hn, Text.length_hexChars, List.length_replicate]
  omega

theorem mem_hexAlphabet_of_mem_idText {n : Nat} {uuid : List UInt8} {c : Char}
    (h : c ∈ (idText n uuid).toList) : c ∈ Text.hexAlphabet := by
  rw [toList_idText] at h
  rcases List.mem_append.1 h with h | h
  · exact Text.mem_hexAlphabet_of_isDigit (Text.isDigit_of_mem_padded h)
  · rcases List.mem_append.1 h with h | h
    · exact Text.mem_hexAlphabet_of_mem_hexChars h
    · obtain ⟨-, rfl⟩ := List.mem_replicate.1 h
      decide

section Order

variable {m n : Nat} {u v : List UInt8}

/-- The clock decides before the UUID is looked at: its digits fill the width. -/
theorem idText_lt_idText (hn : n < 10 ^ clockWidth) (h : m < n) : idText m u < idText n v := by
  rw [String.lt_iff, toList_idText, toList_idText]
  refine Text.append_lt_append ?_ (Text.padded_lt_padded clockWidth_pos hn h) _ _
  rw [Text.length_padded clockWidth_pos (h.trans hn), Text.length_padded clockWidth_pos hn]

theorem idText_injective (hm : m < 10 ^ clockWidth) (hn : n < 10 ^ clockWidth)
    (h : idText m u = idText n v) : m = n ∧ u = v := by
  have htext := congrArg String.toList h
  rw [toList_idText, toList_idText] at htext
  have hlength : (Text.padded clockWidth m).length = (Text.padded clockWidth n).length := by
    rw [Text.length_padded clockWidth_pos hm, Text.length_padded clockWidth_pos hn]
  obtain ⟨hclock, hrest⟩ := List.append_inj htext hlength
  exact ⟨Text.padded_injective hclock, Text.hexChars_injective (List.append_cancel_right hrest)⟩

end Order

/-- An id is drawn by reading the clock and drawing a UUID. -/
theorem runs_newId_iff {es : List Exchange} {id : String} :
    Action.Runs newId es id ↔
      ∃ (millis : Int) (uuid : List UInt8), es = [⟨.clock, millis⟩, ⟨.uuid, uuid⟩] ∧
        id = idText millis uuid := by
  constructor
  · intro h
    obtain ⟨millis, es, rfl, hclock⟩ := Action.runs_ask_iff.1 h
    obtain ⟨uuid, es, rfl, huuid⟩ := Action.runs_ask_iff.1 hclock
    obtain ⟨rfl, rfl⟩ := Action.runs_done_iff.1 huuid
    exact ⟨millis, uuid, rfl, rfl⟩
  · rintro ⟨millis, uuid, rfl, rfl⟩
    exact .ask (.ask .done)

/-- For any two times in milliseconds of at most fifteen digits and any two UUIDs: an id is drawn at
each, of fifty lowercase hexadecimal digits, none of them a dash. The earlier id comes first whatever
the UUIDs are, and the ids are the same only if both the times and the UUIDs are. -/
theorem newId_sorts_by_time {a b : Int} {u v : List UInt8} (ha : 0 ≤ a ∧ a < 10 ^ 15)
    (hb : 0 ≤ b ∧ b < 10 ^ 15) (hu : u.length = 16) (hv : v.length = 16) :
    ∃ x y : String,
      (∀ id, Action.Runs newId [⟨.clock, a⟩, ⟨.uuid, u⟩] id ↔ id = x) ∧
      (∀ id, Action.Runs newId [⟨.clock, b⟩, ⟨.uuid, v⟩] id ↔ id = y) ∧
      (x.length = 50 ∧ (∀ c ∈ x.toList, c ∈ "0123456789abcdef".toList) ∧ '-' ∉ x.toList) ∧
      (a < b → x < y) ∧ (b < a → y < x) ∧ (x = y ↔ a = b ∧ u = v) := by
  obtain ⟨m, rfl⟩ := Int.eq_ofNat_of_zero_le ha.1
  obtain ⟨n, rfl⟩ := Int.eq_ofNat_of_zero_le hb.1
  have hm : m < 10 ^ clockWidth := by exact_mod_cast ha.2
  have hn : n < 10 ^ clockWidth := by exact_mod_cast hb.2
  have hdrawn : ∀ (millis : Int) (uuid : List UInt8) id,
      Action.Runs newId [⟨.clock, millis⟩, ⟨.uuid, uuid⟩] id ↔ id = idText millis uuid := by
    intro millis uuid id
    rw [runs_newId_iff]
    constructor
    · rintro ⟨millis', uuid', he, rfl⟩
      cases he
      rfl
    · rintro rfl
      exact ⟨millis, uuid, rfl, rfl⟩
  refine ⟨idText m u, idText n v, hdrawn _ _, hdrawn _ _, ⟨?length, ?digits, ?dash⟩, ?before, ?after,
    ?same⟩
  case length =>
    rw [length_idText hm, hu]
    rfl
  case digits => exact fun c => mem_hexAlphabet_of_mem_idText
  case dash =>
    intro hdash
    exact absurd (mem_hexAlphabet_of_mem_idText hdash) (by decide)
  case before => exact fun h => idText_lt_idText hn (Int.ofNat_lt.1 h)
  case after => exact fun h => idText_lt_idText hm (Int.ofNat_lt.1 h)
  case same =>
    constructor
    · intro h
      obtain ⟨rfl, rfl⟩ := idText_injective hm hn h
      exact ⟨rfl, rfl⟩
    · rintro ⟨hclock, rfl⟩
      rw [hclock]

/-- The last two times of fifteen digits, the earlier one with the greatest UUID. -/
theorem newId_sorts_by_time_latest :
    ∃ x y : String,
      Action.Runs newId
        [⟨.clock, (999999999999998 : Int)⟩, ⟨.uuid, List.replicate 16 (255 : UInt8)⟩] x ∧
      Action.Runs newId
        [⟨.clock, (999999999999999 : Int)⟩, ⟨.uuid, List.replicate 16 (0 : UInt8)⟩] y ∧
      x.length = 50 ∧ x < y := by
  obtain ⟨x, y, hx, hy, ⟨hlength, -⟩, hbefore, -⟩ :=
    newId_sorts_by_time (a := 999999999999998) (b := 999999999999999)
      (u := List.replicate 16 255) (v := List.replicate 16 0) (by decide) (by decide) rfl rfl
  exact ⟨x, y, (hx x).2 rfl, (hy y).2 rfl, hlength, hbefore (by decide)⟩

end Stamp
end Weblog
