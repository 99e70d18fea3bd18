/-!
# Weblog.Text.Blank

White space and trimming.

* `isBlank`: the characters with the Unicode property White_Space.
* `trim`: a text without the white space at its two ends.
-/

namespace Weblog
namespace Text

/-- The characters with the property White_Space. -/
def isBlank (c : Char) : Bool :=
  let n := c.toNat
  (9 ≤ n && n ≤ 13) || n == 0x20 || n == 0x85 || n == 0xA0 || n == 0x1680 ||
    (0x2000 ≤ n && n ≤ 0x200A) || n == 0x2028 || n == 0x2029 || n == 0x202F || n == 0x205F ||
    n == 0x3000

/-- Removes white space from both ends. -/
def trimChars (cs : List Char) : List Char :=
  ((cs.dropWhile isBlank).reverse.dropWhile isBlank).reverse

/-- Removes white space from both ends. -/
def trim (s : String) : String :=
  String.ofList (trimChars s.toList)

/-- A text of white space alone. -/
def isBlankText (s : String) : Bool :=
  (trimChars s.toList).isEmpty

@[simp] theorem toList_trim (s : String) : (trim s).toList = trimChars s.toList := by
  simp [trim]

end Text
end Weblog
