import Weblog.Action
import Weblog.Text.Hex
import Weblog.Text.Numeral

/-!
# Weblog.Blog.Stamp

The values that new entities are stamped with.

* `newId`: an id of fifty characters: the clock in milliseconds with fifteen digits, the digits of a
  random UUID, and three zeros. Ids sort by the time they were made.
* `timestamp`: the clock in seconds.
-/

namespace Weblog
namespace Stamp

/-- Milliseconds with at least fifteen characters, the sign included. -/
def clockText : Int → String
  | .ofNat n => String.ofList (Text.padded 15 n)
  | .negSucc n => String.ofList ('-' :: Text.padded 14 (n + 1))

def idText (millis : Int) (uuid : List UInt8) : String :=
  clockText millis ++ Text.hex uuid ++ "000"

def newId : Action String := do
  let now ← Action.clock
  let uuid ← Action.perform .uuid
  return idText now uuid

/-- Milliseconds as seconds in double precision. -/
def secondsOf (millis : Int) : Binary64 :=
  ((Binary64.ofInt millis).div? (Binary64.ofInt 1000)).getD Binary64.zero

def timestamp : Action Binary64 := do return secondsOf (← Action.clock)

end Stamp
end Weblog
