import Weblog.Http.MediaType
import Weblog.Text.Charset

/-!
# Weblog.Http.Multipart

Form bodies of several parts.

* `boundary?`: the boundary that a content type announces.
* `fieldName?`: the name of the field in a content disposition.
* `partCharset`: the character set that a part's own content type names.
* `readParts`: the parts after a delimiter: each is a block of headers, an empty line and a content
  that ends before the next delimiter.
* `pairs?`: the names and texts of a body. What stands before the first delimiter or after the last
  is left out, and so are parts without a name.
-/

namespace Weblog
namespace Http
namespace Multipart

def boundary? (contentType : String) : Option (List UInt8) := do
  let m ← MediaType.parse? contentType
  if m.type = "multipart" ∧ m.subtype = "form-data" then
    return Text.Utf8.bytesOf (← m.param? "boundary")
  else none

def lineEnd : List UInt8 := [13, 10]

/-- What stands between the headers of a part and its content. -/
def blankLine : List UInt8 := [13, 10, 13, 10]

/-- What stands before each part. -/
def delimiter (boundary : List UInt8) : List UInt8 := 0x2D :: 0x2D :: boundary

def isLineBlank (b : UInt8) : Bool := b == 32 || b == 9

/-- A line without blanks at its two ends. -/
def trimLine (line : List UInt8) : List UInt8 :=
  ((line.dropWhile isLineBlank).reverse.dropWhile isLineBlank).reverse

/-- A line without a carriage return at its end. -/
def withoutReturn (line : List UInt8) : List UInt8 :=
  if line.getLast? = some 13 then line.dropLast else line

def readHeader (line : List UInt8) : Option Header :=
  match Text.splitOnce 0x3A line with
  | none => none
  | some (name, value) =>
    let letters := name.map fun b => Char.ofNat b.toNat
    let value := trimLine value
    if name.isEmpty ∨ !letters.all isToken ∨ !value.all isHeaderOctet then none
    else some (.make (String.ofList letters) value)

/-- How many headers a part may have. -/
def headerLimit : Nat := 32

/-- Reads headers up to the first empty line, at most so many. -/
def readHeaders : Nat → List (List UInt8) → Option (List Header)
  | _, [] => some []
  | count, line :: rest =>
    let line := withoutReturn line
    if line.isEmpty then some []
    else
      match count with
      | 0 => none
      | count + 1 =>
        match readHeader line with
        | none => none
        | some h => (readHeaders count rest).map (h :: ·)

def isParameterBlank (b : UInt8) : Bool := b == 32 || b == 9 || b == 10 || b == 12 || b == 13

/-- The octets before the first quote that no backslash precedes, where a quote behind a backslash
stands for itself; what was passed is held last octet first. -/
def quotedPart (done : List UInt8) : List UInt8 → Option (List UInt8)
  | [] => none
  | 0x5C :: 0x22 :: rest => quotedPart (0x22 :: done) rest
  | b :: rest => if b = 0x22 then some done.reverse else quotedPart (b :: done) rest

/-- The octets of a parameter's value: between quotes, or up to a semicolon or a space. -/
def parameterValue (octets : List UInt8) : Option (List UInt8) :=
  match octets.dropWhile isParameterBlank with
  | 0x22 :: rest => quotedPart [] rest
  | plain => some (plain.takeWhile fun b => b ≠ 0x3B && b ≠ 32)

def valueAfterName (octets : List UInt8) : Option (List UInt8) :=
  match octets.dropWhile isParameterBlank with
  | 0x3D :: rest => parameterValue rest
  | _ => none

def nameMark : List UInt8 := Text.Utf8.bytesOf "name"

/-- A name may begin behind this octet. -/
def separatesParameter (b : UInt8) : Bool := b == 0x3B || isParameterBlank b

/-- The value of the parameter `name`; `separated` tells whether the text begins where a name may.
The end of a longer name counts as such a place for what follows it. The number bounds the work. -/
def nameValue (separated : Bool) : Nat → List UInt8 → Option (List UInt8)
  | 0, _ => none
  | _ + 1, [] => none
  | fuel + 1, b :: rest =>
    if nameMark.isPrefixOf (b :: rest) then
      let after := (b :: rest).drop nameMark.length
      if separated then valueAfterName after else nameValue true fuel after
    else nameValue (separatesParameter b) fuel rest

def fieldName? (disposition : List UInt8) : Option String :=
  (nameValue true (disposition.length + 1) disposition).bind Text.Utf8.text?

/-- The last header of a name in lower case. -/
def lastHeader? (name : String) (headers : List Header) : Option (List UInt8) :=
  (headers.reverse.find? fun h => h.name = name).map (·.value)

def partName? (headers : List Header) : Option String :=
  (lastHeader? "content-disposition" headers).bind fieldName?

/-- The character set that the headers of a part name, UTF-8 where they name none. -/
def partCharset (headers : List Header) : Text.Charset :=
  let named := do
    let contentType ← (lastHeader? "content-type" headers).bind readable?
    let label ← (← MediaType.parse? contentType).param? "charset"
    Text.Charset.ofLabel? label
  named.getD .utf8

/-- Adds a part to those before it, unless it has no name. -/
def addPart (done : List (String × String)) (headers : List Header) (content : List UInt8) :
    List (String × String) :=
  match partName? headers with
  | some name => (name, (partCharset headers).text content) :: done
  | none => done

/-- The headers of a part, its content, and what stands after the delimiter that ends it. -/
def readPart (boundary : List UInt8) (octets : List UInt8) :
    Option (List Header × List UInt8 × List UInt8) := do
  let (head, rest) ← Text.cutAt blankLine octets
  let headers ← readHeaders headerLimit (Text.splitAll 10 (head ++ blankLine))
  let (content, rest) ← Text.cutAt (lineEnd ++ delimiter boundary) (rest.drop blankLine.length)
  return (headers, content, rest.drop (lineEnd ++ delimiter boundary).length)

/-- Reads the parts after a delimiter; two dashes after it end the body. The parts before are in
`done`, last first; the number bounds the work. -/
def readParts (boundary : List UInt8) :
    Nat → List (String × String) → List UInt8 → Option (List (String × String))
  | 0, _, _ => none
  | _ + 1, done, 0x2D :: 0x2D :: _ => some done.reverse
  | fuel + 1, done, octets =>
    match octets.dropWhile isLineBlank with
    | 13 :: 10 :: rest =>
      match readPart boundary rest with
      | some (headers, content, rest) => readParts boundary fuel (addPart done headers content) rest
      | none => none
    | _ => none

/-- The names and texts of a body in order. -/
def pairs? (boundary body : List UInt8) : Option (List (String × String)) :=
  match Text.cutAt (delimiter boundary) body with
  | none => none
  | some (_, rest) =>
    readParts boundary (body.length + 1) [] (rest.drop (delimiter boundary).length)

end Multipart
end Http
end Weblog
