import Weblog.Text.Charset.Kanji

/-!
# Weblog.Text.Charset.Japanese

Three ways to write Japanese text.

* `shiftJis`: pairs of octets, with half-width kana in one octet.
* `eucJp`: pairs of octets; half-width kana and further kanji have an octet before them.
* `iso2022Jp`: octets below 128, whose meaning escapes change.
-/

namespace Weblog
namespace Text

/-- A half-width kana by its octet, the first of which is given. -/
def halfKana (first b : UInt8) : Char := Char.ofNat (0xFF61 + (b.toNat - first.toNat))

/-- A kanji by its number; a range of numbers is for private use. -/
def kanjiOrPrivate (n : Nat) : List Char :=
  if 8836 ≤ n ∧ n ≤ 10715 then [Char.ofNat (0xE000 + (n - 8836))] else (kanji.char? n).toList

/-- The character of an octet that stands alone. -/
def shiftJisSingle (b : UInt8) : Option Char :=
  if b = 0x80 then some '\u0080'
  else if octetIn 0xA1 0xDF b then some (halfKana 0xA1 b)
  else none

def shiftJisPair (lead b : UInt8) : List Char :=
  let row := (lead.toNat - (if lead < 0xA0 then 0x81 else 0xC1)) * 188
  if octetIn 0x40 0x7E b then kanjiOrPrivate (row + (b.toNat - 0x40))
  else if octetIn 0x80 0xFC b then kanjiOrPrivate (row + (b.toNat - 0x41))
  else []

/-- Kanji in pairs of octets, and half-width kana in one. -/
def shiftJis : DoubleByte :=
  ⟨fun b => octetIn 0x81 0x9F b || octetIn 0xE0 0xFC b, shiftJisSingle, shiftJisPair⟩

namespace EucJp

/-- The octets that wait for more. -/
inductive State where
  | nothing
  | lead (a : UInt8)
  /-- The first octet of a pair of further kanji. -/
  | further (a : UInt8)
  deriving DecidableEq, Repr

def pair? (table : CharTable) (a b : UInt8) : Option Char :=
  if octetIn 0xA1 0xFE a && octetIn 0xA1 0xFE b then
    table.char? ((a.toNat - 0xA1) * 94 + (b.toNat - 0xA1))
  else none

/-- Reads an octet that no other one waits for. -/
def first (b : UInt8) : List Char × State :=
  if b < 0x80 then ([asciiChar b], .nothing)
  else if b = 0x8E || b = 0x8F || octetIn 0xA1 0xFE b then ([], .lead b)
  else (['\uFFFD'], .nothing)

/-- Reads the second octet of a pair. -/
def second (table : CharTable) (a b : UInt8) : List Char × State :=
  match pair? table a b with
  | some c => ([c], .nothing)
  | none => (stray b, .nothing)

/-- Reads an octet. -/
def step : State → UInt8 → List Char × State
  | .nothing, b => first b
  | .lead a, b =>
    if a = 0x8E ∧ octetIn 0xA1 0xDF b then ([halfKana 0xA1 b], .nothing)
    else if a = 0x8F ∧ octetIn 0xA1 0xFE b then ([], .further b)
    else second kanji a b
  | .further a, b => second kanjiSupplement a b

end EucJp

/-- Kanji in pairs of octets, and with an octet before them kana and further kanji. -/
def eucJp : OctetReader EucJp.State where
  start := .nothing
  step := EucJp.step
  finish s := if s = .nothing then [] else ['\uFFFD']

namespace Iso2022Jp

def escape : UInt8 := 0x1B

/-- What octets stand for. -/
inductive Mode where
  | ascii
  /-- The same with a yen sign and an overline. -/
  | roman
  | kana
  | kanji
  deriving DecidableEq, Repr

/-- The octets that wait for more. -/
inductive Waiting where
  | nothing
  | lead (a : UInt8)
  | escape
  /-- An escape with the octet after it. -/
  | escapeWith (a : UInt8)
  deriving DecidableEq, Repr

/-- What octets stand for, which of them wait, and whether nothing was read since the last change
of the mode. -/
structure State where
  mode : Mode
  waiting : Waiting
  idle : Bool
  deriving DecidableEq, Repr

/-- An octet on its own in a mode; none is an error. -/
def single? (m : Mode) (b : UInt8) : Option Char :=
  match m with
  | .ascii => if 0x80 ≤ b ∨ b = 0x0E ∨ b = 0x0F then none else some (asciiChar b)
  | .roman =>
    if 0x80 ≤ b ∨ b = 0x0E ∨ b = 0x0F then none
    else if b = 0x5C then some '¥'
    else if b = 0x7E then some '‾'
    else some (asciiChar b)
  | .kana => if octetIn 0x21 0x5F b then some (halfKana 0x21 b) else none
  | .kanji => none

/-- Reads an octet that no other one waits for. -/
def first (s : State) (b : UInt8) : List Char × State :=
  if b = escape then ([], { s with waiting := .escape })
  else if s.mode = .kanji ∧ octetIn 0x21 0x7E b then ([], ⟨s.mode, .lead b, false⟩)
  else ([(single? s.mode b).getD '\uFFFD'], ⟨s.mode, .nothing, false⟩)

/-- Reads the second octet of a pair. -/
def second (s : State) (a b : UInt8) : List Char × State :=
  if b = escape then (['\uFFFD'], { s with waiting := .escape })
  else if octetIn 0x21 0x7E b then
    ([(kanji.char? ((a.toNat - 0x21) * 94 + (b.toNat - 0x21))).getD '\uFFFD'],
      { s with waiting := .nothing })
  else (['\uFFFD'], { s with waiting := .nothing })

/-- The mode that an escape of two octets asks for. -/
def modeOf? (a b : UInt8) : Option Mode :=
  if a = 0x28 ∧ b = 0x42 then some .ascii
  else if a = 0x28 ∧ b = 0x4A then some .roman
  else if a = 0x28 ∧ b = 0x49 then some .kana
  else if a = 0x24 ∧ (b = 0x40 ∨ b = 0x42) then some .kanji
  else none

/-- Reads an octet where no escape waits. -/
def plain (s : State) (b : UInt8) : List Char × State :=
  match s.waiting with
  | .lead a => second s a b
  | _ => first { s with waiting := .nothing } b

/-- Reads an octet. What is no escape is an error and is read again without it, and so is an escape
right after another one. -/
def step (s : State) (b : UInt8) : List Char × State :=
  let again : State := ⟨s.mode, .nothing, false⟩
  match s.waiting with
  | .escape =>
    if b = 0x24 ∨ b = 0x28 then ([], { s with waiting := .escapeWith b })
    else ('\uFFFD' :: (plain again b).1, (plain again b).2)
  | .escapeWith a =>
    match modeOf? a b with
    | some m => (if s.idle then ['\uFFFD'] else [], ⟨m, .nothing, true⟩)
    | none =>
      let (before, s) := plain again a
      let (after, s) := plain s b
      ('\uFFFD' :: before ++ after, s)
  | _ => plain s b

/-- What is read at the end. -/
def finish (s : State) : List Char :=
  match s.waiting with
  | .nothing => []
  | .lead _ | .escape => ['\uFFFD']
  | .escapeWith a =>
    let (cs, s) := plain ⟨s.mode, .nothing, false⟩ a
    '\uFFFD' :: cs ++ (if s.waiting = .nothing then [] else ['\uFFFD'])

end Iso2022Jp

/-- Octets below 128, whose meaning escapes change. -/
def iso2022Jp : OctetReader Iso2022Jp.State :=
  ⟨⟨.ascii, .nothing, false⟩, Iso2022Jp.step, Iso2022Jp.finish⟩

end Text
end Weblog
