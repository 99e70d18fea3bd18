import Weblog.Text.Charset.Big5
import Weblog.Text.Charset.Chinese
import Weblog.Text.Charset.Japanese
import Weblog.Text.Charset.Korean
import Weblog.Text.Charset.SingleByte
import Weblog.Text.Utf16
import Weblog.Text.Utf8

/-!
# Weblog.Text.Charset

Text in a character set that a label names.

* `Charset`: a way to read octets as text.
* `Charset.ofLabel?`: the set that a label names; case and blanks around it do not matter.
* `Charset.text`: the text of octets. A byte order mark goes before the label.
-/

namespace Weblog
namespace Text

/-- A way to read octets as text. -/
inductive Charset where
  | utf8
  | utf16 (bigEndian : Bool)
  | singleByte (upper : CharTable)
  /-- Octets from 128 on are characters for private use. -/
  | userDefined
  | eucKr
  | big5
  | gb18030
  | shiftJis
  | eucJp
  | iso2022Jp
  /-- Whatever the octets are, the text is one U+FFFD. -/
  | refused
  deriving DecidableEq, Repr

namespace Charset

def singleByteLabels : List (List String × CharTable) :=
  [(["866", "cp866", "csibm866", "ibm866"], UpperHalf.ibm866),
   (["csisolatin2", "iso-8859-2", "iso-ir-101", "iso8859-2", "iso88592", "iso_8859-2",
     "iso_8859-2:1987", "l2", "latin2"], UpperHalf.iso88592),
   (["csisolatin3", "iso-8859-3", "iso-ir-109", "iso8859-3", "iso88593", "iso_8859-3",
     "iso_8859-3:1988", "l3", "latin3"], UpperHalf.iso88593),
   (["csisolatin4", "iso-8859-4", "iso-ir-110", "iso8859-4", "iso88594", "iso_8859-4",
     "iso_8859-4:1988", "l4", "latin4"], UpperHalf.iso88594),
   (["csisolatincyrillic", "cyrillic", "iso-8859-5", "iso-ir-144", "iso8859-5", "iso88595",
     "iso_8859-5", "iso_8859-5:1988"], UpperHalf.iso88595),
   (["arabic", "asmo-708", "csiso88596e", "csiso88596i", "csisolatinarabic", "ecma-114",
     "iso-8859-6", "iso-8859-6-e", "iso-8859-6-i", "iso-ir-127", "iso8859-6", "iso88596",
     "iso_8859-6", "iso_8859-6:1987"], UpperHalf.iso88596),
   (["csisolatingreek", "ecma-118", "elot_928", "greek", "greek8", "iso-8859-7", "iso-ir-126",
     "iso8859-7", "iso88597", "iso_8859-7", "iso_8859-7:1987", "sun_eu_greek"],
    UpperHalf.iso88597),
   (["csiso88598e", "csisolatinhebrew", "hebrew", "iso-8859-8", "iso-8859-8-e", "iso-ir-138",
     "iso8859-8", "iso88598", "iso_8859-8", "iso_8859-8:1988", "visual", "csiso88598i",
     "iso-8859-8-i", "logical"], UpperHalf.iso88598),
   (["csisolatin6", "iso-8859-10", "iso-ir-157", "iso8859-10", "iso885910", "l6", "latin6"],
    UpperHalf.iso885910),
   (["iso-8859-13", "iso8859-13", "iso885913"], UpperHalf.iso885913),
   (["iso-8859-14", "iso8859-14", "iso885914"], UpperHalf.iso885914),
   (["csisolatin9", "iso-8859-15", "iso8859-15", "iso885915", "iso_8859-15", "l9"],
    UpperHalf.iso885915),
   (["iso-8859-16"], UpperHalf.iso885916),
   (["cskoi8r", "koi", "koi8", "koi8-r", "koi8_r"], UpperHalf.koi8R),
   (["koi8-ru", "koi8-u"], UpperHalf.koi8U),
   (["csmacintosh", "mac", "macintosh", "x-mac-roman"], UpperHalf.macintosh),
   (["dos-874", "iso-8859-11", "iso8859-11", "iso885911", "tis-620", "windows-874"],
    UpperHalf.windows874),
   (["cp1250", "windows-1250", "x-cp1250"], UpperHalf.windows1250),
   (["cp1251", "windows-1251", "x-cp1251"], UpperHalf.windows1251),
   (["ansi_x3.4-1968", "ascii", "cp1252", "cp819", "csisolatin1", "ibm819", "iso-8859-1",
     "iso-ir-100", "iso8859-1", "iso88591", "iso_8859-1", "iso_8859-1:1987", "l1", "latin1",
     "us-ascii", "windows-1252", "x-cp1252"], UpperHalf.windows1252),
   (["cp1253", "windows-1253", "x-cp1253"], UpperHalf.windows1253),
   (["cp1254", "csisolatin5", "iso-8859-9", "iso-ir-148", "iso8859-9", "iso88599", "iso_8859-9",
     "iso_8859-9:1989", "l5", "latin5", "windows-1254", "x-cp1254"], UpperHalf.windows1254),
   (["cp1255", "windows-1255", "x-cp1255"], UpperHalf.windows1255),
   (["cp1256", "windows-1256", "x-cp1256"], UpperHalf.windows1256),
   (["cp1257", "windows-1257", "x-cp1257"], UpperHalf.windows1257),
   (["cp1258", "windows-1258", "x-cp1258"], UpperHalf.windows1258),
   (["x-mac-cyrillic", "x-mac-ukrainian"], UpperHalf.macCyrillic)]

def otherLabels : List (List String × Charset) :=
  [(["unicode-1-1-utf-8", "unicode11utf8", "unicode20utf8", "utf-8", "utf8", "x-unicode20utf8"],
    .utf8),
   (["csunicode", "iso-10646-ucs-2", "ucs-2", "unicode", "unicodefeff", "utf-16", "utf-16le"],
    .utf16 false),
   (["unicodefffe", "utf-16be"], .utf16 true),
   (["x-user-defined"], .userDefined),
   (["chinese", "csgb2312", "csiso58gb231280", "gb2312", "gb_2312", "gb_2312-80", "gbk",
     "iso-ir-58", "x-gbk", "gb18030"], .gb18030),
   (["big5", "big5-hkscs", "cn-big5", "csbig5", "x-x-big5"], .big5),
   (["cseucpkdfmtjapanese", "euc-jp", "x-euc-jp"], .eucJp),
   (["csiso2022jp", "iso-2022-jp"], .iso2022Jp),
   (["csshiftjis", "ms932", "ms_kanji", "shift-jis", "shift_jis", "sjis", "windows-31j",
     "x-sjis"], .shiftJis),
   (["cseuckr", "csksc56011987", "euc-kr", "iso-ir-149", "korean", "ks_c_5601-1987",
     "ks_c_5601-1989", "ksc5601", "ksc_5601", "windows-949"], .eucKr),
   (["csiso2022kr", "hz-gb-2312", "iso-2022-cn", "iso-2022-cn-ext", "iso-2022-kr",
     "replacement"], .refused)]

def labels : List (List String × Charset) :=
  otherLabels ++ singleByteLabels.map fun l => (l.1, .singleByte l.2)

def isLabelBlank (c : Char) : Bool :=
  c == ' ' || c == '\t' || c == '\n' || c == '\r' || c == '\x0c'

def ofLabel? (label : String) : Option Charset :=
  let inner := ((label.toList.dropWhile isLabelBlank).reverse.dropWhile isLabelBlank).reverse
  let name := String.ofList (inner.map Char.toLower)
  (labels.find? fun l => l.1.contains name).map (·.2)

/-- The character of an octet where those from 128 on are for private use. -/
def userDefinedChar (b : UInt8) : Char :=
  if b < 0x80 then asciiChar b else Char.ofNat (0xF700 + b.toNat)

/-- The characters of octets, whatever they begin with. -/
def chars (c : Charset) (octets : List UInt8) : List Char :=
  match c with
  | .utf8 => Utf8.decodeLossy octets
  | .utf16 bigEndian => Utf16.decode bigEndian octets
  | .singleByte upper => singleByteText upper octets
  | .userDefined => octets.map userDefinedChar
  | .eucKr => Text.eucKr.reader.read octets
  | .big5 => Text.big5.reader.read octets
  | .gb18030 => Text.gb18030.read octets
  | .shiftJis => Text.shiftJis.reader.read octets
  | .eucJp => Text.eucJp.read octets
  | .iso2022Jp => Text.iso2022Jp.read octets
  | .refused => if octets.isEmpty then [] else ['\uFFFD']

/-- The text of octets. A byte order mark is not part of it and goes before the set. -/
def text (c : Charset) (octets : List UInt8) : String :=
  String.ofList <|
    match octets with
    | 0xEF :: 0xBB :: 0xBF :: rest => Utf8.decodeLossy rest
    | 0xFE :: 0xFF :: rest => Utf16.decode true rest
    | 0xFF :: 0xFE :: rest => Utf16.decode false rest
    | octets => c.chars octets

end Charset
end Text
end Weblog
