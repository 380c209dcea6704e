import MapClient.Text.Pieces
import MapClient.Text.SingleByte
import MapClient.Text.Utf16
import MapClient.Text.Utf8

/-!
# Encodings

What a sequence of bytes says is decided by its first bytes if they are a byte
order mark, and else by the label its sender gave it. Decoding never fails:
what an encoding has no character for becomes U+FFFD.
-/

set_option autoImplicit false

namespace MapClient.Text

inductive MultiByte where
  | gbk
  | gb18030
  | big5
  | eucJp
  | iso2022Jp
  | shiftJis
  | eucKr
  deriving DecidableEq, Repr

/-- What bytes stand for in each of these encodings, with `none` for what is
ill-formed. Their tables are not written out here. -/
abbrev MultiByte.Decoder := MultiByte → List UInt8 → Utf8.Decoded

/-- Reads ASCII, which most of these encodings share, and nothing else. -/
def MultiByte.ascii : Decoder := fun _ bs =>
  bs.map fun b => if b < 0x80 then some (Char.ofNat b.toNat) else none

inductive Encoding where
  | utf8
  | utf16 (bigEndian : Bool)
  | single (table : List Span)
  | multi (m : MultiByte)
  | userDefined
  | replacement

namespace Encoding

def labels : List (String × Encoding) := [
  ("unicode-1-1-utf-8 unicode11utf8 unicode20utf8 utf-8 utf8 x-unicode20utf8", .utf8),
  ("gb18030", .multi .gb18030),
  ("chinese csgb2312 csiso58gb231280 gb2312 gb_2312 gb_2312-80 gbk iso-ir-58 x-gbk",
    .multi .gbk),
  ("big5 big5-hkscs cn-big5 csbig5 x-x-big5", .multi .big5),
  ("cseucpkdfmtjapanese euc-jp x-euc-jp", .multi .eucJp),
  ("csiso2022jp iso-2022-jp", .multi .iso2022Jp),
  ("csshiftjis ms932 ms_kanji shift-jis shift_jis sjis windows-31j x-sjis", .multi .shiftJis),
  ("cseuckr csksc56011987 euc-kr iso-ir-149 korean ks_c_5601-1987 ks_c_5601-1989 ksc5601
    ksc_5601 windows-949",
    .multi .eucKr),
  ("866 cp866 csibm866 ibm866", .single SingleByte.ibm866),
  ("csisolatin2 iso-8859-2 iso-ir-101 iso8859-2 iso88592 iso_8859-2 iso_8859-2:1987 l2
    latin2",
    .single SingleByte.iso88592),
  ("csisolatin3 iso-8859-3 iso-ir-109 iso8859-3 iso88593 iso_8859-3 iso_8859-3:1988 l3
    latin3",
    .single SingleByte.iso88593),
  ("csisolatin4 iso-8859-4 iso-ir-110 iso8859-4 iso88594 iso_8859-4 iso_8859-4:1988 l4
    latin4",
    .single SingleByte.iso88594),
  ("csisolatincyrillic cyrillic iso-8859-5 iso-ir-144 iso8859-5 iso88595 iso_8859-5
    iso_8859-5:1988",
    .single SingleByte.iso88595),
  ("arabic asmo-708 csiso88596e csiso88596i csisolatinarabic ecma-114 iso-8859-6
    iso-8859-6-e iso-8859-6-i iso-ir-127 iso8859-6 iso88596 iso_8859-6 iso_8859-6:1987",
    .single SingleByte.iso88596),
  ("csisolatingreek ecma-118 elot_928 greek greek8 iso-8859-7 iso-ir-126 iso8859-7
    iso88597 iso_8859-7 iso_8859-7:1987 sun_eu_greek",
    .single SingleByte.iso88597),
  ("csiso88598e csisolatinhebrew hebrew iso-8859-8 iso-8859-8-e iso-ir-138 iso8859-8
    iso88598 iso_8859-8 iso_8859-8:1988 visual",
    .single SingleByte.iso88598),
  ("csiso88598i iso-8859-8-i logical", .single SingleByte.iso88598),
  ("csisolatin6 iso-8859-10 iso-ir-157 iso8859-10 iso885910 l6 latin6",
    .single SingleByte.iso885910),
  ("iso-8859-13 iso8859-13 iso885913", .single SingleByte.iso885913),
  ("iso-8859-14 iso8859-14 iso885914", .single SingleByte.iso885914),
  ("csisolatin9 iso-8859-15 iso8859-15 iso885915 iso_8859-15 l9", .single SingleByte.iso885915),
  ("iso-8859-16", .single SingleByte.iso885916),
  ("cskoi8r koi koi8 koi8-r koi8_r", .single SingleByte.koi8R),
  ("koi8-ru koi8-u", .single SingleByte.koi8U),
  ("csmacintosh mac macintosh x-mac-roman", .single SingleByte.macintosh),
  ("dos-874 iso-8859-11 iso8859-11 iso885911 tis-620 windows-874",
    .single SingleByte.windows874),
  ("cp1250 windows-1250 x-cp1250", .single SingleByte.windows1250),
  ("cp1251 windows-1251 x-cp1251", .single SingleByte.windows1251),
  ("ansi_x3.4-1968 ascii cp1252 cp819 csisolatin1 ibm819 iso-8859-1 iso-ir-100 iso8859-1
    iso88591 iso_8859-1 iso_8859-1:1987 l1 latin1 us-ascii windows-1252 x-cp1252",
    .single SingleByte.windows1252),
  ("cp1253 windows-1253 x-cp1253", .single SingleByte.windows1253),
  ("cp1254 csisolatin5 iso-8859-9 iso-ir-148 iso8859-9 iso88599 iso_8859-9 iso_8859-9:1989
    l5 latin5 windows-1254 x-cp1254",
    .single SingleByte.windows1254),
  ("cp1255 windows-1255 x-cp1255", .single SingleByte.windows1255),
  ("cp1256 windows-1256 x-cp1256", .single SingleByte.windows1256),
  ("cp1257 windows-1257 x-cp1257", .single SingleByte.windows1257),
  ("cp1258 windows-1258 x-cp1258", .single SingleByte.windows1258),
  ("x-mac-cyrillic x-mac-ukrainian", .single SingleByte.xMacCyrillic),
  ("csiso2022kr hz-gb-2312 iso-2022-cn iso-2022-cn-ext iso-2022-kr replacement", .replacement),
  ("unicodefffe utf-16be", .utf16 true),
  ("csunicode iso-10646-ucs-2 ucs-2 unicode unicodefeff utf-16 utf-16le", .utf16 false),
  ("x-user-defined", .userDefined)]

def isLabelBlank (c : Char) : Bool :=
  c == ' ' || c == '\t' || c == '\n' || c == '\x0c' || c == '\r'

def lowerLabel (c : Char) : Char :=
  if 'A' ≤ c ∧ c ≤ 'Z' then Char.ofNat (c.toNat + 32) else c

def ofLabel? (label : List Char) : Option Encoding :=
  let name := (strip isLabelBlank label).map lowerLabel
  (labels.find? fun e => (pieces isLabelBlank e.1.toList).any fun l => l ≠ [] && l == name).map
    (·.2)

def ofMark? : List UInt8 → Option (Encoding × List UInt8)
  | 0xEF :: 0xBB :: 0xBF :: bs => some (.utf8, bs)
  | 0xFE :: 0xFF :: bs => some (.utf16 true, bs)
  | 0xFF :: 0xFE :: bs => some (.utf16 false, bs)
  | _ => none

def userDefinedChar (b : UInt8) : Char :=
  Char.ofNat (if b < 0x80 then b.toNat else 0xF700 + b.toNat)

def decode (multi : MultiByte.Decoder) : Encoding → List UInt8 → List Char
  | .utf8, bs => Utf8.decode bs
  | .utf16 bigEndian, bs => Utf16.decode bigEndian bs
  | .single table, bs => SingleByte.decode table bs
  | .multi m, bs => (multi m bs).map (·.getD '\ufffd')
  | .userDefined, bs => bs.map userDefinedChar
  | .replacement, bs => if bs = [] then [] else ['\ufffd']

def decodeMarked (multi : MultiByte.Decoder) (e : Encoding) (bs : List UInt8) : String :=
  match ofMark? bs with
  | some (marked, rest) => .ofList (marked.decode multi rest)
  | none => .ofList (e.decode multi bs)

end Encoding

end MapClient.Text
