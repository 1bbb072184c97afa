import SegmentIndex.Text.Basic

/-!
# Text encodings

An encoding is found by its name, in which case, hyphens and spaces do not matter.
Bytes that an encoding does not admit have no text in it; the Latin alphabet
number one gives every byte a character.
-/
namespace SegmentIndex.Text

inductive Encoding where
  | utf8
  | utf8Marked
  | ascii
  | latin1
  | windows1252
  | utf16 (bigEndian : Option Bool)
  | utf32 (bigEndian : Option Bool)
  deriving DecidableEq, Repr

namespace Encoding

def table : List (Encoding × List String) :=
  [(.utf8, ["utf_8", "u8", "utf", "utf8", "utf8_ucs2", "utf8_ucs4", "cp65001", "locale"]),
   (.utf8Marked, ["utf_8_sig"]),
   (.ascii, ["ascii", "646", "ansi_x3.4_1968", "ansi_x3_4_1968", "ansi_x3.4_1986", "cp367",
     "csascii", "ibm367", "iso646_us", "iso_646.irv_1991", "iso_ir_6", "us", "us_ascii"]),
   (.latin1, ["latin_1", "8859", "cp819", "csisolatin1", "ibm819", "iso8859", "iso8859_1",
     "iso_8859_1", "iso_8859_1_1987", "iso_ir_100", "l1", "latin", "latin1"]),
   (.windows1252, ["cp1252", "1252", "windows_1252"]),
   (.utf16 none, ["utf_16", "u16", "utf16"]),
   (.utf16 (some true), ["utf_16_be", "unicodebigunmarked", "utf_16be"]),
   (.utf16 (some false), ["utf_16_le", "unicodelittleunmarked", "utf_16le"]),
   (.utf32 none, ["utf_32", "u32", "utf32"]),
   (.utf32 (some true), ["utf_32_be", "utf_32be"]),
   (.utf32 (some false), ["utf_32_le", "utf_32le"])]

/-- A name with runs of other characters than letters, digits
and points made into one underscore. -/
def plainName (name : List Char) : List Char :=
  match name with
  | [] => []
  | c :: rest =>
    if c.isAlphanum || c = '.' then c.toLower :: plainName rest
    else
      match plainName rest with
      | [] => []
      | '_' :: more => '_' :: more
      | more => '_' :: more

def ofName? (name : String) : Option Encoding :=
  let plain := String.ofList ((plainName name.toList).dropWhile (· = '_'))
  (table.find? fun (_, names) => names.contains plain).map (·.1)

/-- The characters of the bytes from 128 to 159 in the Windows
alphabet; zero where there is none. -/
def windowsCodes : List Nat :=
  [0x20ac, 0, 0x201a, 0x192, 0x201e, 0x2026, 0x2020, 0x2021, 0x2c6, 0x2030, 0x160, 0x2039, 0x152, 0,
   0x17d, 0, 0, 0x2018, 0x2019, 0x201c, 0x201d, 0x2022, 0x2013, 0x2014, 0x2dc, 0x2122, 0x161,
   0x203a, 0x153, 0, 0x17e, 
   0x178]

def windowsChar? (b : UInt8) : Option Char :=
  let n := b.toNat
  if 0x80 ≤ n && n < 0xa0 then
    match windowsCodes[n - 0x80]? with
    | some 0 => none
    | some code => some (Char.ofNat code)
    | none => none
  else some (Char.ofNat n)

def latin1Chars (bytes : List UInt8) : List Char := bytes.map fun b => Char.ofNat b.toNat

def groupValue (bigEndian : Bool) (group : List UInt8) : Nat :=
  (if bigEndian then group else group.reverse).foldl (fun acc b => acc * 256 + b.toNat) 0

def pairs (bigEndian : Bool) : List UInt8 → Option (List Nat)
  | [] => some []
  | a :: b :: rest => (pairs bigEndian rest).map (groupValue bigEndian [a, b] :: ·)
  | _ => none

def quads (bigEndian : Bool) : List UInt8 → Option (List Nat)
  | [] => some []
  | a :: b :: c :: d :: rest => (quads bigEndian rest).map (groupValue bigEndian [a, b, c, d] :: ·)
  | _ => none

def fromUnits : List Nat → Option (List Char)
  | [] => some []
  | u :: rest =>
    if 0xd800 ≤ u && u < 0xdc00 then
      match rest with
      | v :: more =>
        if 0xdc00 ≤ v && v < 0xe000 then
          (fromUnits more).map (Char.ofNat (0x10000 + (u - 0xd800) * 0x400 + (v - 0xdc00)) :: ·)
        else none
      | [] => none
    else if 0xdc00 ≤ u && u < 0xe000 then none
    else (fromUnits rest).map (Char.ofNat u :: ·)

def fromCodes (codes : List Nat) : Option (List Char) :=
  codes.mapM fun n => if h : n.isValidChar then some (Char.ofNatAux n h) else none

/-- The text of bytes, where the encoding admits them. -/
def decode (e : Encoding) (bytes : ByteArray) : Option String :=
  let bs := bytes.toList
  match e with
  | .utf8 => String.fromUTF8? bytes
  | .utf8Marked =>
    if bs.take 3 = [0xef, 0xbb, 0xbf] then String.fromUTF8? (bytes.extract 3 bytes.size)
    else String.fromUTF8? bytes
  | .ascii => if bs.all (· < 128) then some (String.ofList (latin1Chars bs)) else none
  | .latin1 => some (String.ofList (latin1Chars bs))
  | .windows1252 => (bs.mapM windowsChar?).map String.ofList
  | .utf16 (some big) => ((pairs big bs).bind fromUnits).map String.ofList
  | .utf16 none =>
    let (big, bs) := match bs with
      | 0xff :: 0xfe :: rest => (false, rest)
      | 0xfe :: 0xff :: rest => (true, rest)
      | _ => (false, bs)
    ((pairs big bs).bind fromUnits).map String.ofList
  | .utf32 (some big) => ((quads big bs).bind fromCodes).map String.ofList
  | .utf32 none =>
    let (big, bs) := match bs with
      | 0xff :: 0xfe :: 0 :: 0 :: rest => (false, rest)
      | 0 :: 0 :: 0xfe :: 0xff :: rest => (true, rest)
      | _ => (false, bs)
    ((quads big bs).bind fromCodes).map String.ofList

end Encoding

/-! ## Where bytes have no text -/

/-- Why bytes are no text. -/
inductive DecodeFault where
  | badStart
  | badContinuation
  | cutShort
  deriving DecidableEq, Repr

def DecodeFault.words : DecodeFault → String
  | .badStart => "invalid start byte"
  | .badContinuation => "invalid continuation byte"
  | .cutShort => "unexpected end of data"

/-- The bytes that may follow the first one of a character of several bytes, each as a range. -/
def continuations (b : UInt8) : Option (List (UInt8 × UInt8)) :=
  let rest : UInt8 × UInt8 := (0x80, 0xbf)
  if 0xc2 ≤ b && b ≤ 0xdf then some [rest]
  else if b = 0xe0 then some [(0xa0, 0xbf), rest]
  else if b = 0xed then some [(0x80, 0x9f), rest]
  else if 0xe1 ≤ b && b ≤ 0xef then some [rest, rest]
  else if b = 0xf0 then some [(0x90, 0xbf), rest, rest]
  else if 0xf1 ≤ b && b ≤ 0xf3 then some [rest, rest, rest]
  else if b = 0xf4 then some [(0x80, 0x8f), rest, rest]
  else none

/-- The number of bytes that are as they must be, and the fault of the next one. -/
def checkContinuation : List (UInt8 × UInt8) → List UInt8 → Nat × Option DecodeFault
  | [], _ => (0, none)
  | _ :: _, [] => (0, some .cutShort)
  | (lo, hi) :: ranges, b :: bs =>
    if lo ≤ b && b ≤ hi then let (n, f) := checkContinuation ranges bs; (n + 1, f)
    else (0, some .badContinuation)

/-- The first fault of bytes that should be text of one to four bytes a character: its position, the
bytes that belong to it, and its kind. -/
def firstFault : Nat → Nat → List UInt8 → Option (Nat × List UInt8 × DecodeFault)
  | 0, _, _ => none
  | _ + 1, _, [] => none
  | fuel + 1, at_, b :: bs =>
    if b < 0x80 then firstFault fuel (at_ + 1) bs
    else
      match continuations b with
      | none => some (at_, [b], .badStart)
      | some ranges =>
        match checkContinuation ranges bs with
        | (n, some f) => some (at_, b :: bs.take n, f)
        | (n, none) => firstFault fuel (at_ + n + 1) (bs.drop n)

def byteText (b : UInt8) : String :=
  let digit (n : Nat) : Char := (Nat.toDigits 16 n).headD '0'
  String.ofList ['0', 'x', digit (b.toNat / 16), digit (b.toNat % 16)]

/-- The words about the first fault of bytes that should be text. -/
def faultMessage? (bytes : ByteArray) : Option String :=
  (firstFault bytes.size 0 bytes.toList).map fun (at_, bad, fault) =>
    let place := match bad with
      | [b] => "byte " ++ byteText b ++ " in position " ++ toString at_
      | _ => "bytes in position " ++ toString at_ ++ "-" ++ toString (at_ + bad.length - 1)
    "'utf-8' codec can't decode " ++ place ++ ": " ++ fault.words

/-- Every line end as a line feed: a carriage return, alone or before a line feed, counts as one. -/
def uniformLines : List Char → List Char
  | '\r' :: '\n' :: rest => '\n' :: uniformLines rest
  | c :: rest => (if c = '\r' then '\n' else c) :: uniformLines rest
  | [] => []

end SegmentIndex.Text
