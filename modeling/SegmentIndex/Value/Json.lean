import SegmentIndex.Value.Text

/-!
# JSON text of values

Writing sorts the keys of a map and separates items by a comma and a space, keys from values by a
colon and a space. Reading takes any white space, keeps a number with a point or an exponent as a
float and any other as a whole number, and lets the last of several equal keys decide.
-/
namespace SegmentIndex.Json

/-- A code point as a unit of four hexadecimal digits. -/
def unit (n : Nat) : List Char := ['\\', 'u'] ++ Text.hexDigits 4 n

def escapedUnits (c : Char) : List Char :=
  let n := c.toNat
  if n < 0x10000 then unit n
  else unit (0xd800 + (n - 0x10000) / 0x400) ++ unit (0xdc00 + (n - 0x10000) % 0x400)

/-- A character inside a JSON string; `ascii` asks for basic printable characters only. -/
def escaped (ascii : Bool) (c : Char) : List Char :=
  if c = '"' then ['\\', '"']
  else if c = '\\' then ['\\', '\\']
  else if c = '\n' then ['\\', 'n']
  else if c = '\r' then ['\\', 'r']
  else if c = '\t' then ['\\', 't']
  else if c = '\x08' then ['\\', 'b']
  else if c = '\x0c' then ['\\', 'f']
  else if c.toNat < 0x20 then unit c.toNat
  else if ascii && 0x7f ≤ c.toNat then escapedUnits c
  else [c]

def encodeString (ascii : Bool) (s : String) : List Char :=
  '"' :: (s.toList.flatMap (escaped ascii) ++ ['"'])

/-- Numbers that are not finite have names of their own. -/
def layout : Decimal.Layout := { Decimal.plain with infinity := "Infinity", undefined := "NaN" }

/-- Puts an entry into a list that is sorted by key. -/
def insertByKey {α : Type} (e : String × α) : List (String × α) → List (String × α)
  | [] => [e]
  | f :: rest => if e.1 < f.1 then e :: f :: rest else f :: insertByKey e rest

/-- Sequences of characters with a comma and a space between them. -/
def joined : List (List Char) → List Char
  | [] => []
  | [a] => a
  | a :: rest => a ++ ',' :: ' ' :: joined rest

def entryText (ascii : Bool) (e : String × List Char) : List Char :=
  encodeString ascii e.1 ++ ':' :: ' ' :: e.2

mutual

/-- The JSON text of a value. -/
def encode (ascii : Bool) : Value → List Char
  | .null => "null".toList
  | .bool true => "true".toList
  | .bool false => "false".toList
  | .int n => (toString n).toList
  | .float x => (Decimal.text layout x).toList
  | .str s => encodeString ascii s
  | .list items => '[' :: (joined (encodeItems ascii items) ++ [']'])
  | .map entries =>
    '\x7b' :: (joined ((encodeEntries ascii entries).map (entryText ascii)) ++ ['\x7d'])

def encodeItems (ascii : Bool) : List Value → List (List Char)
  | [] => []
  | v :: rest => encode ascii v :: encodeItems ascii rest

/-- The keys of a map with the JSON texts of their values, sorted by key. -/
def encodeEntries (ascii : Bool) : List (String × Value) → List (String × List Char)
  | [] => []
  | (k, v) :: rest => insertByKey (k, encode ascii v) (encodeEntries ascii rest)

end

def encodeAscii (v : Value) : String := String.ofList (encode true v)

def encodeText (v : Value) : String := String.ofList (encode false v)

/-! ## Reading -/

/-- Whether a character is white space between the parts of a JSON text. -/
def isSpace (c : Char) : Bool := c = ' ' || c = '\t' || c = '\n' || c = '\r'

/-- The text after its leading white space. -/
def skip (cs : List Char) : List Char := cs.dropWhile isSpace

def hexValue? (c : Char) : Option Nat :=
  if '0' ≤ c && c ≤ '9' then some (c.toNat - '0'.toNat)
  else if 'a' ≤ c && c ≤ 'f' then some (c.toNat - 'a'.toNat + 10)
  else if 'A' ≤ c && c ≤ 'F' then some (c.toNat - 'A'.toNat + 10)
  else none

def readUnit : List Char → Option (Nat × List Char)
  | a :: b :: c :: d :: rest => do
    let a ← hexValue? a
    let b ← hexValue? b
    let c ← hexValue? c
    let d ← hexValue? d
    return (((a * 16 + b) * 16 + c) * 16 + d, rest)
  | _ => none

/-- Reads the code units of a character whose first unit is known; a lone half is replaced. -/
def readPair (high : Nat) (rest : List Char) : Char × List Char :=
  if 0xd800 ≤ high && high < 0xdc00 then
    match rest with
    | '\\' :: 'u' :: more =>
      match readUnit more with
      | some (low, after) =>
        if 0xdc00 ≤ low && low < 0xe000 then
          (Char.ofNat (0x10000 + (high - 0xd800) * 0x400 + (low - 0xdc00)), after)
        else ('\ufffd', rest)
      | none => ('\ufffd', rest)
    | _ => ('\ufffd', rest)
  else if 0xdc00 ≤ high && high < 0xe000 then ('\ufffd', rest)
  else (Char.ofNat high, rest)

def shortEscape? : Char → Option Char
  | '"' => some '"'
  | '\\' => some '\\'
  | '/' => some '/'
  | 'b' => some '\x08'
  | 'f' => some '\x0c'
  | 'n' => some '\n'
  | 'r' => some '\r'
  | 't' => some '\t'
  | _ => none

def readString : Nat → List Char → List Char → Option (String × List Char)
  | 0, _, _ => none
  | fuel + 1, acc, cs =>
    match cs with
    | [] => none
    | '"' :: rest => some (String.ofList acc.reverse, rest)
    | '\\' :: 'u' :: rest =>
      match readUnit rest with
      | some (n, after) =>
        let (c, after) := readPair n after
        readString fuel (c :: acc) after
      | none => none
    | '\\' :: e :: rest =>
      match shortEscape? e with
      | some c => readString fuel (c :: acc) rest
      | none => none
    | c :: rest => if c.toNat < 0x20 || c = '\\' then none else readString fuel (c :: acc) rest

def readSign : List Char → Bool × List Char
  | '-' :: rest => (true, rest)
  | cs => (false, cs)

/-- Reads a point and the digits after it, if there are any. -/
def readFraction : List Char → List Char × List Char
  | '.' :: d :: rest =>
    if d.isDigit then ((d :: rest).takeWhile Char.isDigit, rest.dropWhile Char.isDigit)
    else ([], '.' :: d :: rest)
  | cs => ([], cs)

def digitsValue (ds : List Char) : Nat := (String.ofList ds).toNat?.getD 0

/-- Reads a mark, a sign and digits of an exponent, if they are there. -/
def readExponent : List Char → Option (Int × List Char)
  | mark :: rest =>
    let (down, digits) := match rest with
      | '-' :: r => (true, r)
      | '+' :: r => (false, r)
      | r => (false, r)
    let ds := digits.takeWhile Char.isDigit
    if (mark = 'e' || mark = 'E') && !ds.isEmpty then
      let n : Int := (min (digitsValue ds) 100000 : Nat)
      some (if down then -n else n, digits.dropWhile Char.isDigit)
    else none
  | [] => none

/-- Reads a number: sign, digits, and if they follow a fraction and an exponent. -/
def readNumber (cs : List Char) : Option (Value × List Char) :=
  let (negative, cs) := readSign cs
  let (whole, cs) := cs.span Char.isDigit
  if whole.isEmpty || (whole.length > 1 && whole.head? = some '0') then none
  else
    let (fraction, cs) := readFraction cs
    let exponent := readExponent cs
    if fraction.isEmpty && exponent.isNone then
      let n : Int := digitsValue whole
      some (.int (if negative then -n else n), cs)
    else
      let (e, cs) := exponent.getD (0, cs)
      let scale := e - fraction.length
      let x := Float.ofScientific (digitsValue (whole ++ fraction)) (scale < 0) scale.natAbs
      some (.float (if negative then -x else x), cs)

def words : List (List Char × Value) :=
  [("null".toList, .null), ("true".toList, .bool true), ("false".toList, .bool false),
   ("NaN".toList, .float (0.0 / 0.0)), ("Infinity".toList, .float (1.0 / 0.0)),
   ("-Infinity".toList, .float (-1.0 / 0.0))]

def readWord (cs : List Char) : Option (Value × List Char) :=
  (words.find? fun (w, _) => w.isPrefixOf cs).map fun (w, v) => (v, cs.drop w.length)

mutual

def readValue : Nat → List Char → Option (Value × List Char)
  | 0, _ => none
  | fuel + 1, cs =>
    match skip cs with
    | [] => none
    | '"' :: rest => (readString fuel [] rest).map fun (s, rest) => (.str s, rest)
    | '[' :: rest =>
      match skip rest with
      | ']' :: rest => some (.list [], rest)
      | rest => (readItems fuel rest).map fun (vs, rest) => (.list vs, rest)
    | '\x7b' :: rest =>
      match skip rest with
      | '\x7d' :: rest => some (.map [], rest)
      | rest => (readEntries fuel [] rest).map fun (es, rest) => (.map es, rest)
    | cs =>
      match readWord cs with
      | some r => some r
      | none => readNumber cs

def readItems : Nat → List Char → Option (List Value × List Char)
  | 0, _ => none
  | fuel + 1, cs =>
    match readValue fuel cs with
    | none => none
    | some (v, rest) =>
      match skip rest with
      | ',' :: rest => (readItems fuel rest).map fun (vs, rest) => (v :: vs, rest)
      | ']' :: rest => some ([v], rest)
      | _ => none

def readEntries : Nat → Entries → List Char → Option (Entries × List Char)
  | 0, _, _ => none
  | fuel + 1, acc, cs =>
    match skip cs with
    | '"' :: rest =>
      match readString fuel [] rest with
      | none => none
      | some (k, rest) =>
        match skip rest with
        | ':' :: rest =>
          match readValue fuel rest with
          | none => none
          | some (v, rest) =>
            let acc := Entries.put k v acc
            match skip rest with
            | ',' :: rest => readEntries fuel acc rest
            | '\x7d' :: rest => some (acc, rest)
            | _ => none
        | _ => none
    | _ => none

end

/-- The value of a JSON text. -/
def decode (s : String) : Option Value :=
  match readValue (2 * s.length + 2) s.toList with
  | some (v, rest) => if (skip rest).isEmpty then some v else none
  | none => none

end SegmentIndex.Json
