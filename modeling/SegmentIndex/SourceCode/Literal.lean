import SegmentIndex.Decimal.Nearest
import SegmentIndex.SourceCode.Tree
import SegmentIndex.Text.Named

/-!
# What literals stand for

The body of a string literal is a sequence of code points in which a backslash
begins an escape, unless the literal is raw. An escape that is not known stands for
itself. A number is whole, real or imaginary.
-/
namespace SegmentIndex.SourceCode

def hexDigit? (c : Char) : Option Nat :=
  if c.isDigit then some (c.toNat - '0'.toNat)
  else if 'a' ≤ c && c ≤ 'f' then some (c.toNat - 'a'.toNat + 10)
  else if 'A' ≤ c && c ≤ 'F' then some (c.toNat - 'A'.toNat + 10)
  else none

def readHex (count : Nat) (cs : List Char) : Option (Nat × List Char) :=
  let ds := cs.take count
  if ds.length < count then none
  else
    (ds.foldl (fun acc c => acc.bind fun n => (hexDigit? c).map (n * 16 + ·)) (some 0)).map
      fun n => (n, cs.drop count)

def readOctal (cs : List Char) : Nat × List Char :=
  let ds := (cs.take 3).takeWhile fun c => '0' ≤ c && c ≤ '7'
  (ds.foldl (fun n c => n * 8 + (c.toNat - '0'.toNat)) 0, cs.drop ds.length)

/-- The code point that a letter after a backslash stands for. -/
def simpleEscape? : Char → Option Nat
  | '\\' => some 0x5c
  | '\'' => some 0x27
  | '"' => some 0x22
  | 'a' => some 7
  | 'b' => some 8
  | 't' => some 9
  | 'n' => some 10
  | 'v' => some 11
  | 'f' => some 12
  | 'r' => some 13
  | _ => none

/-- Reads the escape after a backslash: what it stands for and what follows. -/
def readEscape (cs : List Char) : Option (List Nat × List Char) :=
  match cs with
  | [] => some ([0x5c], [])
  | '\n' :: rest => some ([], rest)
  | 'x' :: rest => (readHex 2 rest).map fun (n, r) => ([n], r)
  | 'u' :: rest => (readHex 4 rest).map fun (n, r) => ([n], r)
  | 'U' :: rest =>
    (readHex 8 rest).bind fun (n, r) => if n ≤ 0x10ffff then some ([n], r) else none
  | 'N' :: '\x7b' :: rest =>
    match rest.dropWhile (· ≠ '\x7d') with
    | [] => none
    | _ :: after => (Text.codeOfName? (rest.takeWhile (· ≠ '\x7d'))).map fun n => ([n], after)
  | 'N' :: _ => none
  | c :: rest =>
    match simpleEscape? c with
    | some n => some ([n], rest)
    | none =>
      if '0' ≤ c && c ≤ '7' then let (n, r) := readOctal cs; some ([n], r)
      else some ([0x5c, c.toNat], rest)

def unescape : Nat → List Char → Option (List Nat)
  | 0, cs => if cs.isEmpty then some [] else none
  | _ + 1, [] => some []
  | fuel + 1, '\\' :: rest => do
    let (codes, after) ← readEscape rest
    return codes ++ (← unescape fuel after)
  | fuel + 1, c :: rest => (unescape fuel rest).map (c.toNat :: ·)

def textCodes? (raw : Bool) (body : List Char) : Option (List Nat) :=
  if raw then some (body.map Char.toNat) else unescape (body.length + 1) body

/-- The bytes of a body with escapes; only those for characters of one byte are known. -/
def unescapeBytes : Nat → List Char → Option (List Nat)
  | 0, cs => if cs.isEmpty then some [] else none
  | _ + 1, [] => some []
  | fuel + 1, '\\' :: rest => do
    let (codes, after) ← match rest with
      | 'u' :: more => some ([0x5c, 'u'.toNat], more)
      | 'U' :: more => some ([0x5c, 'U'.toNat], more)
      | 'N' :: more => some ([0x5c, 'N'.toNat], more)
      | _ => readEscape rest
    return codes.map (· % 256) ++ (← unescapeBytes fuel after)
  | fuel + 1, c :: rest => (unescapeBytes fuel rest).map (c.toNat :: ·)

/-- The bytes of a literal; every character of it must be a basic one. -/
def byteCodes? (raw : Bool) (body : List Char) : Option (List Nat) :=
  if body.any (·.toNat ≥ 128) then none
  else if raw then some (body.map Char.toNat)
  else unescapeBytes (body.length + 1) body

/-- The whole number written with digits of a base. -/
def basedValue (base : Nat) (ds : List Char) : Nat :=
  ds.foldl (fun n c => n * base + (hexDigit? c).getD 0) 0

def numberOf? (text : List Char) : Option Expr :=
  match text with
  | '0' :: 'x' :: ds => some (.int (basedValue 16 ds))
  | '0' :: 'o' :: ds => some (.int (basedValue 8 ds))
  | '0' :: 'b' :: ds => some (.int (basedValue 2 ds))
  | _ =>
    if text.all Char.isDigit then some (.int (Decimal.digitsValue text))
    else if text.getLast? = some 'j' then (Decimal.readUnsigned text.dropLast).map .imaginary
    else (Decimal.readUnsigned text).map .real

end SegmentIndex.SourceCode
