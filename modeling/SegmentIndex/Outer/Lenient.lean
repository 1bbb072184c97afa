import SegmentIndex.Config.Reading
import SegmentIndex.Decimal.Nearest
import SegmentIndex.Text.Basic
import SegmentIndex.Text.Case

/-!
# Lenient readings

A setting may be written as a value of another kind if that denotes exactly one value of
the kind asked for: a whole number as a text or as a decimal without a fraction, a flag
as one of a few words or as one or zero.
-/
namespace SegmentIndex.Outer

open Config (Data Reader Refusal Step)

namespace Lenient

/-- Drops underscores that stand alone inside a text; others are refused. -/
def dropUnderscores (cs : List Char) : Option (List Char) :=
  let doubled := (cs.zip (cs.drop 1)).any fun (a, b) => a = '_' && b = '_'
  if cs.head? = some '_' || cs.getLast? = some '_' || doubled then none
  else some (cs.filter (· ≠ '_'))

def dropZeroFraction (cs : List Char) : List Char :=
  let zeros := (cs.dropWhile (· ≠ '.')).drop 1
  if !zeros.isEmpty && zeros.all (· = '0') then cs.takeWhile (· ≠ '.') else cs

/-- Drops zeros and underscores in front of a number; `last` is the character before. -/
def dropZerosAfter (last : Char) : List Char → Option (List Char)
  | [] => some [last]
  | c :: rest =>
    if c = '0' || c = '_' then dropZerosAfter c rest
    else if c = '.' then some (last :: c :: rest)
    else if c.isDigit || c = '-' then some (c :: rest)
    else none

def dropZeros : List Char → Option (List Char)
  | [] => none
  | c :: rest =>
    if c = '0' then dropZerosAfter c rest else if c.isDigit then some (c :: rest) else none

def splitSign : List Char → Bool × List Char
  | '-' :: rest => (true, rest)
  | '+' :: rest => (false, rest)
  | cs => (false, cs)

/-- Reads digits that begin with a zero only if that stands alone. -/
def readPlain (cs : List Char) : Option Nat :=
  if cs.isEmpty || !cs.all Char.isDigit || (cs.head? = some '0' && cs.length > 1) then none
  else some (Decimal.digitsValue cs)

/-- Reads a whole number of bounded length, which may still begin with a sign. -/
def readBounded (cs : List Char) : Except Refusal Int :=
  if (String.ofList cs).utf8ByteSize > 4300 then .error .wholeTooLong
  else
    match cs with
    | '-' :: rest => (readPlain rest).elim (.error .unreadWhole) fun n => .ok (-(n : Int))
    | cs => (readPlain cs).elim (.error .unreadWhole) fun n => .ok n

def wholeOfText (s : String) : Except Refusal Int :=
  let (negative, cs) := splitSign (Text.trimWhite s.toList)
  match dropZeros cs with
  | none => .error .unreadWhole
  | some cs =>
    let cs := dropZeroFraction cs
    match dropUnderscores (if negative then '-' :: cs else cs) with
    | none => .error .unreadWhole
    | some cs => readBounded cs

/-- The first number that takes more than sixty-four bits with a sign. -/
def wordBound : Int := 0x8000000000000000

/-- Whether a number is one of sixty-four bits with a sign. -/
def inWord (n : Int) : Bool := -wordBound ≤ n && n < wordBound

/-- The whole number that a double is, if it has no fraction. -/
def wholeOfDouble (x : Float) : Except Refusal Int :=
  match Value.numberParts (.float x) with
  | none => .error .notFinite
  | some (negative, m, p) =>
    if p < 0 && m % Decimal.twos p.natAbs ≠ 0 then .error .fraction
    else
      let n : Int := if p < 0 then m / Decimal.twos p.natAbs else m * Decimal.twos p.natAbs
      if n < wordBound then .ok (if negative then -n else n) else .error .wholeTooLong

def whole : Data → Except Refusal Int
  | .int n => .ok n
  | .bool b => .ok (if b then 1 else 0)
  | .float x => wholeOfDouble x
  | .text s => wholeOfText s
  | _ => .error .notWhole

def flagOfNumber (n : Int) : Except Refusal Bool :=
  if n = 0 then .ok false
  else if n = 1 then .ok true
  else .error .unreadFlag

def offWords : List String := ["0", "f", "n", "no", "off", "false"]

def onWords : List String := ["1", "t", "y", "yes", "on", "true"]

def flag : Data → Except Refusal Bool
  | .bool b => .ok b
  | .int n => if inWord n then flagOfNumber n else .error .notFlag
  | .float x =>
    match wholeOfDouble x with
    | .ok n => flagOfNumber n
    | .error _ => .error .notFlag
  | .text s =>
    let s := Text.lowerAscii s
    if offWords.contains s then .ok false
    else if onWords.contains s then .ok true
    else .error .unreadFlag
  | _ => .error .notFlag

/-- The double that a text denotes, without blanks and underscores. -/
def decimalOf (cs : List Char) : Option Float :=
  let (negative, cs) := splitSign cs
  let word := String.ofList (cs.map Char.toLower)
  let size :=
    if word = "inf" || word = "infinity" then some Decimal.infinite
    else if word = "nan" then some Decimal.undefined
    else Decimal.readUnsigned cs
  size.map fun x => if negative then -x else x

def decimal : Data → Except Refusal Float
  | .float x => .ok x
  | .bool b => .ok (if b then 1.0 else 0.0)
  | .int n => let x := Float.ofInt n; if x.isInf then .error .notDecimal else .ok x
  | .text s =>
    match decimalOf (Text.trimWhite s.toList) with
    | some x => .ok x
    | none => ((dropUnderscores s.toList).bind decimalOf).elim (.error .unreadDecimal) .ok
  | _ => .error .notDecimal

def text : Data → Except Refusal String
  | .text s => .ok s
  | _ => .error .notText

def keyStep : Data → Step
  | .bool b => .item (if b then 1 else 0)
  | .int n => if inWord n then .item n else .setting (toString n)
  | .null => .setting Value.null.quoted
  | k => .setting k.keyText

/-- The lenient reader of settings. -/
def reader : Reader := ⟨text, whole, flag, decimal, keyStep⟩

end Lenient

end SegmentIndex.Outer
