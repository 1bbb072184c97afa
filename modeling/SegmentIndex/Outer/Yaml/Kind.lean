import SegmentIndex.Config.Data
import SegmentIndex.Decimal.Nearest
import SegmentIndex.Value.Json

/-!
# What plain scalars mean

A plain scalar without a tag is taken by its form: a word for nothing or for a truth
value, a whole number in one of several bases or in sixties, a decimal, a point in time,
the mark that merges maps, or else a text.
-/
namespace SegmentIndex.Outer.Yaml

open Config (Data ParseFault)

inductive Kind where
  | null
  | bool
  | int
  | float
  | time
  | text
  | merge
  | default
  | list
  | map
  | pairs
  | other
  deriving DecidableEq, Repr, Inhabited

namespace Kind

def ofTag (tag : String) : Kind :=
  let names : List (String × Kind) :=
    [("null", .null), ("bool", .bool), ("int", .int), ("float", .float), ("timestamp", .time),
     ("str", .text), ("seq", .list), ("map", .map), ("omap", .pairs), ("pairs", .pairs)]
  ((names.find? fun (name, _) => tag = "tag:yaml.org,2002:" ++ name).map (·.2)).getD .other

/-! ## Forms -/

def parts (cs : List Char) : List (List Char) :=
  (cs.splitBy fun a b => a ≠ ':' && b ≠ ':').filter (· ≠ [':'])

def isSixtieth : List Char → Bool
  | [a] => a.isDigit
  | [a, b] => '0' ≤ a && a ≤ '5' && b.isDigit
  | _ => false

/-- Whether characters are a colon and a part of a number in sixties, once or more. -/
def areSixtieths : List Char → Bool
  | ':' :: a :: ':' :: rest => isSixtieth [a] && areSixtieths (':' :: rest)
  | ':' :: a :: b :: ':' :: rest => isSixtieth [a, b] && areSixtieths (':' :: rest)
  | [':', a] => isSixtieth [a]
  | [':', a, b] => isSixtieth [a, b]
  | _ => false

def unsigned : List Char → List Char
  | '+' :: rest => rest
  | '-' :: rest => rest
  | cs => cs

def isUnsignedInt (cs : List Char) : Bool :=
  match cs with
  | ['0'] => true
  | '0' :: 'b' :: digits => !digits.isEmpty && digits.all fun c => c = '0' || c = '1' || c = '_'
  | '0' :: 'x' :: digits =>
    !digits.isEmpty && digits.all fun c => (Json.hexValue? c).isSome || c = '_'
  | '0' :: digits => digits.all fun c => ('0' ≤ c && c ≤ '7') || c = '_'
  | c :: rest =>
    let more := rest.dropWhile fun c => c.isDigit || c = '_'
    c.isDigit && (more.isEmpty || areSixtieths more)
  | [] => false

/-- Whether characters are a mark, a sign and digits, or nothing. -/
def isExponent : List Char → Bool
  | [] => true
  | e :: s :: ds =>
    (e = 'e' || e = 'E') && (s = '+' || s = '-') && !ds.isEmpty && ds.all Char.isDigit
  | _ => false

/-- Whether characters are a point, digits and underscores, and perhaps an exponent. -/
def isFraction : List Char → Bool
  | '.' :: rest => isExponent (rest.dropWhile fun c => c.isDigit || c = '_')
  | _ => false

def isUnsignedFloat (cs : List Char) : Bool :=
  match cs with
  | [] => false
  | c :: rest =>
    let more := rest.dropWhile fun c => c.isDigit || c = '_'
    let sixtieths := more.takeWhile (· ≠ '.')
    let fraction := (more.dropWhile (· ≠ '.')).drop 1
    c.isDigit && (isFraction more ||
      (more.contains '.' && areSixtieths sixtieths && fraction.all fun c => c.isDigit || c = '_'))

def isBareFraction : List Char → Bool
  | '.' :: c :: rest => c.isDigit && isExponent (rest.dropWhile fun c => c.isDigit || c = '_')
  | _ => false

def isFloat (cs : List Char) : Bool :=
  isUnsignedFloat (unsigned cs) || isBareFraction cs ||
    [".inf", ".Inf", ".INF"].contains (String.ofList (unsigned cs)) ||
    [".nan", ".NaN", ".NAN"].contains (String.ofList cs)

def nullWords : List String := ["", "~", "null", "Null", "NULL"]

def boolWords : List (String × Bool) :=
  [("yes", true), ("no", false), ("true", true), ("false", false), ("on", true), ("off", false)]

/-- A word in its three spellings: small, with a capital, and in capitals. -/
def spellings (s : String) : List String := [s, s.capitalize, s.toUpper]

/-! ## Points in time -/

/-- A point in time in parts; the offset is in minutes. -/
structure Moment where
  year : Nat
  month : Nat
  day : Nat
  clock : Option (Nat × Nat × Nat × Nat × Option Int)
  deriving Repr

def digitsUpTo (least most : Nat) (cs : List Char) : Option (Nat × List Char) :=
  let ds := (cs.take most).takeWhile Char.isDigit
  if ds.length < least then none else some (Decimal.digitsValue ds, cs.drop ds.length)

def expect (c : Char) : List Char → Option (List Char)
  | [] => none
  | d :: rest => if c = d then some rest else none

def readOffset (cs : List Char) : Option (Option Int) :=
  let rest := cs.dropWhile fun c => c = ' ' || c = '\t'
  match rest with
  | [] => if cs.isEmpty then some none else none
  | ['Z'] => some (some 0)
  | sign :: rest =>
    if sign ≠ '+' && sign ≠ '-' then none
    else (digitsUpTo 1 2 rest).bind fun (hours, rest) =>
      let minutes := match rest with
        | [] => some 0
        | ':' :: rest =>
          (digitsUpTo 2 2 rest).bind fun (n, rest) => if rest.isEmpty then some n else none
        | _ => none
      minutes.map fun minutes =>
        let n : Int := hours * 60 + minutes
        some (if sign = '-' then -n else n)

def millionths (ds : List Char) : Nat := Decimal.digitsValue ((ds ++ List.replicate 6 '0').take 6)

def readClock (cs : List Char) : Option (Nat × Nat × Nat × Nat × Option Int) := do
  let (hour, cs) ← digitsUpTo 1 2 cs
  let (minute, cs) ← digitsUpTo 2 2 (← expect ':' cs)
  let (second, cs) ← digitsUpTo 2 2 (← expect ':' cs)
  let (fraction, cs) := match cs with
    | '.' :: rest => (rest.takeWhile Char.isDigit, rest.dropWhile Char.isDigit)
    | _ => ([], cs)
  return (hour, minute, second, millionths fraction, ← readOffset cs)

/-- Reads a point in time: a date of full width, or a date and a time of day. -/
def readMoment (cs : List Char) : Option Moment := do
  let (year, cs) ← digitsUpTo 4 4 cs
  let start ← expect '-' cs
  let (month, cs) ← digitsUpTo 1 2 start
  let (day, rest) ← digitsUpTo 1 2 (← expect '-' cs)
  match rest with
  | [] => if start.length = 5 then some ⟨year, month, day, none⟩ else none
  | c :: more =>
    if c = 'T' || c = 't' then return ⟨year, month, day, ← readClock more⟩
    else if c = ' ' || c = '\t' then
      return ⟨year, month, day, ← readClock (more.dropWhile fun c => c = ' ' || c = '\t')⟩
    else none

def daysOf (year month : Nat) : Nat :=
  if month = 2 then if year % 4 = 0 && (year % 100 ≠ 0 || year % 400 = 0) then 29 else 28
  else if [4, 6, 9, 11].contains month then 30
  else 31

def Moment.fault? (m : Moment) : Option String :=
  if m.year = 0 then some "year 0 is out of range"
  else if m.month = 0 || m.month > 12 then some "month must be in 1..12"
  else if m.day = 0 || m.day > daysOf m.year m.month then some "day is out of range for month"
  else m.clock.bind fun (hour, minute, second, _, _) =>
    if hour > 23 then some "hour must be in 0..23"
    else if minute > 59 then some "minute must be in 0..59"
    else if second > 59 then some "second must be in 0..59"
    else none

def padded (width n : Nat) : String :=
  let ds := Nat.toDigits 10 n
  String.ofList (List.replicate (width - ds.length) '0' ++ ds)

def Moment.text (m : Moment) : String :=
  let date := padded 4 m.year ++ "-" ++ padded 2 m.month ++ "-" ++ padded 2 m.day
  match m.clock with
  | none => date
  | some (hour, minute, second, fraction, offset) =>
    let zone := match offset with
      | none => ""
      | some n =>
        (if n < 0 then "-" else "+") ++ padded 2 (n.natAbs / 60) ++ ":" ++ padded 2 (n.natAbs % 60)
    date ++ " " ++ padded 2 hour ++ ":" ++ padded 2 minute ++ ":" ++ padded 2 second ++
      (if fraction = 0 then "" else "." ++ padded 6 fraction) ++ zone

def ofPlain (s : String) : Kind :=
  let cs := s.toList
  if (boolWords.flatMap fun (w, _) => spellings w).contains s then .bool
  else if isFloat cs then .float
  else if isUnsignedInt (unsigned cs) then .int
  else if s = "<<" then .merge
  else if nullWords.contains s then .null
  else if (readMoment cs).isSome then .time
  else if s = "=" then .default
  else .text

/-! ## Values -/

/-- The number that digits of a base denote; there must be one. -/
def numberIn (base : Nat) (cs : List Char) : Option Nat :=
  if cs.isEmpty then none
  else
    (cs.mapM Json.hexValue?).bind fun ds =>
      if ds.all (· < base) then some (ds.foldl (fun n d => n * base + d) 0) else none

def inSixties (ps : List (List Char)) : Option Nat :=
  (ps.mapM (numberIn 10)).map fun ns => ns.foldl (fun acc n => acc * 60 + n) 0

def intSize (cs : List Char) : Option Nat :=
  match cs with
  | ['0'] => some 0
  | '0' :: 'b' :: digits => numberIn 2 digits
  | '0' :: 'x' :: digits => numberIn 16 digits
  | '0' :: _ => numberIn 8 cs
  | _ => if cs.contains ':' then inSixties (parts cs) else numberIn 10 cs

def readInt (s : String) : Option Int :=
  let cs := s.toList.filter (· ≠ '_')
  (intSize (unsigned cs)).map fun n => if cs.head? = some '-' then -(n : Int) else n

/-- Adds parts of which each counts sixty times the one before. -/
def sumSixties : Float → Nat → List Float → Float
  | sum, _, [] => sum
  | sum, scale, x :: rest => sumSixties (sum + x * Float.ofNat scale) (scale * 60) rest

def floatSize (cs : List Char) : Option Float :=
  if cs = ".inf".toList then some Decimal.infinite
  else if cs = ".nan".toList then some Decimal.undefined
  else if cs.contains ':' then
    ((parts cs).mapM Decimal.readUnsigned).map fun xs => sumSixties 0.0 1 xs.reverse
  else Decimal.readUnsigned cs

def readFloat (s : String) : Option Float :=
  let cs := (s.toList.filter (· ≠ '_')).map Char.toLower
  (floatSize (unsigned cs)).map fun x => if cs.head? = some '-' then -x else x

def numberFault (lead : String) (cs : List Char) : ParseFault :=
  if cs.isEmpty || cs.head? = some '0' || cs.contains ':' then .malformed
  else .badValue (lead ++ Text.quoted (String.ofList cs))

def scalar (kind : Kind) (s : String) : Except ParseFault Data :=
  let orElse (d : Option Data) : Except ParseFault Data := d.elim (.error .malformed) .ok
  let bare := unsigned (s.toList.filter (· ≠ '_'))
  match kind with
  | .null => .ok .null
  | .text => .ok (.text s)
  | .bool => orElse ((boolWords.lookup s.toLower).map .bool)
  | .int =>
    match readInt s with
    | some n => .ok (.int n)
    | none => .error (numberFault "invalid literal for int() with base 10: " bare)
  | .float =>
    match readFloat s with
    | some x => .ok (.float x)
    | none => .error (numberFault "could not convert string to float: " (bare.map Char.toLower))
  | .time =>
    match readMoment s.toList with
    | none => .error .malformed
    | some m =>
      match m.fault? with
      | some reason => .error (.badValue reason)
      | none => .ok (.time m.text)
  | _ => .error .malformed

end Kind

end SegmentIndex.Outer.Yaml
