import SegmentIndex.Decimal.Text
import SegmentIndex.SourceCode.Tree
import SegmentIndex.Text.Basic
import SegmentIndex.Text.Quoted

/-!
# Expressions as text

An expression is printed with the least brackets: it is bracketed where its place binds
more tightly than its operator. A formatted text chooses quotes that do not occur in it;
a field of it must not hold a backslash.
-/
namespace SegmentIndex.SourceCode

/-- Why an expression has no text. -/
inductive PrintFault where
  | backslash
  deriving DecidableEq, Repr

namespace PrintFault

def message : PrintFault → String
  | .backslash => "Unable to avoid backslash in f-string expression part"

end PrintFault

namespace Strength

/-- How tightly the parts of an expression bind, from the loosest on. -/
def named : Nat := 1

@[inherit_doc named] def tuple : Nat := 2

@[inherit_doc named] def yield : Nat := 3

@[inherit_doc named] def test : Nat := 4

@[inherit_doc named] def any : Nat := 5

@[inherit_doc named] def all : Nat := 6

@[inherit_doc named] def negate : Nat := 7

@[inherit_doc named] def compare : Nat := 8

@[inherit_doc named] def expr : Nat := 9

@[inherit_doc named] def factor : Nat := 15

@[inherit_doc named] def power : Nat := 16

@[inherit_doc named] def await : Nat := 17

@[inherit_doc named] def atom : Nat := 18

/-- How tightly an operator with two operands binds. -/
def ofBinary (op : String) : Nat :=
  if op = "|" then 9
  else if op = "^" then 10
  else if op = "&" then 11
  else if op = "<<" || op = ">>" then 12
  else if op = "+" || op = "-" then 13
  else if op = "**" then power
  else 14

end Strength

/-- Brackets a text if its place binds more tightly than its operator. -/
def bracketed (place own : Nat) (s : String) : String := if place > own then "(" ++ s ++ ")" else s

/-- The quotes that a text can stand between, best first. -/
def allQuotes : List (List Char) := [['\''], ['"'], ['"', '"', '"'], ['\'', '\'', '\'']]

def holds (part : List Char) : List Char → Bool
  | [] => part.isEmpty
  | c :: rest => part.isPrefixOf (c :: rest) || holds part rest

/-- A code point in a formatted text; line feeds and tabs can be kept as they are. -/
def plainCode (spell : Bool) (n : Nat) : List Char :=
  if !spell && (n = 10 || n = 9) then [Char.ofNat n]
  else if n = 0x5c then ['\\', '\\']
  else if n = 0x22 || n = 0x27 then [Char.ofNat n]
  else Text.quotedCode '"' n

/-- Writes a text so that one of the given quotes fits, and says which quotes do. -/
def fitQuotes (quotes : List (List Char)) (spell : Bool) (codes : List Nat) :
    List Char × List (List Char) :=
  let body := codes.flatMap (plainCode spell)
  let fitting := quotes.filter fun q =>
    !holds q body && (!body.contains '\n' || q.length = 3)
  match fitting with
  | [] =>
    let whole := Text.quoteCodes codes
    let mark := whole.head?.getD '\''
    ((whole.drop 1).dropLast, [(quotes.find? (·.contains mark)).getD [mark]])
  | _ =>
    match body.getLast? with
    | none => (body, fitting)
    | some last =>
      let ordered := fitting.filter (·.head? ≠ some last) ++ fitting.filter (·.head? = some last)
      if ordered.head?.any (·.head? = some last) then (body.dropLast ++ ['\\', last], ordered)
      else (body, ordered)

def between : List Char × List (List Char) → String
  | (body, quotes) => String.ofList (quotes.headD [] ++ body ++ quotes.headD [])

def quoteBytes (codes : List Nat) : String :=
  let quote := Text.chooseQuote codes
  let byte (n : Nat) : List Char :=
    if n < 0x7f then Text.quotedCode quote n else ['\\', 'x'] ++ Text.hexDigits 2 n
  String.ofList ('b' :: quote :: (codes.flatMap byte ++ [quote]))

/-- A real number; infinity is written as a literal that is too large. -/
def realText (x : Float) : String := Decimal.text { Decimal.plain with infinity := "1e309" } x

def imaginaryText (x : Float) : String :=
  let s := (realText x).toList
  String.ofList (if ['.', '0'].isSuffixOf s then s.dropLast.dropLast else s) ++ "j"

def doubleBraces (codes : List Nat) : List Nat :=
  codes.flatMap fun n => if n = 0x7b || n = 0x7d then [n, n] else [n]

def commas (parts : List String) : String := ", ".intercalate parts

/-- The items of a tuple; one item keeps its comma. -/
def tupleText : List String → String
  | [s] => s ++ ","
  | ss => commas ss

def Sign.text : Sign → String
  | .plus => "+"
  | .minus => "-"
  | .invert => "~"
  | .negate => "not "

def Sign.strength : Sign → Nat
  | .negate => Strength.negate
  | _ => Strength.factor

/-- Whether a value is written with digits or is a truth value. -/
def needsGap : Expr → Bool
  | .int _ => true
  | .word s => s = "True" || s = "False"
  | _ => false

/-- What stands in front of a parameter that follows the given kinds: a separator and a star. -/
def beforeParam (kinds : List ParamKind) (kind : ParamKind) : String :=
  let comma := if kinds.isEmpty then "" else ", "
  let slash := if kinds.getLast? = some .positionalOnly && kind ≠ .positionalOnly then "/, " else ""
  let star := if kind = .keywordOnly && !kinds.contains .keywordOnly &&
    !kinds.contains .rest then "*, "
    else ""
  let mark := match kind with
    | .rest => "*"
    | .keywords => "**"
    | _ => ""
  comma ++ slash ++ star ++ mark

mutual

/-- The text of an expression in a place; the flag says that it
stands in a field of a formatted text. -/
def printExpr (inField : Bool) (place : Nat) : Expr → Except PrintFault String
  | .name id => .ok id
  | .word s => .ok s
  | .int n => .ok (toString n)
  | .real x => .ok (realText x)
  | .imaginary x => .ok (imaginaryText x)
  | .text codes marked =>
    .ok ((if marked then "u" else "") ++
      if inField then between (fitQuotes allQuotes false codes)
      else String.ofList (Text.quoteCodes codes))
  | .bytes codes => .ok (quoteBytes codes)
  | .format pieces => do
    if inField then
      let body ← printPieces pieces
      return "f" ++ between (fitQuotes allQuotes false body.flatten)
    else
      let parts ← printPieces pieces
      let flags := pieces.map fun p => match p with
        | .text _ => true
        | .field .. => false
      let (body, quotes) :=
        (parts.zip flags).foldl (fun (acc : List Char × List (List Char)) part =>
        let (text, quotes) := fitQuotes acc.2 part.2 part.1
        (acc.1 ++ text, quotes)) ([], allQuotes)
      return "f" ++ between (body, quotes)
  | .tuple items => do
    let parts ← printExprs inField items
    return if parts.isEmpty then "()" else bracketed place Strength.tuple (tupleText parts)
  | .list items => do return "[" ++ commas (← printExprs inField items) ++ "]"
  | .set items => do return "\x7b" ++ commas (← printExprs inField items) ++ "\x7d"
  | .map items => do return "\x7b" ++ commas (← printItems inField items) ++ "\x7d"
  | .gather shape element clauses => do
    let body := (← printExpr inField Strength.test element) ++ (← printClauses inField clauses)
    return match shape with
      | .list => "[" ++ body ++ "]"
      | .set => "\x7b" ++ body ++ "\x7d"
      | .generator => "(" ++ body ++ ")"
  | .gatherMap key value clauses => do
    let key ← printExpr inField Strength.test key
    let value ← printExpr inField Strength.test value
    return "\x7b" ++ key ++ ": " ++ value ++ (← printClauses inField clauses) ++ "\x7d"
  | .signed sign operand => do
    return bracketed place sign.strength (sign.text ++ (← printExpr inField sign.strength operand))
  | .binary op left right => do
    let own := Strength.ofBinary op
    let (toLeft, toRight) := if op = "**" then (own + 1, own) else (own, own + 1)
    let left ← printExpr inField toLeft left
    let right ← printExpr inField toRight right
    return bracketed place own (left ++ " " ++ op ++ " " ++ right)
  | .all values => do
    return bracketed place Strength.all
      (" and ".intercalate (← printRising inField Strength.all values))
  | .any values => do
    return bracketed place Strength.any
      (" or ".intercalate (← printRising inField Strength.any values))
  | .compare first rest => do
    let first ← printExpr inField (Strength.compare + 1) first
    return bracketed place Strength.compare (first ++ (← printComparisons inField rest))
  | .choice test yes no => do
    let yes ← printExpr inField (Strength.test + 1) yes
    let test ← printExpr inField (Strength.test + 1) test
    let no ← printExpr inField Strength.test no
    return bracketed place Strength.test (yes ++ " if " ++ test ++ " else " ++ no)
  | .lambda params body => do
    let params ← printParams inField [] params
    let body ← printExpr inField Strength.test body
    return bracketed place Strength.test
      ("lambda" ++ (if params = "" then "" else " " ++ params) ++ ": " ++ body)
  | .call function args keywords => do
    let function ← printExpr inField Strength.atom function
    let args ← printExprs inField args
    return function ++ "(" ++ commas (args ++ (← printKeywords inField keywords)) ++ ")"
  | .attribute value name => do
    let gap := if needsGap value then " " else ""
    return (← printExpr inField Strength.atom value) ++ gap ++ "." ++ name
  | .subscript value index => do
    let value ← printExpr inField Strength.atom value
    let index ← match index with
      | .tuple (item :: items) => (printExprs inField (item :: items)).map tupleText
      | other => printExpr inField Strength.test other
    return value ++ "[" ++ index ++ "]"
  | .slice low high step => do
    let low ← printOption inField low
    let high ← printOption inField high
    let step ← printOption inField step
    return low.getD "" ++ ":" ++ high.getD "" ++ ((step.map (":" ++ ·)).getD "")
  | .starred value => do return "*" ++ (← printExpr inField Strength.expr value)
  | .assigned target value => do
    let value ← printExpr inField Strength.atom value
    return bracketed place Strength.named (target ++ " := " ++ value)
  | .await value => do
    return bracketed place Strength.await ("await " ++ (← printExpr inField Strength.atom value))
  | .yield none => .ok (bracketed place Strength.yield "yield")
  | .yield (some value) => do
    return bracketed place Strength.yield ("yield " ++ (← printExpr inField Strength.atom value))
  | .yieldFrom value => do
    return bracketed place Strength.yield ("yield from " ++
      (← printExpr inField Strength.atom value))

def printExprs (inField : Bool) : List Expr → Except PrintFault (List String)
  | [] => .ok []
  | e :: rest => do
    let first ← printExpr inField Strength.test e
    return first :: (← printExprs inField rest)

/-- The texts of expressions in places each of which binds more tightly than the one before. -/
def printRising (inField : Bool) (place : Nat) : List Expr → Except PrintFault (List String)
  | [] => .ok []
  | e :: rest => do
    let next := min (place + 1) Strength.atom
    let first ← printExpr inField next e
    return first :: (← printRising inField next rest)

def printOption (inField : Bool) : Option Expr → Except PrintFault (Option String)
  | none => .ok none
  | some e => (printExpr inField Strength.test e).map some

/-- The code points of the pieces of a formatted text, piece by piece. -/
def printPieces : List Piece → Except PrintFault (List (List Nat))
  | [] => .ok []
  | p :: rest => do
    let first ← printPiece p
    return first :: (← printPieces rest)

def printPiece : Piece → Except PrintFault (List Nat)
  | .text codes => .ok (doubleBraces codes)
  | .field value conversion hasFormat format => do
    let value := (← printExpr true (Strength.test + 1) value).toList
    let gap := if value.head? = some '\x7b' then [' '] else []
    if value.contains '\\' then throw .backslash
    let mark := match conversion with
      | some c => ['!', c]
      | none => []
    let format ← printPieces format
    let codes (cs : List Char) := cs.map Char.toNat
    return codes ('\x7b' :: gap ++ value ++ mark ++ if hasFormat then [':'] else []) ++
      format.flatten ++ codes ['\x7d']

def printItems (inField : Bool) : List Item → Except PrintFault (List String)
  | [] => .ok []
  | .pair key value :: rest => do
    let key ← printExpr inField Strength.test key
    let value ← printExpr inField Strength.test value
    return (key ++ ": " ++ value) :: (← printItems inField rest)
  | .spread value :: rest => do
    let value ← printExpr inField Strength.expr value
    return ("**" ++ value) :: (← printItems inField rest)

def printClauses (inField : Bool) : List Clause → Except PrintFault String
  | [] => .ok ""
  | .each async target source conditions :: rest => do
    let target ← printExpr inField Strength.tuple target
    let source ← printExpr inField (Strength.test + 1) source
    let conditions ← printConditions inField conditions
    return (if async then " async for " else " for ") ++ target ++ " in " ++ source ++ conditions ++
      (← printClauses inField rest)

def printConditions (inField : Bool) : List Expr → Except PrintFault String
  | [] => .ok ""
  | e :: rest => do
    let first ← printExpr inField (Strength.test + 1) e
    return " if " ++ first ++ (← printConditions inField rest)

def printComparisons (inField : Bool) : List Comparison → Except PrintFault String
  | [] => .ok ""
  | .with op operand :: rest => do
    let operand ← printExpr inField (Strength.compare + 1) operand
    return " " ++ op ++ " " ++ operand ++ (← printComparisons inField rest)

/-- The texts of named arguments and spread maps. -/
def printKeywords (inField : Bool) : List Keyword → Except PrintFault (List String)
  | [] => .ok []
  | .named name value :: rest => do
    let value ← printExpr inField Strength.test value
    return (name ++ "=" ++ value) :: (← printKeywords inField rest)
  | .spread value :: rest => do
    let value ← printExpr inField Strength.test value
    return ("**" ++ value) :: (← printKeywords inField rest)

def printParams (inField : Bool) (kinds : List ParamKind) : List Param → Except PrintFault String
  | [] => .ok (if kinds.getLast? = some .positionalOnly then ", /" else "")
  | .of kind name hint value :: rest => do
    let hint ← printOption inField hint
    let value ← printOption inField value
    return beforeParam kinds kind ++ name ++ ((hint.map (": " ++ ·)).getD "") ++
      ((value.map ("=" ++ ·)).getD "") ++ (← printParams inField (kinds ++ [kind]) rest)

end

def Expr.print (e : Expr) : Except PrintFault String := printExpr false Strength.test e

def printSignature (params : List Param) : Except PrintFault String := printParams false [] params

end SegmentIndex.SourceCode
