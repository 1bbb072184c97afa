import SegmentIndex.Text.Basic
import SegmentIndex.Text.Identifier
import SegmentIndex.Text.Normal

/-!
# Words of source code

Source code is a sequence of words: names, numbers, string literals, operators, the ends of logical
lines, and the steps in and out of the indentation. Inside brackets, line ends and indentation do
not count. A tab moves to the next multiple of eight; indentation that would compare differently if
a tab were one column is refused.
-/
namespace SegmentIndex.SourceCode

/-- A string literal as written: letters before the quote, and the characters between the quotes. -/
structure Quoted where
  raw : Bool
  bytes : Bool
  formatted : Bool
  marked : Bool
  body : List Char
  deriving DecidableEq, Repr, Inhabited

inductive Word where
  | name (text : String)
  | number (text : List Char)
  | string (literal : Quoted)
  | op (text : String)
  | lineEnd
  | indent
  | dedent
  deriving DecidableEq, Repr, Inhabited

/-- A word with the number of the line that it begins on. -/
structure Token where
  word : Word
  line : Nat
  deriving DecidableEq, Repr, Inhabited

def keywords : List String :=
  ["False", "None", "True", "and", "as", "assert", "async", "await", "break", "class", "continue",
   "def", "del", "elif", "else", "except", "finally", "for", "from", "global", "if", "import", "in",
   "is", "lambda", "nonlocal", "not", "or", "pass", "raise", "return", "try", "while", "with",
   "yield"]

def operators : List String :=
  ["**=", "//=", ">>=", "<<=", "...", "**", "//", ">>", "<<", "<=", ">=", "==", "!=", "->", "+=",
   "-=", "*=", "/=", "%=", "&=", "|=", "^=", "@=", ":=", "+", "-", "*", "/", "%", "@", "&", "|",
   "^", "~", "<", ">", "(", ")", "[", "]", "\x7b", "\x7d", ",", ":", ".", ";", "="]

def maxBrackets : Nat := 200

def maxIndents : Nat := 100

structure Scanner where
  line : Nat := 1
  atLineStart : Bool := true
  brackets : List Char := []
  indents : List (Nat × Nat) := [(0, 0)]
  lineHasWords : Bool := false
  deriving Repr, Inhabited

/-- Measures the blanks that a line begins with, with tabs of eight columns and of one. The column
of a line that is continued is the one before the first continuation. -/
def measure : Nat → Nat → Nat → Option Nat → Nat → List Char → Option (Nat × Nat × Nat × List Char)
  | 0, _, _, _, _, _ => none
  | fuel + 1, column, narrow, kept, lines, cs =>
    let finish := some (kept.getD column, kept.getD narrow, lines, cs)
    match cs with
    | ' ' :: rest => measure fuel (column + 1) (narrow + 1) kept lines rest
    | '\t' :: rest => measure fuel ((column / 8 + 1) * 8) (narrow + 1) kept lines rest
    | '\x0c' :: rest => measure fuel 0 0 kept lines rest
    | '\\' :: '\n' :: rest =>
      if rest.isEmpty then none
      else
        let kept := match kept with
          | some n => some n
          | none => if column = 0 then none else some column
        measure fuel column narrow kept (lines + 1) rest
    | '\\' :: _ => none
    | _ => finish

/-- The words that a line of a given column begins with, and the indentation after it. -/
def indentTo (column narrow : Nat) (indents : List (Nat × Nat)) :
    Option (List Word × List (Nat × Nat)) :=
  match indents with
  | [] => none
  | (top, topNarrow) :: below =>
    if column = top then (if narrow = topNarrow then some ([], indents) else none)
    else if column > top then
      if narrow ≤ topNarrow || indents.length ≥ maxIndents then none
      else some ([.indent], (column, narrow) :: indents)
    else leave below
where
  /-- Steps out until the column is met. -/
  leave : List (Nat × Nat) → Option (List Word × List (Nat × Nat))
    | [] => none
    | (top, topNarrow) :: below =>
      if column = top then
        (if narrow = topNarrow then some ([.dedent], (top, topNarrow) :: below) else none)
      else if column < top then (leave below).map fun (ws, is) => (.dedent :: ws, is)
      else none

/-- Whether a character may begin a name; all but the basic Latin letters are checked later. -/
def mayStartName (c : Char) : Bool := c.isAlpha || c = '_' || c.toNat ≥ 128

def mayContinueName (c : Char) : Bool := c.isAlphanum || c = '_' || c.toNat ≥ 128

/-- Whether a word may follow a number at once. -/
def mayFollowNumber (cs : List Char) : Bool :=
  match cs with
  | [] => true
  | c :: _ =>
    ["and", "else", "for", "if", "in", "is", "or", "not"].any (fun w => w.toList.isPrefixOf cs)
      || !mayContinueName c

/-- Splits digits with single underscores between them; an underscore must stand before a digit. -/
def spanDigits (isDigit : Char → Bool) : List Char → Option (List Char × List Char)
  | [] => some ([], [])
  | '_' :: c :: rest =>
    if isDigit c then (spanDigits isDigit (c :: rest)).map fun (ds, r) => (ds, r) else none
  | ['_'] => none
  | c :: rest =>
    if isDigit c then (spanDigits isDigit rest).map fun (ds, r) => (c :: ds, r)
    else some ([], c :: rest)

def isHexDigit (c : Char) : Bool := c.isDigit || ('a' ≤ c && c ≤ 'f') || ('A' ≤ c && c ≤ 'F')

/-- Scans a number in base two, eight or sixteen after its mark. -/
def scanBased (mark : Char) (isDigit : Char → Bool) (cs : List Char) :
    Option (List Char × List Char) := do
  let cs := match cs with
    | '_' :: rest => rest
    | _ => cs
  match cs with
  | c :: _ => if !isDigit c then none
  | [] => none
  let (ds, rest) ← spanDigits isDigit cs
  if (rest.head?.any (·.isDigit)) || !mayFollowNumber rest then none
  some ('0' :: mark :: ds, rest)

/-- Scans a decimal number: whole part, fraction, exponent and the mark of an imaginary number. The
text is returned without underscores. -/
def scanDecimal (cs : List Char) : Option (List Char × List Char) := do
  let (whole, rest) ← match cs with
    | '.' :: _ => some ([], cs)
    | _ => spanDigits Char.isDigit cs
  let (fraction, rest) ← match rest with
    | '.' :: d :: more =>
      if d.isDigit then (spanDigits Char.isDigit (d :: more)).map fun (ds, r) => ('.' :: ds, r)
      else some (['.'], d :: more)
    | ['.'] => some (['.'], [])
    | _ => some ([], rest)
  let (exponent, rest) ← match rest with
    | e :: more =>
      if e = 'e' || e = 'E' then
        match more with
        | d :: after =>
          if d.isDigit then (spanDigits Char.isDigit more).map fun (ds, r) => ('e' :: ds, r)
          else if d = '+' || d = '-' then
            if after.head?.any (·.isDigit) then
              (spanDigits Char.isDigit after).map fun (ds, r) => ('e' :: d :: ds, r)
            else none
          else some ([], rest)
        | [] => some ([], rest)
      else some ([], rest)
    | [] => some ([], rest)
  let (imaginary, rest) := match rest with
    | c :: more => if c = 'j' || c = 'J' then (['j'], more) else ([], rest)
    | [] => ([], rest)
  if !mayFollowNumber rest then none
  if fraction.isEmpty && exponent.isEmpty && imaginary.isEmpty then
    if whole.length > 1 && whole.head? = some '0' && whole.any (· ≠ '0') then none
  some (whole ++ fraction ++ exponent ++ imaginary, rest)

def scanNumber (cs : List Char) : Option (List Char × List Char) :=
  match cs with
  | '0' :: 'x' :: rest | '0' :: 'X' :: rest => scanBased 'x' isHexDigit rest
  | '0' :: 'o' :: rest | '0' :: 'O' :: rest => scanBased 'o' (fun c => '0' ≤ c && c ≤ '7') rest
  | '0' :: 'b' :: rest | '0' :: 'B' :: rest => scanBased 'b' (fun c => c = '0' || c = '1') rest
  | _ => scanDecimal cs

/-- Scans the body of a literal on one line up to its quote, with the number of lines passed. -/
def scanShort (quote : Char) : List Char → Option (List Char × Nat × List Char)
  | [] => none
  | '\\' :: c :: rest =>
    (scanShort quote rest).map fun (b, n, r) => ('\\' :: c :: b, if c = '\n' then n + 1 else n, r)
  | c :: rest =>
    if c = quote then some ([], 0, rest)
    else if c = '\n' || c = '\\' then none
    else (scanShort quote rest).map fun (b, n, r) => (c :: b, n, r)

/-- Scans the body of a literal up to three quotes, with the number of lines passed. -/
def scanLong (quote : Char) : List Char → Option (List Char × Nat × List Char)
  | [] => none
  | '\\' :: c :: rest =>
    (scanLong quote rest).map fun (b, n, r) => ('\\' :: c :: b, if c = '\n' then n + 1 else n, r)
  | c :: rest =>
    if c = quote && rest.take 2 = [quote, quote] then some ([], 0, rest.drop 2)
    else (scanLong quote rest).map fun (b, n, r) => (c :: b, if c = '\n' then n + 1 else n, r)

def scanQuoted (quote : Char) (cs : List Char) : Option (List Char × Nat × List Char) :=
  match cs with
  | a :: b :: rest => if a = quote && b = quote then scanLong quote rest else scanShort quote cs
  | _ => scanShort quote cs

/-- The letters that may stand before a quote, in lower case. -/
def quoteLetters : List (List Char) :=
  [[], ['b'], ['u'], ['r'], ['f'], ['b', 'r'], ['r', 'b'], ['f', 'r'], ['r', 'f']]

def literalStart? (cs : List Char) : Option (List Char × Char × List Char) :=
  let letters := (cs.take 2).takeWhile Char.isAlpha
  let rest := cs.drop letters.length
  match rest with
  | q :: after =>
    if (q = '\'' || q = '"') && quoteLetters.contains (letters.map Char.toLower) then
      some (letters, q, after)
    else none
  | [] => none

def closing : Char → Char
  | '(' => ')'
  | '[' => ']'
  | _ => '\x7d'

def nest (brackets : List Char) (op : String) : Option (List Char) :=
  match op.toList with
  | [c] =>
    if c = '(' || c = '[' || c = '\x7b' then
      if brackets.length ≥ maxBrackets then none else some (c :: brackets)
    else if c = ')' || c = ']' || c = '\x7d' then
      match brackets with
      | b :: rest => if closing b = c then some rest else none
      | [] => none
    else some brackets
  | _ => some brackets

/-- Scans one word of a line; an empty result means that the text has no word here. -/
def scanWord (cs : List Char) : Option (Word × Nat × List Char) :=
  match literalStart? cs with
  | some (letters, quote, after) =>
    let low := letters.map Char.toLower
    (scanQuoted quote after).map fun (body, lines, rest) =>
      (.string ⟨low.contains 'r', low.contains 'b', low.contains 'f', letters = ['u'], body⟩,
        lines, rest)
  | none =>
    match cs with
    | [] => none
    | c :: more =>
      if mayStartName c then
        let text := cs.takeWhile mayContinueName
        if text.all (·.toNat < 128) || Text.isName text then
          some (.name (Text.Normal.normalize (String.ofList text)), 0, cs.drop text.length)
        else none
      else if c.isDigit || (c = '.' && more.head?.any (·.isDigit)) then
        (scanNumber cs).map fun (text, rest) => (.number text, 0, rest)
      else
        match operators.find? fun o => o.toList.isPrefixOf cs with
        | some o => some (.op o, 0, cs.drop o.length)
        | none => none

/-- The words that end a text: the end of its last line, and the steps out of its indentation. -/
def closeAll (s : Scanner) : Option (List Token) :=
  if !s.brackets.isEmpty then none
  else
    let last := if s.lineHasWords then [⟨.lineEnd, s.line⟩] else []
    some (last ++ List.replicate (s.indents.length - 1) ⟨.dedent, s.line + 1⟩)

def scan : Nat → Scanner → List Char → Option (List Token)
  | 0, _, _ => none
  | fuel + 1, s, cs =>
    if s.atLineStart then
      match measure (cs.length + 1) 0 0 none 0 cs with
      | none => none
      | some (column, narrow, lines, rest) =>
        let s := { s with line := s.line + lines, atLineStart := false }
        match rest with
        | [] => closeAll s
        | '\n' :: _ | '#' :: _ => scan fuel s rest
        | _ =>
          match indentTo column narrow s.indents with
          | none => none
          | some (words, indents) =>
            (scan fuel { s with indents := indents } rest).map
              (words.map (fun w => (⟨w, s.line⟩ : Token)) ++ ·)
    else
      match cs with
      | [] => closeAll s
      | c :: rest =>
        if c = ' ' || c = '\t' || c = '\x0c' then scan fuel s rest
        else if c = '#' then scan fuel s (rest.dropWhile (· ≠ '\n'))
        else if c = '\n' then
          if !s.brackets.isEmpty then scan fuel { s with line := s.line + 1 } rest
          else
            let next := { s with line := s.line + 1, atLineStart := true, lineHasWords := false }
            if s.lineHasWords then (scan fuel next rest).map (⟨.lineEnd, s.line⟩ :: ·)
            else scan fuel next rest
        else if c = '\\' then
          match rest with
          | '\n' :: more =>
            if more.isEmpty then none else scan fuel { s with line := s.line + 1 } more
          | _ => none
        else
          match scanWord cs with
          | none => none
          | some (word, lines, rest) =>
            let nested := match word with
              | .op o => nest s.brackets o
              | _ => some s.brackets
            match nested with
            | none => none
            | some brackets =>
              (scan fuel { s with
                brackets := brackets, line := s.line + lines, lineHasWords := true } rest).map
                (⟨word, s.line⟩ :: ·)

def plainLines : List Char → List Char
  | '\r' :: '\n' :: rest => '\n' :: plainLines rest
  | c :: rest => (if c = '\r' then '\n' else c) :: plainLines rest
  | [] => []

/-- The words of a text, or nothing if it cannot be taken apart. -/
def tokens? (text : List Char) : Option (List Token) :=
  let cs := plainLines text
  let cs := if cs.getLast? = some '\n' || cs.isEmpty then cs else cs ++ ['\n']
  scan (2 * cs.length + 4) {} cs

end SegmentIndex.SourceCode
