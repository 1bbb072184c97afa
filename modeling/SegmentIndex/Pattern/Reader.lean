import SegmentIndex.Pattern.Syntax
import SegmentIndex.Text.Identifier
import SegmentIndex.Text.Named

/-!
# Reading patterns

A pattern is a list of branches between bars, a branch a list of items with repetitions. The reader
keeps a scope: the groups opened and closed so far, their names and widths, and the modes of the
whole pattern. Reading stops at a closing parenthesis that it did not open, which is an error for a
whole pattern and the end of the body for a pattern inside a named group.
-/
namespace SegmentIndex.Pattern

/-- Why a text is no pattern. -/
inductive Fault where
  | malformed (reason : String)
  | repeatTooLarge
  | mixedAlphabets
  | verboseStart
  deriving DecidableEq, Repr

/-- The modes that letters in a pattern switch on and off. -/
structure Flags where
  ignoreCase : Bool := false
  multiline : Bool := false
  dotAll : Bool := false
  verbose : Bool := false
  ascii : Bool := false
  unicode : Bool := false
  template : Bool := false
  deriving DecidableEq, Repr, Inhabited

namespace Flags

/-- The letters that name modes; one of them is known only to be refused. -/
def letters : List Char := ['i', 'L', 'm', 's', 'x', 'a', 't', 'u']

def choosesAlphabet (c : Char) : Bool := c = 'a' || c = 'u' || c = 'L'

def set (f : Flags) (on : Bool) : Char → Flags
  | 'i' => { f with ignoreCase := on }
  | 'm' => { f with multiline := on }
  | 's' => { f with dotAll := on }
  | 'x' => { f with verbose := on }
  | 'a' => { f with ascii := on }
  | 'u' => { f with unicode := on }
  | 't' => { f with template := on }
  | _ => f

/-- The modes inside a group that switches some letters on and others off. -/
def within (f : Flags) (add del : List Char) : Flags :=
  let f := if add.any choosesAlphabet then { f with ascii := false, unicode := false } else f
  del.foldl (·.set false ·) (add.foldl (·.set true ·) f)

def alphabet (f : Flags) : Alphabet := ⟨f.ignoreCase, f.ascii⟩

end Flags

/-- What has been read so far. -/
structure Scope where
  groups : Nat := 1
  names : List (String × Nat) := []
  closed : List (Nat × Width) := []
  lookbehind : Option Nat := none
  conditions : List Nat := []
  flags : Flags := {}
  unevenBehind : Bool := false
  templateRepeat : Bool := false
  deriving Repr, Inhabited

namespace Scope

/-- Whether a group is closed, so that it can be referred to. -/
def isClosed (s : Scope) (i : Nat) : Bool := (s.closed.lookup i).isSome

def widthOf (s : Scope) (i : Nat) : Width := (s.closed.lookup i).getD ⟨0, 0⟩

def openGroup (s : Scope) (name : Option String) : Except Fault (Nat × Scope) :=
  match name with
  | none => .ok (s.groups, { s with groups := s.groups + 1 })
  | some n =>
    if (s.names.lookup n).isSome then .error (.malformed "redefinition of group name")
    else .ok (s.groups, { s with groups := s.groups + 1, names := s.names ++ [(n, s.groups)] })

def closeGroup (s : Scope) (i : Nat) (body : Node) : Scope :=
  { s with closed := (i, body.width s.widthOf) :: s.closed }

/-- Refuses a reference from inside a lookbehind to a group of the same lookbehind. -/
def checkBehind (s : Scope) (i : Nat) : Except Fault Unit :=
  match s.lookbehind with
  | none => .ok ()
  | some bound =>
    if !s.isClosed i then .error (.malformed "cannot refer to an open group")
    else if i ≥ bound then
      .error (.malformed "cannot refer to group defined in the same lookbehind subpattern")
    else .ok ()

def checkReference (s : Scope) (i : Nat) : Except Fault Unit :=
  if !s.isClosed i then .error (.malformed "cannot refer to an open group") else s.checkBehind i

end Scope

/-- What an item of a branch allows after it. -/
inductive Kind where
  | anchor
  | repeated
  | other
  deriving DecidableEq, Repr

def isLetter (c : Char) : Bool := c.isAlpha

def isOctal (c : Char) : Bool := '0' ≤ c && c ≤ '7'

def numeral (base : Nat) (ds : List Char) : Nat :=
  ds.foldl (fun acc c =>
    acc * base + if c.isDigit then c.toNat - 48 else c.toLower.toNat - 87) 0

def isHex (c : Char) : Bool := c.isDigit || ('a' ≤ c && c ≤ 'f') || ('A' ≤ c && c ≤ 'F')

def readHex (count : Nat) (cs : List Char) : Except Fault (Nat × List Char) :=
  let ds := (cs.take count).takeWhile isHex
  if ds.length = count then .ok (numeral 16 ds, cs.drop count)
  else .error (.malformed "incomplete escape")

/-- Reads the digits of an octal escape whose first digit is given. -/
def readOctal (first : Char) (cs : List Char) : Except Fault (Nat × List Char) :=
  let ds := (cs.take 2).takeWhile isOctal
  let n := numeral 8 (first :: ds)
  if n > 0o377 then .error (.malformed "octal escape value outside of range")
  else .ok (n, cs.drop ds.length)

def controlOf? : Char → Option Nat
  | 'a' => some 7
  | 'f' => some 12
  | 'n' => some 10
  | 'r' => some 13
  | 't' => some 9
  | 'v' => some 11
  | '\\' => some 92
  | _ => none

def categoryOf? : Char → Option Item
  | 'd' => some (.category .digit false)
  | 'D' => some (.category .digit true)
  | 's' => some (.category .blank false)
  | 'S' => some (.category .blank true)
  | 'w' => some (.category .word false)
  | 'W' => some (.category .word true)
  | _ => none

def readUntil (mark : Char) (cs : List Char) : Except Fault (List Char × List Char) :=
  let name := cs.takeWhile (· ≠ mark)
  if name.length = cs.length then .error (.malformed "missing end of name")
  else if name.isEmpty then .error (.malformed "missing name")
  else .ok (name, cs.drop (name.length + 1))

def readNamed : List Char → Except Fault (Nat × List Char)
  | '\x7b' :: rest =>
    match readUntil '\x7d' rest with
    | .error e => .error e
    | .ok (name, rest) =>
      match Text.codeOfName? name with
      | some n => .ok (n, rest)
      | none => .error (.malformed "undefined character name")
  | _ => .error (.malformed "missing opening brace")

/-- Reads an escape by number or name, of the character `c` after the backslash. -/
def readCode (c : Char) (rest : List Char) : Except Fault (Option (Nat × List Char)) :=
  if c = 'x' then (readHex 2 rest).map some
  else if c = 'u' then (readHex 4 rest).map some
  else if c = 'N' then (readNamed rest).map some
  else if c = 'U' then
    match readHex 8 rest with
    | .error e => .error e
    | .ok (n, rest) =>
      if n < 0x110000 then .ok (some (n, rest)) else .error (.malformed "bad escape")
  else .ok none

def readClassEscape (c : Char) (rest : List Char) : Except Fault (Item × List Char) :=
  match controlOf? c, categoryOf? c with
  | some n, _ => .ok (.one n, rest)
  | none, some item => .ok (item, rest)
  | none, none =>
    if c = 'b' then .ok (.one 8, rest)
    else
      match readCode c rest with
      | .error e => .error e
      | .ok (some (n, rest)) => .ok (.one n, rest)
      | .ok none =>
        if isOctal c then (readOctal c rest).map fun (n, rest) => (.one n, rest)
        else if c.isDigit || isLetter c then .error (.malformed "bad escape")
        else .ok (.one c.toNat, rest)

/-- Reads one member of a character class, before any range. -/
def readMember : List Char → Except Fault (Item × List Char)
  | [] => .error (.malformed "unterminated character set")
  | ['\\'] => .error (.malformed "bad escape (end of pattern)")
  | '\\' :: c :: rest => readClassEscape c rest
  | c :: rest => .ok (.one c.toNat, rest)

/-- Reads the members of a character class up to its closing bracket. -/
def readMembers : Nat → List Item → List Char → Except Fault (List Item × List Char)
  | 0, _, _ => .error (.malformed "unterminated character set")
  | fuel + 1, items, cs =>
    match cs with
    | ']' :: rest =>
      if items.isEmpty then continueAfter fuel items cs else .ok (items.reverse, rest)
    | _ => continueAfter fuel items cs
where
  /-- Reads a member and, if a hyphen follows, the end of a range. -/
  continueAfter (fuel : Nat) (items : List Item) (cs : List Char) :
      Except Fault (List Item × List Char) :=
    match readMember cs with
    | .error e => .error e
    | .ok (first, '-' :: ']' :: rest) => .ok ((.one '-'.toNat :: first :: items).reverse, rest)
    | .ok (first, '-' :: rest) =>
      match readMember rest with
      | .error e => .error e
      | .ok (last, rest) =>
        match first, last with
        | .one lo, .one hi =>
          if hi < lo then .error (.malformed "bad character range")
          else readMembers fuel (.range lo hi :: items) rest
        | _, _ => .error (.malformed "bad character range")
    | .ok (first, rest) => readMembers fuel (first :: items) rest

def readCaret : List Char → Bool × List Char
  | '^' :: rest => (true, rest)
  | cs => (false, cs)

def readClass (f : Flags) (cs : List Char) : Except Fault (Node × List Char) :=
  let (negated, cs) := readCaret cs
  (readMembers (cs.length + 1) [] cs).map fun (items, rest) =>
    (.chars f.alphabet negated items, rest)

def leaf (f : Flags) (n : Nat) : Node := .chars f.alphabet false [.one n]

/-- Reads a reference to a group by number, or a long octal escape. -/
def readReference (f : Flags) (s : Scope) (c : Char) (rest : List Char) :
    Except Fault (Node × List Char) :=
  let (number, rest', octal) := match rest with
    | d :: more =>
      if d.isDigit then
        match more with
        | e :: after =>
          if isOctal c && isOctal d && isOctal e then ([c, d, e], after, true)
          else ([c, d], more, false)
        | [] => ([c, d], more, false)
      else ([c], rest, false)
    | [] => ([c], rest, false)
  if octal then
    let n := numeral 8 number
    if n > 0o377 then .error (.malformed "octal escape value outside of range")
    else .ok (leaf f n, rest')
  else
    let i := numeral 10 number
    if i < s.groups then (s.checkReference i).map fun _ => (.backref i f.alphabet, rest')
    else .error (.malformed "invalid group reference")

def anchorOf? : Char → Option Anchor
  | 'A' => some .textStart
  | 'Z' => some .textEnd
  | 'b' => some .wordEdge
  | 'B' => some .noWordEdge
  | _ => none

def readEscape (f : Flags) (s : Scope) (c : Char) (rest : List Char) :
    Except Fault (Kind × Node × List Char) :=
  match anchorOf? c, categoryOf? c, controlOf? c with
  | some a, _, _ => .ok (.anchor, .anchor a f.ascii, rest)
  | none, some item, _ => .ok (.other, .chars f.alphabet false [item], rest)
  | none, none, some n => .ok (.other, leaf f n, rest)
  | none, none, none =>
    match readCode c rest with
    | .error e => .error e
    | .ok (some (n, rest)) => .ok (.other, leaf f n, rest)
    | .ok none =>
      if c = '0' then (readOctal c rest).map fun (n, rest) => (.other, leaf f n, rest)
      else if c.isDigit then (readReference f s c rest).map fun (n, rest) => (.other, n, rest)
      else if isLetter c then .error (.malformed "bad escape")
      else .ok (.other, leaf f c.toNat, rest)

/-- Reads the bounds between braces; `none` when the brace stands for itself. -/
def readBounds (cs : List Char) : Except Fault (Option (Nat × Option Nat × List Char)) :=
  match cs with
  | '\x7d' :: _ => .ok none
  | _ =>
    let low := cs.takeWhile Char.isDigit
    let rest := cs.dropWhile Char.isDigit
    let (high, rest) := match rest with
      | ',' :: more => (more.takeWhile Char.isDigit, more.dropWhile Char.isDigit)
      | _ => (low, rest)
    match rest with
    | '\x7d' :: rest =>
      let least := numeral 10 low
      let most := if high.isEmpty then none else some (numeral 10 high)
      if least ≥ repeatLimit || (most.getD 0) ≥ repeatLimit then
        -- the character after the brace is taken before the numbers are looked at
        .error (if rest = ['\\'] then .malformed "bad escape (end of pattern)" else .repeatTooLarge)
      else if (most.getD least) < least then
        .error (.malformed "min repeat greater than max repeat")
      else .ok (some (least, most, rest))
    | _ => .ok none

/-- Reads the mark after a repetition that says how it prefers to end. -/
def readGreed : List Char → Greed × List Char
  | '?' :: rest => (.reluctant, rest)
  | '+' :: rest => (.possessive, rest)
  | rest => (.greedy, rest)

def repeatLast (items : List (Kind × Node)) (least : Nat) (most : Option Nat) (rest : List Char) :
    Except Fault (List (Kind × Node) × List Char) :=
  match items with
  | [] | (.anchor, _) :: _ => .error (.malformed "nothing to repeat")
  | (.repeated, _) :: _ => .error (.malformed "multiple repeat")
  | (.other, node) :: before =>
    let (greed, rest) := readGreed rest
    .ok ((.repeated, .rep greed least most node) :: before, rest)

def readName (mark : Char) (cs : List Char) : Except Fault (String × List Char) :=
  match readUntil mark cs with
  | .error e => .error e
  | .ok (name, rest) =>
    if Text.isName name then .ok (String.ofList name, rest)
    else .error (.malformed "bad character in group name")

def skipComment : List Char → Except Fault (List Char)
  | [] | ['\\'] => .error (.malformed "missing ), unterminated comment")
  | ')' :: rest => .ok rest
  | '\\' :: _ :: rest => skipComment rest
  | _ :: rest => skipComment rest

/-- Skips a comment up to the end of its line; a line feed behind a backslash does not end it. -/
def skipLine : List Char → Except Fault (List Char)
  | [] => .ok []
  | ['\\'] => .error (.malformed "bad escape (end of pattern)")
  | '\n' :: rest => .ok rest
  | '\\' :: _ :: rest => skipLine rest
  | _ :: rest => skipLine rest

/-- Reads the letters that are switched on, up to the character after them. -/
def readAdded : List Char → List Char → Except Fault (List Char × Char × List Char)
  | added, c :: rest =>
    if c = ')' || c = '-' || c = ':' then .ok (added, c, rest)
    else if !Flags.letters.contains c then .error (.malformed "unknown flag")
    else if c = 'L' then .error (.malformed "bad inline flags")
    else
      let added := added ++ [c]
      if Flags.choosesAlphabet c && added.any (fun d => Flags.choosesAlphabet d && d ≠ c) then
        .error (.malformed "bad inline flags: incompatible")
      else readAdded added rest
  | _, [] => .error (.malformed "missing -, : or )")

def readRemoved : List Char → List Char → Except Fault (List Char × List Char)
  | removed, c :: rest =>
    if c = ':' && !removed.isEmpty then .ok (removed, rest)
    else if !Flags.letters.contains c then .error (.malformed "unknown flag")
    else if Flags.choosesAlphabet c then .error (.malformed "bad inline flags: cannot turn off")
    else readRemoved (removed ++ [c]) rest
  | _, [] => .error (.malformed "missing :")

/-- Mode letters: for the whole pattern, or for the group that follows. -/
inductive Letters where
  | whole (added : List Char)
  | scoped (added removed : List Char)

def readLetters (cs : List Char) : Except Fault (Letters × List Char) := do
  let (added, mark, rest) ← match cs with
    | '-' :: rest => Except.ok ([], '-', rest)
    | _ => readAdded [] cs
  if mark = ')' then return (.whole added, rest)
  if added.contains 't' then throw (.malformed "bad inline flags: cannot turn on global flag")
  let (removed, rest) ← if mark = '-' then readRemoved [] rest else Except.ok ([], rest)
  if removed.contains 't' then throw (.malformed "bad inline flags: cannot turn off global flag")
  if added.any removed.contains then throw (.malformed "bad inline flags: turned on and off")
  return (.scoped added removed, rest)

/-- The group that a condition names, by name or by number. -/
def conditionGroup (s : Scope) (name : List Char) : Except Fault Nat :=
  let text := String.ofList name
  if Text.isName name then
    match s.names.lookup text with
    | some i => .ok i
    | none => .error (.malformed "unknown group name")
  else
    match Text.readInt? text with
    | some (.ofNat 0) => .error (.malformed "bad group number")
    | some (.ofNat i) => .ok i
    | _ => .error (.malformed "bad character in group name")

/-- How a group treats what it takes. -/
inductive Wrap where
  | plain
  | captured (name : Option String)
  | atomic

def isLayout (c : Char) : Bool := c = ' ' || ('\t' ≤ c && c ≤ '\r')

/-- The node of a branch whose items were collected in reverse. -/
def branchOf (items : List (Kind × Node)) : Node := Node.ofList (items.reverse.map (·.2))

mutual

def readBranches : Nat → Flags → Nat → Bool → Scope → List Char →
    Except Fault (Node × Scope × List Char)
  | 0, _, _, _, _, _ => .error (.malformed "too deep")
  | fuel + 1, f, depth, first, s, cs =>
    match readItems fuel (if depth = 0 then s.flags else f) depth first [] s cs with
    | .error e => .error e
    | .ok (a, s, '|' :: rest) =>
      match readBranches fuel f depth false s rest with
      | .error e => .error e
      | .ok (b, s, rest) => .ok (.alt a b, s, rest)
    | .ok r => .ok r

def readItems : Nat → Flags → Nat → Bool → List (Kind × Node) → Scope → List Char →
    Except Fault (Node × Scope × List Char)
  | 0, _, _, _, _, _, _ => .error (.malformed "too deep")
  | fuel + 1, f, depth, first, items, s, cs =>
    match cs with
    | [] => .ok (branchOf items, s, [])
    | '|' :: _ => .ok (branchOf items, s, cs)
    | ')' :: _ => .ok (branchOf items, s, cs)
    | c :: rest =>
      if f.verbose && isLayout c then readItems fuel f depth first items s rest
      else if f.verbose && c = '#' then
        match skipLine rest with
        | .error e => .error e
        | .ok rest => readItems fuel f depth first items s rest
      else
        let push (kind : Kind) (node : Node) (rest : List Char) :=
          readItems fuel f depth first ((kind, node) :: items) s rest
        let repetition (least : Nat) (most : Option Nat) (rest : List Char) :=
          match repeatLast items least most rest with
          | .error e => .error e
          | .ok (items, rest) =>
            readItems fuel f depth first items { s with
              templateRepeat := s.templateRepeat || f.template } rest
        match c with
        | '\\' =>
          match rest with
          | [] => .error (.malformed "bad escape (end of pattern)")
          | e :: rest =>
            match readEscape f s e rest with
            | .error e => .error e
            | .ok (kind, node, rest) => push kind node rest
        | '^' =>
          push .anchor (.anchor (if f.multiline then .lineStart else .textStart) f.ascii) rest
        | '$' =>
          push .anchor (.anchor (if f.multiline then .lineEnd else .lastLineEnd) f.ascii) rest
        | '.' => push .other (.any f.dotAll) rest
        | '[' =>
          match readClass f rest with
          | .error e => .error e
          | .ok (node, rest) => push .other node rest
        | '*' => repetition 0 none rest
        | '+' => repetition 1 none rest
        | '?' => repetition 0 (some 1) rest
        | '\x7b' =>
          match readBounds rest with
          | .error e => .error e
          | .ok none => push .other (leaf f c.toNat) rest
          | .ok (some (least, most, rest)) => repetition least most rest
        | '(' =>
          match rest with
          | '?' :: rest => readExtension fuel f depth first items s rest
          | _ => readGroup fuel f (.captured none) f depth first items s rest
        | _ => push .other (leaf f c.toNat) rest

def readGroup : Nat → Flags → Wrap → Flags → Nat → Bool → List (Kind × Node) → Scope → List Char →
    Except Fault (Node × Scope × List Char)
  | 0, _, _, _, _, _, _, _, _ => .error (.malformed "too deep")
  | fuel + 1, inner, wrap, f, depth, first, items, s, cs =>
    let opened : Except Fault (Option Nat × Scope) := match wrap with
      | .captured name => (s.openGroup name).map fun (i, s) => (some i, s)
      | _ => .ok (none, s)
    match opened with
    | .error e => .error e
    | .ok (index, s) =>
      match readBranches fuel inner (depth + 1) false s cs with
      | .error e => .error e
      | .ok (body, s, ')' :: rest) =>
        match index, wrap with
        | some i, _ =>
          readItems fuel f depth first ((.other, .group i body) :: items) (s.closeGroup i body) rest
        | none, .atomic => readItems fuel f depth first ((.other, .atomic body) :: items) s rest
        | none, _ => readItems fuel f depth first ((.other, body) :: items) s rest
      | .ok _ => .error (.malformed "missing ), unterminated subpattern")

/-- Reads what follows an opening parenthesis and a question mark. -/
def readExtension : Nat → Flags → Nat → Bool → List (Kind × Node) → Scope → List Char →
    Except Fault (Node × Scope × List Char)
  | 0, _, _, _, _, _, _ => .error (.malformed "too deep")
  | fuel + 1, f, depth, first, items, s, cs =>
    match cs with
    | 'P' :: '<' :: rest =>
      match readName '>' rest with
      | .error e => .error e
      | .ok (name, rest) => readGroup fuel f (.captured (some name)) f depth first items s rest
    | 'P' :: '=' :: rest =>
      match readName ')' rest with
      | .error e => .error e
      | .ok (name, rest) =>
        match s.names.lookup name with
        | none => .error (.malformed "unknown group name")
        | some i =>
          match s.checkReference i with
          | .error e => .error e
          | .ok () => readItems fuel f depth first ((.other, .backref i f.alphabet) :: items) s rest
    | ':' :: rest => readGroup fuel f .plain f depth first items s rest
    | '#' :: rest =>
      match skipComment rest with
      | .error e => .error e
      | .ok rest => readItems fuel f depth first items s rest
    | '=' :: rest => readAhead fuel false f depth first items s rest
    | '!' :: rest => readAhead fuel true f depth first items s rest
    | '<' :: '=' :: rest => readBehind fuel false f depth first items s rest
    | '<' :: '!' :: rest => readBehind fuel true f depth first items s rest
    | '(' :: rest => readCondition fuel f depth first items s rest
    | '>' :: rest => readGroup fuel f .atomic f depth first items s rest
    | c :: _ =>
      if c = '-' || Flags.letters.contains c then
        match readLetters cs with
        | .error e => .error e
        | .ok (.scoped added removed, rest) =>
          readGroup fuel (f.within added removed) .plain f depth first items s rest
        | .ok (.whole added, rest) =>
          if !first || !items.isEmpty then
            .error (.malformed "global flags not at the start of the expression")
          else
            let flags := added.foldl (·.set true ·) s.flags
            if flags.verbose && !f.verbose then .error .verboseStart
            else readItems fuel flags depth first items { s with flags := flags } rest
      else .error (.malformed "unknown extension")
    | [] => .error (.malformed "unexpected end of pattern")

def readAhead : Nat → Bool → Flags → Nat → Bool → List (Kind × Node) → Scope → List Char →
    Except Fault (Node × Scope × List Char)
  | 0, _, _, _, _, _, _, _ => .error (.malformed "too deep")
  | fuel + 1, negated, f, depth, first, items, s, cs =>
    match readBranches fuel f (depth + 1) false s cs with
    | .error e => .error e
    | .ok (body, s, ')' :: rest) =>
      readItems fuel f depth first ((.other, .ahead negated body) :: items) s rest
    | .ok _ => .error (.malformed "missing ), unterminated subpattern")

/-- Reads the body of a lookbehind, whose width must be fixed. -/
def readBehind : Nat → Bool → Flags → Nat → Bool → List (Kind × Node) → Scope → List Char →
    Except Fault (Node × Scope × List Char)
  | 0, _, _, _, _, _, _, _ => .error (.malformed "too deep")
  | fuel + 1, negated, f, depth, first, items, s, cs =>
    let bound := s.lookbehind
    match readBranches fuel f (depth + 1) false { s with
      lookbehind := some (bound.getD s.groups) } cs with
    | .error e => .error e
    | .ok (body, s, ')' :: rest) =>
      let w := body.width s.widthOf
      let s := { s with lookbehind := bound, unevenBehind := s.unevenBehind || w.least ≠ w.most }
      readItems fuel f depth first ((.other, .behind negated w.least body) :: items) s rest
    | .ok _ => .error (.malformed "missing ), unterminated subpattern")

def readCondition : Nat → Flags → Nat → Bool → List (Kind × Node) → Scope → List Char →
    Except Fault (Node × Scope × List Char)
  | 0, _, _, _, _, _, _ => .error (.malformed "too deep")
  | fuel + 1, f, depth, first, items, s, cs =>
    match readUntil ')' cs with
    | .error e => .error e
    | .ok (name, rest) =>
      match conditionGroup s name with
      | .error e => .error e
      | .ok i =>
        let s := { s with conditions := i :: s.conditions }
        match s.checkBehind i with
        | .error e => .error e
        | .ok () =>
          match readItems fuel f (depth + 1) false [] s rest with
          | .error e => .error e
          | .ok (yes, s, ')' :: rest) =>
            readItems fuel f depth first ((.other, .cond i yes .empty) :: items) s rest
          | .ok (yes, s, '|' :: rest) =>
            match readItems fuel f (depth + 1) false [] s rest with
            | .error e => .error e
            | .ok (no, s, ')' :: rest) =>
              readItems fuel f depth first ((.other, .cond i yes no) :: items) s rest
            | .ok _ => .error (.malformed "conditional backref with more than two branches")
          | .ok _ => .error (.malformed "missing ), unterminated subpattern")

end

/-- A pattern ready for matching. -/
structure Program where
  node : Node
  names : List (String × Nat)
  deriving Repr

def fuelFor (cs : List Char) : Nat := 4 * cs.length + 8

def Scope.finish (s : Scope) : Except Fault Unit :=
  if s.conditions.any (· ≥ s.groups) then .error (.malformed "invalid group reference")
  else if s.unevenBehind then .error (.malformed "look-behind requires fixed-width pattern")
  else if s.templateRepeat then .error (.malformed "unsupported template operator")
  else .ok ()

/-- Reads a whole pattern, given the modes to start with. -/
def readWhole (flags : Flags) (cs : List Char) : Except Fault Program :=
  match readBranches (fuelFor cs) flags 0 true { flags := flags } cs with
  | .error e => .error e
  | .ok (node, s, rest) =>
    if s.flags.ascii && s.flags.unicode then .error .mixedAlphabets
    else if !rest.isEmpty then .error (.malformed "unbalanced parenthesis")
    else s.finish.map fun _ => ⟨node, s.names⟩

/-- The pattern that a text denotes; a verbose pattern is read again from its start. -/
def compile (cs : List Char) : Except Fault Program :=
  match readWhole {} cs with
  | .error .verboseStart => readWhole { verbose := true } cs
  | r => r

/-- Reads a pattern as the body of the next group of a larger pattern. -/
def readBody (name : String) (s : Scope) (cs : List Char) : Except Fault (Node × Scope) :=
  match s.openGroup (some name) with
  | .error e => .error e
  | .ok (i, s) =>
    match readBranches (fuelFor cs) {} 1 false s cs with
    | .error e => .error e
    | .ok (body, s, []) => .ok (.group i body, s.closeGroup i body)
    | .ok _ => .error (.malformed "unbalanced parenthesis")

end SegmentIndex.Pattern
