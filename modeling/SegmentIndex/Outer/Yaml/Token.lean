import SegmentIndex.Outer.Yaml.Scalar

/-!
# Tokens of a document

Besides its visible marks a document has tokens that its layout stands for: where an indented list
or map begins and ends, and that what came before a colon is a key. A key of this kind is known only
when its colon comes; its token is then put in where the key began.
-/
namespace SegmentIndex.Outer.Yaml

/-- A tag as it is written: a handle, unless the tag is complete, and the rest. -/
structure TagText where
  handle : Option String
  suffix : String
  deriving DecidableEq, Repr, Inhabited

inductive Token where
  | version (major : Nat)
  | tagHandle (handle lead : String)
  | otherDirective
  | documentStart
  | documentEnd
  | documentsEnd
  | listStart
  | mapStart
  | blockEnd
  | flowListStart
  | flowListEnd
  | flowMapStart
  | flowMapEnd
  | flowEntry
  | entry
  | key
  | value
  | alias (name : String)
  | anchor (name : String)
  | tag (t : TagText)
  | scalar (plain : Bool) (text : String)
  deriving DecidableEq, Repr, Inhabited

namespace Cursor

/-! ## Directives, names and tags -/

def name? (c : Cursor) : Option (String × Cursor) :=
  let cs := c.run isNameChar
  if cs.isEmpty then none else some (String.ofList cs, c.skip cs.length)

def nameEnds : List Char := ['?', ':', ',', ']', '\x7d', '%', '@', '\x60']

def anchorName? (c : Cursor) : Option (String × Cursor) :=
  c.next.name?.filter fun (_, c) => endsWord c.peek || c.peek.any (nameEnds.contains ·)

/-- Reads a handle of a tag: one mark, or two with a name between them. -/
def handle? (c : Cursor) : Option (String × Cursor) :=
  if c.peek ≠ some '!' then none
  else if c.peekAt 1 = some ' ' then some ("!", c.next)
  else
    let cs := c.next.run isNameChar
    let c := c.next.skip cs.length
    if c.peek = some '!' then some (String.ofList ('!' :: cs ++ ['!']), c.next) else none

def tagMarks : List Char :=
  ['-', ';', '/', '?', ':', '@', '&', '=', '+', '$', ',', '_', '.', '!', '~', '*', '\'', '(', ')',
   '[', ']', 
   '%']

def tagBytes : Nat → Cursor → Option (List UInt8 × Cursor)
  | 0, _ => none
  | fuel + 1, c =>
    match c.rest with
    | '%' :: a :: b :: _ =>
      match Json.hexValue? a, Json.hexValue? b with
      | some m, some n =>
        (tagBytes fuel (c.skip 3)).map fun (more, c) => (UInt8.ofNat (m * 16 + n) :: more, c)
      | _, _ => none
    | '%' :: _ => none
    | _ => some ([], c)

def tagRest : Nat → Cursor → Option (List Char × Cursor)
  | 0, _ => none
  | fuel + 1, c =>
    match c.peek with
    | none => some ([], c)
    | some a =>
      if a = '%' then
        (tagBytes (c.rest.length + 1) c).bind fun (bytes, c) =>
          (String.fromUTF8? ⟨bytes.toArray⟩).bind fun s =>
            (tagRest fuel c).map fun (more, c) => (s.toList ++ more, c)
      else if a.isAlphanum || tagMarks.contains a then
        (tagRest fuel c.next).map fun (more, c) => (a :: more, c)
      else some ([], c)

def tagRest? (c : Cursor) : Option (String × Cursor) :=
  if !c.peek.any (fun a => a.isAlphanum || tagMarks.contains a) then none
  else (tagRest (c.rest.length + 1) c).map fun (cs, c) => (String.ofList cs, c)

def hasHandle (c : Cursor) : Bool :=
  (c.next.run fun a => a ≠ ' ' && !isBreak a).contains '!'

def tag? (c : Cursor) : Option (TagText × Cursor) :=
  let found :=
    if c.peekAt 1 = some '<' then
      (c.skip 2).tagRest?.bind fun (s, c) => if c.peek = some '>' then
        some (TagText.mk none s, c.next) else none
    else if endsWord (c.peekAt 1) then some (TagText.mk none "!", c.next)
    else
      (if c.hasHandle then c.handle? else some ("!", c.next)).bind fun (h, c) =>
        c.tagRest?.map fun (s, c) => (TagText.mk (some h) s, c)
  found.filter fun (_, c) => endsField c.peek

def digits? (c : Cursor) : Option (Nat × Cursor) :=
  let cs := c.run Char.isDigit
  if cs.isEmpty then none
  else some (cs.foldl (fun n a => n * 10 + (a.toNat - '0'.toNat)) 0, c.skip cs.length)

def skipSpaces (c : Cursor) : Cursor := c.skipWhile (· = ' ')

/-- Reads a directive behind its mark, up to the end of its line. -/
def directive? (c : Cursor) : Option (Token × Cursor) :=
  let found := c.next.name?.bind fun (name, c) =>
    if !endsField c.peek then none
    else if name = "YAML" then
      c.skipSpaces.digits?.bind fun (major, c) =>
        if c.peek ≠ some '.' then none
        else c.next.digits?.bind fun (_, c) => if endsField c.peek then
          some (Token.version major, c) else none
    else if name = "TAG" then
      c.skipSpaces.handle?.bind fun (h, c) =>
        if c.peek ≠ some ' ' then none
        else c.skipSpaces.tagRest?.bind fun (s, c) =>
          if endsField c.peek then some (Token.tagHandle h s, c) else none
    else some (Token.otherDirective, c.skipLine)
  found.bind fun (t, c) => c.skipRemark?.map fun c => (t, c)

end Cursor

/-! ## Layout -/

/-- Where a key may have begun: the number of tokens before it, whether
nothing else can stand there, and its place. -/
structure KeyStart where
  tokens : Nat
  required : Bool
  index : Nat
  line : Nat
  column : Nat
  deriving Repr, Inhabited

def maxKeyLength : Nat := 1024

/-- A document that is read in part. The tokens are kept with the last one first. `keys` has a place
for every open bracket and one for what is outside, the innermost first; `indents` are the columns
of the open lists and maps around the innermost. -/
structure Layout where
  cursor : Cursor
  tokens : List Token := []
  keys : List (Option KeyStart) := [none]
  indent : Int := -1
  indents : List Int := []
  keyAllowed : Bool := true
  deriving Inhabited

namespace Layout

variable (l : Layout)

def inFlow : Bool := l.keys.length > 1

def push (t : Token) : Layout := { l with tokens := t :: l.tokens }

def insert (n : Nat) (t : Token) : Layout :=
  let after := l.tokens.length - n
  { l with tokens := l.tokens.take after ++ t :: l.tokens.drop after }

def moveTo (c : Cursor) : Layout := { l with cursor := c }

def allow (b : Bool) : Layout := { l with keyAllowed := b }

/-- Forgets a key unless it can still be completed here; a key that is required must not be lost. -/
def refresh (k : Option KeyStart) : Option (Option KeyStart) :=
  match k with
  | none => some none
  | some k =>
    if k.line ≠ l.cursor.line || l.cursor.index > k.index + maxKeyLength then
      if k.required then none else some none
    else some (some k)

def dropStale? : Option Layout := (l.keys.mapM l.refresh).map fun keys => { l with keys := keys }

def dropKey? : Option Layout :=
  match l.keys with
  | some k :: rest => if k.required then none else some { l with keys := none :: rest }
  | _ => some l

def noteKey? : Option Layout :=
  if !l.keyAllowed then some l
  else
    let c := l.cursor
    let k : KeyStart := ⟨l.tokens.length, !l.inFlow && l.indent = c.column, c.index,
      c.line, c.column⟩
    l.dropKey?.map fun l => { l with keys := some k :: l.keys.drop 1 }

/-- Closes the lists and maps that are indented further than a column. -/
def unwindTo (column : Int) : List Int → Layout → Layout
  | [], l => l
  | outer :: rest, l =>
    if l.indent > column then unwindTo column rest { l.push .blockEnd with
      indent := outer, indents := rest }
    else l

/-- Closes lists and maps, unless the place is inside brackets. -/
def unwind (column : Int) : Layout := if l.inFlow then l else unwindTo column l.indents l

def openAt (column : Nat) : Layout × Bool :=
  if l.indent < column then ({ l with indent := column, indents := l.indent :: l.indents }, true)
  else (l, false)

/-- Goes over spaces, remarks and line ends. -/
def skipBlank : Nat → Layout → Layout
  | 0, l => l
  | fuel + 1, l =>
    let c := l.cursor.skipSpaces
    let c := if c.peek = some '#' then c.skipLine else c
    if c.peek.any isBreak then skipBlank fuel
      ((if l.inFlow then l else l.allow true).moveTo c.skipBreak.2)
    else l.moveTo c

def outermost? (t : Token) (c : Cursor) : Option Layout :=
  (l.unwind (-1)).dropKey?.map fun l => ((l.allow false).push t).moveTo c

def openBracket? (t : Token) : Option Layout :=
  l.noteKey?.map fun l => (({ l with keys := none :: l.keys }.allow true).push t).moveTo
    l.cursor.next

def closeBracket? (t : Token) : Option Layout :=
  if !l.inFlow then none
  else l.dropKey?.map fun l => (({ l with keys := l.keys.drop 1 }.allow false).push t).moveTo
    l.cursor.next

def flowEntry? : Option Layout :=
  l.dropKey?.map fun l => ((l.allow true).push .flowEntry).moveTo l.cursor.next

/-- Reads a mark that stands before an item or a key of an indented list or map and may open it. -/
def indicator? (opening mark : Token) (keyNext : Bool) : Option Layout :=
  if !l.inFlow && !l.keyAllowed then none
  else
    let (l, opened) := if l.inFlow then (l, false) else l.openAt l.cursor.column
    let l := if opened then l.push opening else l
    (l.allow keyNext).dropKey?.map fun l => (l.push mark).moveTo l.cursor.next

/-- Reads a colon: what a key may have begun with is a key. -/
def value? : Option Layout :=
  match l.keys with
  | some k :: rest =>
    let l := { l with keys := none :: rest }.insert k.tokens .key
    let (l, opened) := if l.inFlow then (l, false) else l.openAt k.column
    let l := if opened then l.insert k.tokens .mapStart else l
    some (((l.allow false).push .value).moveTo l.cursor.next)
  | _ => l.indicator? .mapStart .value (!l.inFlow)

def simple? (read : Cursor → Option (Token × Cursor)) : Option Layout :=
  l.noteKey?.bind fun l => (read l.cursor).map fun (t, c) => ((l.allow false).push t).moveTo c

def block? (folded : Bool) : Option Layout :=
  l.dropKey?.bind fun l =>
    (l.cursor.block? folded l.indent).map fun (s, c) =>
      ((l.allow true).push (.scalar false s)).moveTo c

def plain? : Option Layout :=
  l.noteKey?.map fun l =>
    let (s, broken, c) := l.cursor.plain l.inFlow (l.indent + 1)
    ((l.allow broken).push (.scalar true s)).moveTo c

def marks : List Char :=
  ['-', '?', ':', ',', '[', ']', '\x7b', '\x7d', '#', '&', '*', '!', '|', '>', '\'', '"', '%', '@',
   '\x60']

/-- Whether a plain scalar begins with a character, before another one. -/
def beginsPlain (a : Char) (next : Option Char) : Bool :=
  (!endsWord (some a) && !marks.contains a) ||
    (!endsWord next && (a = '-' || (!l.inFlow && (a = '?' || a = ':'))))

def token? (a : Char) : Option Layout :=
  let c := l.cursor
  let field := endsWord (c.peekAt 1)
  if a = '%' && c.column = 0 then
    (l.unwind (-1)).dropKey?.bind fun l =>
      c.directive?.map fun (t, c) => ((l.allow false).push t).moveTo c
  else if c.column = 0 && c.atMark '-' then l.outermost? .documentStart (c.skip 3)
  else if c.column = 0 && c.atMark '.' then l.outermost? .documentEnd (c.skip 3)
  else if a = '[' then l.openBracket? .flowListStart
  else if a = '\x7b' then l.openBracket? .flowMapStart
  else if a = ']' then l.closeBracket? .flowListEnd
  else if a = '\x7d' then l.closeBracket? .flowMapEnd
  else if a = ',' then l.flowEntry?
  else if a = '-' && field then l.indicator? .listStart .entry true
  else if a = '?' && (l.inFlow || field) then l.indicator? .mapStart .key (!l.inFlow)
  else if a = ':' && (l.inFlow || field) then l.value?
  else if a = '*' then l.simple? fun c => c.anchorName?.map fun (s, c) => (.alias s, c)
  else if a = '&' then l.simple? fun c => c.anchorName?.map fun (s, c) => (.anchor s, c)
  else if a = '!' then l.simple? fun c => c.tag?.map fun (t, c) => (.tag t, c)
  else if a = '|' && !l.inFlow then l.block? false
  else if a = '>' && !l.inFlow then l.block? true
  else if a = '\'' then l.simple? fun c => (c.quoted? false).map fun (s, c) => (.scalar false s, c)
  else if a = '"' then l.simple? fun c => (c.quoted? true).map fun (s, c) => (.scalar false s, c)
  else if l.beginsPlain a (c.peekAt 1) then l.plain?
  else none

def readAll : Nat → Layout → Option (List Token)
  | 0, _ => none
  | fuel + 1, l =>
    (skipBlank (l.cursor.rest.length + 1) l).dropStale?.bind fun l =>
      let l := l.unwind l.cursor.column
      match l.cursor.peek with
      | none => (l.unwind (-1)).dropKey?.map fun l => (l.push .documentsEnd).tokens.reverse
      | some a => (l.token? a).bind (readAll fuel)

end Layout

/-- The tokens of a text, if it holds nothing but allowed characters and every mark can be read. -/
def tokens? (s : String) : Option (List Token) :=
  if !s.toList.all isAllowed then none
  else
    let c := Cursor.ofText s
    let c := if c.peek = some '\ufeff' then c.next else c
    Layout.readAll (s.length + 2) { cursor := c }

end SegmentIndex.Outer.Yaml
