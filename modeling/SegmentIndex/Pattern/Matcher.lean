import SegmentIndex.Pattern.Reader

/-!
# Matching patterns

A node is run with a continuation that says how the rest of the pattern goes on. A choice is tried
in order and is undone when the continuation fails, so the first complete way through the pattern
wins. A repetition stops after an optional round that took nothing.
-/
namespace SegmentIndex.Pattern

/-- A place in a text with the texts that the groups took so far. -/
structure Point where
  pos : Nat
  before : List Char
  after : List Char
  marks : List (Nat × List Char)
  deriving Repr

namespace Point

def start (cs : List Char) : Point := ⟨0, [], cs, []⟩

def advance (p : Point) (c : Char) (rest : List Char) : Point :=
  { p with pos := p.pos + 1, before := c :: p.before, after := rest }

def mark? (p : Point) (i : Nat) : Option (List Char) := p.marks.lookup i

def setMark (p : Point) (i : Nat) (text : List Char) : Point :=
  { p with marks := (i, text) :: p.marks.filter (·.1 ≠ i) }

def back : Nat → Point → Option Point
  | 0, p => some p
  | n + 1, p =>
    match p.before with
    | [] => none
    | c :: rest => back n { p with pos := p.pos - 1, before := rest, after := c :: p.after }

/-- Whether a place is what an anchor asks for; in the empty text no place
counts as between words or inside one. -/
def isAt (p : Point) (ascii : Bool) : Anchor → Bool
  | .textStart => p.before.isEmpty
  | .textEnd => p.after.isEmpty
  | .lineStart => p.before.isEmpty || p.before.head? = some '\n'
  | .lineEnd => p.after.isEmpty || p.after.head? = some '\n'
  | .lastLineEnd => p.after.isEmpty || p.after = ['\n']
  | .wordEdge => onEdge p
  | .noWordEdge => !(p.before.isEmpty && p.after.isEmpty) && !onEdge p
where
  /-- Whether a word begins or ends at a place. -/
  onEdge (p : Point) : Bool :=
    let isWord (c : Option Char) := c.any fun c => Category.word.test ascii c
    (isWord p.before.head?) != (isWord p.after.head?)

/-- Takes a given text, character by character under an alphabet. -/
def take (a : Alphabet) : List Char → Point → Option Point
  | [], p => some p
  | c :: cs, p =>
    match p.after with
    | [] => none
    | d :: rest => if a.fold c.toNat = a.fold d.toNat then take a cs (p.advance d rest) else none

end Point

/-- How a match goes on. -/
abbrev Next := Point → Option Point

def exactly (step : Next → Next) : Nat → Next → Next
  | 0, k, p => k p
  | n + 1, k, p => step (fun q => exactly step n k q) p

/-- At most `n` rounds of a step, as many as possible first. -/
def upToGreedy (step : Next → Next) : Nat → Next → Next
  | 0, k, p => k p
  | n + 1, k, p =>
    match step (fun q => if q.pos = p.pos then k q else upToGreedy step n k q) p with
    | some r => some r
    | none => k p

/-- At most `n` rounds of a step, as few as possible first. -/
def upToReluctant (step : Next → Next) : Nat → Next → Next
  | 0, k, p => k p
  | n + 1, k, p =>
    match k p with
    | some r => some r
    | none => step (fun q => if q.pos = p.pos then k q else upToReluctant step n k q) p

/-- At most `n` rounds of a step, each of which keeps its first way. -/
def upToPossessive (step : Next → Next) : Nat → Point → Point
  | 0, p => p
  | n + 1, p =>
    match step some p with
    | some q => if q.pos = p.pos then q else upToPossessive step n q
    | none => p

/-- Exactly `n` rounds of a step, each of which keeps its first way. -/
def exactlyPossessive (step : Next → Next) : Nat → Point → Option Point
  | 0, p => some p
  | n + 1, p =>
    match step some p with
    | some q => exactlyPossessive step n q
    | none => none

/-- The most optional rounds that a repetition can use at a place. -/
def roundsLeft (least : Nat) (most : Option Nat) (p : Point) : Nat :=
  match most with
  | none => p.after.length + 1
  | some m => min (m - least) (p.after.length + 1)

/-- Runs a node at a place. -/
def Node.run : Node → Next → Next
  | .empty, k, p => k p
  | .fail, _, _ => none
  | .any newline, k, p =>
    match p.after with
    | c :: rest => if newline || c ≠ '\n' then k (p.advance c rest) else none
    | [] => none
  | .chars a negated items, k, p =>
    match p.after with
    | c :: rest => if classTest a negated items c then k (p.advance c rest) else none
    | [] => none
  | .anchor place ascii, k, p => if p.isAt ascii place then k p else none
  | .seq a b, k, p => a.run (fun q => b.run k q) p
  | .alt a b, k, p =>
    match a.run k p with
    | some r => some r
    | none => b.run k p
  | .group i body, k, p =>
    body.run (fun q => k (q.setMark i (p.after.take (q.pos - p.pos)))) p
  | .backref i a, k, p =>
    match p.mark? i with
    | none => none
    | some text =>
      match p.take a text with
      | some q => k q
      | none => none
  | .rep .greedy least most body, k, p =>
    exactly (fun k q => body.run k q) least
      (fun q => upToGreedy (fun k q => body.run k q) (roundsLeft least most q) k q) p
  | .rep .reluctant least most body, k, p =>
    exactly (fun k q => body.run k q) least
      (fun q => upToReluctant (fun k q => body.run k q) (roundsLeft least most q) k q) p
  | .rep .possessive least most body, k, p =>
    match exactlyPossessive (fun k q => body.run k q) least p with
    | some q => k (upToPossessive (fun k q => body.run k q) (roundsLeft least most q) q)
    | none => none
  | .ahead negated body, k, p =>
    match body.run some p with
    | some q => if negated then none else k { p with marks := q.marks }
    | none => if negated then k p else none
  | .behind negated width body, k, p =>
    match p.back width with
    | none => if negated then k p else none
    | some b =>
      match body.run some b with
      | some q => if negated then none else k { p with marks := q.marks }
      | none => if negated then k p else none
  | .atomic body, k, p =>
    match body.run some p with
    | some q => k q
    | none => none
  | .cond i yes no, k, p =>
    match p.mark? i with
    | some _ => yes.run k p
    | none => no.run k p

/-- What the groups took when a pattern takes a whole text. -/
def Program.fullMatch (program : Program) (cs : List Char) : Option (List (Nat × List Char)) :=
  (program.node.run (fun p => if p.after.isEmpty then some p else none) (.start cs)).map (·.marks)

/-- The texts of the named groups that took part, in the order of the names. -/
def Program.captures (program : Program) (marks : List (Nat × List Char)) :
    List (String × String) :=
  program.names.filterMap fun (name, i) => (marks.lookup i).map fun cs => (name, String.ofList cs)

end SegmentIndex.Pattern
