import SegmentIndex.Text.Case
import SegmentIndex.Text.Basic
import SegmentIndex.Text.Word

/-!
# Regular expressions

A node of a pattern says what it takes from the text. The modes in force at a leaf are part of the
leaf, so a node means the same wherever it stands.
-/
namespace SegmentIndex.Pattern

/-- Classes of characters with a name. -/
inductive Category where
  | digit
  | blank
  | word
  deriving DecidableEq, Repr

/-- A member of a character class. -/
inductive Item where
  | one (code : Nat)
  | range (first last : Nat)
  | category (kind : Category) (negated : Bool)
  deriving DecidableEq, Repr

/-- Places in a text. -/
inductive Anchor where
  | textStart
  | textEnd
  | lineStart
  | lineEnd
  | lastLineEnd
  | wordEdge
  | noWordEdge
  deriving DecidableEq, Repr

/-- How a repetition prefers to end: late, early, or late and for good. -/
inductive Greed where
  | greedy
  | reluctant
  | possessive
  deriving DecidableEq, Repr

/-- How letters are compared and which characters the named classes hold. -/
structure Alphabet where
  ignoreCase : Bool
  ascii : Bool
  deriving DecidableEq, Repr, Inhabited

/-- A part of a pattern. -/
inductive Node where
  | empty
  | fail
  | any (newline : Bool)
  | chars (alphabet : Alphabet) (negated : Bool) (items : List Item)
  | anchor (place : Anchor) (ascii : Bool)
  | seq (first second : Node)
  | alt (first second : Node)
  | group (index : Nat) (body : Node)
  | backref (index : Nat) (alphabet : Alphabet)
  | rep (greed : Greed) (least : Nat) (most : Option Nat) (body : Node)
  | ahead (negated : Bool) (body : Node)
  | behind (negated : Bool) (width : Nat) (body : Node)
  | atomic (body : Node)
  | cond (index : Nat) (yes no : Node)
  deriving DecidableEq, Repr

def Node.char (c : Char) : Node := .chars default false [.one c.toNat]

def Node.text : List Char → Node
  | [] => .empty
  | c :: rest => .seq (.char c) (Node.text rest)

def Node.ofList : List Node → Node
  | [] => .empty
  | n :: rest => .seq n (Node.ofList rest)

namespace Category

def test (ascii : Bool) (c : Char) : Category → Bool
  | .digit => if ascii then c.isDigit else Text.isDigit c
  | .blank =>
    if ascii then c = ' ' || ('\t' ≤ c && c ≤ '\r') else Text.isBlank c
  | .word => if ascii then c.isAlphanum || c = '_' else Text.isWordChar c

end Category

namespace Alphabet

/-- The representative of a code point among those that differ in case only. -/
def fold (a : Alphabet) (n : Nat) : Nat :=
  if !a.ignoreCase then n
  else if a.ascii then (if 65 ≤ n && n ≤ 90 then n + 32 else n)
  else Text.lowerCode n

/-- Code points that a class member may name in order to hold a folded code point. -/
def spellings (a : Alphabet) (n : Nat) : List Nat :=
  if !a.ignoreCase then [n]
  else if a.ascii then (if 97 ≤ n && n ≤ 122 then [n, n - 32] else [n])
  else (Text.variantsOf n).flatMap Text.sourcesOf

end Alphabet

namespace Item

/-- Whether a character is a member; `n` is its folded code point. -/
def test (a : Alphabet) (n : Nat) : Item → Bool
  | .one code => (a.spellings n).contains code
  | .range first last => (a.spellings n).any fun m => first ≤ m && m ≤ last
  | .category kind negated => (kind.test a.ascii (Char.ofNat n)) != negated

end Item

def classTest (a : Alphabet) (negated : Bool) (items : List Item) (c : Char) : Bool :=
  let n := a.fold c.toNat
  items.any (·.test a n) != negated

/-- Least and greatest length of what a node takes; a length
beyond the limit counts as the limit. -/
structure Width where
  least : Nat
  most : Nat
  deriving DecidableEq, Repr

def repeatLimit : Nat := 4294967295

def Width.capped (w : Width) : Width := ⟨min w.least (repeatLimit - 1), min w.most repeatLimit⟩

/-- The width of a node, given the widths of the groups closed so far. -/
def Node.width (groups : Nat → Width) : Node → Width
  | .empty | .fail | .anchor .. | .ahead .. | .behind .. => ⟨0, 0⟩
  | .any _ | .chars .. => ⟨1, 1⟩
  | .seq a b =>
    let v := a.width groups
    let w := b.width groups
    Width.capped ⟨v.least + w.least, v.most + w.most⟩
  | .alt a b =>
    let v := a.width groups
    let w := b.width groups
    Width.capped ⟨min v.least w.least, max v.most w.most⟩
  | .group _ body | .atomic body => body.width groups
  | .backref i _ => groups i
  | .rep _ least most body =>
    let w := body.width groups
    Width.capped ⟨w.least * least, w.most * most.getD repeatLimit⟩
  | .cond _ yes no =>
    let v := yes.width groups
    let w := no.width groups
    Width.capped ⟨min v.least w.least, max v.most w.most⟩

end SegmentIndex.Pattern
