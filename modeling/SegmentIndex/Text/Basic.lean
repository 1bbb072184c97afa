/-!
# Sets of characters, blanks and digits

A property of characters is stored as an ascending list of closed ranges of code points. The scan
stops at the first range that begins above the character, so an early character is found quickly. A
character is blank when it separates words: the white space of the Unicode database together with
the four information separators.

Every script with decimal digits has ten of them in a row, so the table lists the zeros. A whole
number may be surrounded by blanks, carry one sign, and separate its digits by single underscores.
Here and wherever whole numbers are read or written they may have any number of digits; that an
interpreter can be told to refuse long ones is left out.
-/
namespace SegmentIndex.Text

/-! ## Blanks -/

/-- Whether a code point lies in one of the ascending closed ranges. -/
def inRanges : List (Nat × Nat) → Nat → Bool
  | [], _ => false
  | (lo, hi) :: rest, n => if n < lo then false else n ≤ hi || inRanges rest n

def blankRanges : List (Nat × Nat) :=
  [(0x9, 0xd), (0x1c, 0x20), (0x85, 0x85), (0xa0, 0xa0), (0x1680, 0x1680), (0x2000, 0x200a),
   (0x2028, 0x2029), (0x202f, 0x202f), (0x205f, 0x205f), (0x3000, 0x3000)]

def isBlank (c : Char) : Bool := inRanges blankRanges c.toNat

def dropBlank (cs : List Char) : List Char := cs.dropWhile isBlank

def trim (cs : List Char) : List Char := (dropBlank (dropBlank cs).reverse).reverse

/-- Whether a character is white space: a blank that is no information separator. -/
def isWhite (c : Char) : Bool := isBlank c && !(0x1c ≤ c.toNat && c.toNat ≤ 0x1f)

def trimWhite (cs : List Char) : List Char :=
  ((cs.dropWhile isWhite).reverse.dropWhile isWhite).reverse

def allBlank (s : String) : Bool := s.toList.all isBlank

theorem isBlank_space : isBlank ' ' = true := by decide

/-! ## Digits and whole numbers -/

def digitZeros : List Nat :=
  [0x30, 0x660, 0x6f0, 0x7c0, 0x966, 0x9e6, 0xa66, 0xae6, 0xb66, 0xbe6,
   0xc66, 0xce6, 0xd66, 0xde6, 0xe50, 0xed0, 0xf20, 0x1040, 0x1090, 0x17e0,
   0x1810, 0x1946, 0x19d0, 0x1a80, 0x1a90, 0x1b50, 0x1bb0, 0x1c40, 0x1c50, 0xa620,
   0xa8d0, 0xa900, 0xa9d0, 0xa9f0, 0xaa50, 0xabf0, 0xff10, 0x104a0, 0x10d30, 0x11066,
   0x110f0, 0x11136, 0x111d0, 0x112f0, 0x11450, 0x114d0, 0x11650, 0x116c0, 0x11730, 0x118e0,
   0x11950, 0x11c50, 0x11d50, 0x11da0, 0x16a60, 0x16ac0, 0x16b50, 0x1d7ce, 0x1d7d8, 0x1d7e2,
   0x1d7ec, 0x1d7f6, 0x1e140, 0x1e2f0, 0x1e950, 0x1fbf0]

def digitValue? (c : Char) : Option Nat :=
  (digitZeros.find? fun z => z ≤ c.toNat && c.toNat < z + 10).map (c.toNat - ·)

def isDigit (c : Char) : Bool := (digitValue? c).isSome

/-- Reads digits with single underscores between them; the flag says that a digit came last. -/
def readDigits : Bool → Nat → List Char → Option Nat
  | afterDigit, acc, [] => if afterDigit then some acc else none
  | afterDigit, acc, c :: rest =>
    if c = '_' then
      if afterDigit then readDigits false acc rest else none
    else
      match digitValue? c with
      | some d => readDigits true (acc * 10 + d) rest
      | none => none

def readInt? (s : String) : Option Int :=
  match trim s.toList with
  | '-' :: rest => (readDigits false 0 rest).map fun n => -(n : Int)
  | '+' :: rest => (readDigits false 0 rest).map fun n => (n : Int)
  | cs => (readDigits false 0 cs).map fun n => (n : Int)

end SegmentIndex.Text
