/-!
# A digest of twenty bytes

The digest works on blocks of sixteen words of thirty-two bits. The message is
followed by a one bit, zeros and its length in bits, so that blocks are full; each
block is mixed into five words in eighty rounds.
-/
namespace SegmentIndex.Digest

def rotate (w : UInt32) (n : UInt32) : UInt32 := (w <<< n) ||| (w >>> (32 - n))

/-- A number in bytes, the highest first. -/
def bytesOf : Nat → Nat → List UInt8
  | 0, _ => []
  | count + 1, n => UInt8.ofNat (n >>> (8 * count)) :: bytesOf count n

def padded (message : List UInt8) : List UInt8 :=
  let zeros := (119 - message.length % 64) % 64
  message ++ 0x80 :: List.replicate zeros 0 ++ bytesOf 8 (8 * message.length)

/-- Bytes as words, the highest byte first. -/
def wordsOf : List UInt8 → List UInt32
  | a :: b :: c :: d :: rest =>
    UInt32.ofNat (((a.toNat * 256 + b.toNat) * 256 + c.toNat) * 256 + d.toNat) :: wordsOf rest
  | _ => []

def blocks {α : Type} : Nat → List α → List (List α)
  | 0, _ => []
  | fuel + 1, ws => if ws.isEmpty then [] else ws.take 16 :: blocks fuel (ws.drop 16)

/-- Adds words to a schedule, whose last word stands first. -/
def extend : Nat → List UInt32 → List UInt32
  | 0, ws => ws
  | count + 1, ws =>
    let w (n : Nat) : UInt32 := ws.getD (n - 1) 0
    extend count (rotate (w 3 ^^^ w 8 ^^^ w 14 ^^^ w 16) 1 :: ws)

def schedule (block : List UInt32) : List UInt32 := (extend 64 block.reverse).reverse

/-- The five words that blocks are mixed into. -/
structure State where
  a : UInt32
  b : UInt32
  c : UInt32
  d : UInt32
  e : UInt32
  deriving DecidableEq, Repr

def State.initial : State := ⟨0x67452301, 0xefcdab89, 0x98badcfe, 0x10325476, 0xc3d2e1f0⟩

/-- What a round mixes and adds, by its number. -/
def State.mix (s : State) (n : Nat) : UInt32 :=
  if n < 20 then ((s.b &&& s.c) ||| (~~~s.b &&& s.d)) + 0x5a827999
  else if n < 40 then (s.b ^^^ s.c ^^^ s.d) + 0x6ed9eba1
  else if n < 60 then ((s.b &&& s.c) ||| (s.b &&& s.d) ||| (s.c &&& s.d)) + 0x8f1bbcdc
  else (s.b ^^^ s.c ^^^ s.d) + 0xca62c1d6

def State.round (s : State) (n : Nat) (w : UInt32) : State :=
  ⟨rotate s.a 5 + s.mix n + s.e + w, s.a, rotate s.b 30, s.c, s.d⟩

def State.add (s t : State) : State := ⟨s.a + t.a, s.b + t.b, s.c + t.c, s.d + t.d, s.e + t.e⟩

def State.absorb (s : State) (block : List UInt32) : State :=
  s.add ((schedule block).zipIdx.foldl (fun t (w, n) => t.round n w) s)

def wordBytes (w : UInt32) : List UInt8 := bytesOf 4 w.toNat

def State.bytes (s : State) : List UInt8 :=
  wordBytes s.a ++ wordBytes s.b ++ wordBytes s.c ++ wordBytes s.d ++ wordBytes s.e

/-- The digest of a message. -/
def sha1 (message : List UInt8) : List UInt8 :=
  let ws := wordsOf (padded message)
  ((blocks ws.length ws).foldl State.absorb State.initial).bytes

end SegmentIndex.Digest
