import SegmentIndex.SourceCode.Token

/-!
# Reading words in order

A reader takes words from the front of what is left and fails where they do not fit. An
alternative starts again at the same place.
-/
namespace SegmentIndex.SourceCode

/-- Takes words from the front of the rest, or fails. -/
abbrev Reader := StateT (List Token) Option

namespace Reader

def peek : Reader (Option Word) := do return (← get).head?.map (·.word)

def peekSecond : Reader (Option Word) := do return (← get)[1]?.map (·.word)

def line : Reader Nat := do return ((← get).head?.map (·.line)).getD 1

def advance : Reader Unit := modify List.tail

def at_ (w : Word) : Reader Bool := do return (← peek) = some w

/-- Passes a word if it is next, and says whether it was. -/
def take (w : Word) : Reader Bool := do
  if ← at_ w then
    advance
    return true
  else return false

def expect (w : Word) : Reader Unit := do
  if !(← take w) then failure

def atOp (s : String) : Reader Bool := at_ (.op s)

/-- Passes an operator if it is next, and says whether it was. -/
def takeOp (s : String) : Reader Bool := take (.op s)

def expectOp (s : String) : Reader Unit := expect (.op s)

def atName (s : String) : Reader Bool := at_ (.name s)

/-- Passes a keyword if it is next, and says whether it was. -/
def takeName (s : String) : Reader Bool := take (.name s)

def expectName (s : String) : Reader Unit := expect (.name s)

def identifier : Reader String := do
  match ← peek with
  | some (.name s) =>
    if keywords.contains s then failure
    else
      advance
      return s
  | _ => failure

/-- Takes the value of an outcome, or fails. -/
def require {α : Type} : Option α → Reader α
  | some a => pure a
  | none => failure

/-- Whether a name that is no keyword is next, with an operator after it. -/
def atNameBefore (s : String) : Reader Bool := do
  match ← peek, ← peekSecond with
  | some (.name n), some (.op o) => return !keywords.contains n && o = s
  | _, _ => return false

/-- More items behind commas; says whether a comma ends them. -/
def moreItems {α : Type} (item : Reader α) : Nat → Reader (List α × Bool)
  | 0 => failure
  | bound + 1 => do
    if ← takeOp "," then
      match ← optional item with
      | some x =>
        let (xs, closed) ← moreItems item bound
        return (x :: xs, closed)
      | none => return ([], true)
    else return ([], false)

/-- One item or more with commas between them; says whether a comma ends them. -/
def items {α : Type} (item : Reader α) : Reader (List α × Bool) := do
  let first ← item
  let (more, closed) ← moreItems item ((← get).length + 1)
  return (first :: more, closed)

end Reader

end SegmentIndex.SourceCode
