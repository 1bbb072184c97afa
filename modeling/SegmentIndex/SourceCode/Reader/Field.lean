import SegmentIndex.SourceCode.Literal

/-!
# Parts of formatted texts

A formatted text is a sequence of literal parts and fields between braces. A doubled brace stands
for itself outside of fields. A field ends at the first brace, colon, exclamation mark or equals
sign that is not inside brackets, quotes or a comparison; it holds no backslash and no number sign.
-/
namespace SegmentIndex.SourceCode

/-- Where the scan of a literal part stands: outside of escapes, behind a backslash, behind the
letter of a named escape, or in its name. -/
inductive LiteralScan where
  | plain
  | escape
  | named
  | name
  deriving DecidableEq, Repr

/-- Splits off a literal part. The flag of the result says that a doubled brace ended it. -/
def scanLiteral (raw outermost : Bool) :
    LiteralScan → List Char → Option (List Char × List Char × Bool)
  | .named, [] => none
  | _, [] => some ([], [], false)
  | state, c :: rest =>
    let onward (s : LiteralScan) := (scanLiteral raw outermost s rest).map fun (p, r, d) =>
      (c :: p, r, d)
    match state with
    | .name => onward (if c = '\x7d' then .plain else .name)
    | .named => if c = '\x7b' then onward .name else none
    | state =>
      if c = '\x7b' || c = '\x7d' then
        if outermost && rest.head? = some c then some ([c], rest.tail, true)
        else if outermost && c = '\x7d' then none
        else some ([], c :: rest, false)
      else if state = .escape then onward (if c = 'N' then .named else .plain)
      else onward (if c = '\\' && !raw then .escape else .plain)

/-- Where the scan of a field stands: the open quote and whether it is a triple one, the open
brackets, and the number of characters already seen. -/
structure FieldScan where
  quote : Option (Char × Bool) := none
  brackets : List Char := []
  seen : Nat := 0

def closes (opening c : Char) : Bool :=
  (opening = '(' && c = ')') || (opening = '[' && c = ']') || (opening = '\x7b' && c = '\x7d')

def scanField (s : FieldScan) : List Char → Option (List Char × List Char)
  | [] => none
  | c :: rest =>
    let onward (s : FieldScan) := (scanField s rest).map fun (e, r) => (c :: e, r)
    if c = '\\' then none
    else if s.seen > 0 then onward { s with seen := s.seen - 1 }
    else
      match s.quote with
      | some (q, long) =>
        if c ≠ q then onward s
        else if !long then onward { s with quote := none }
        else if rest.take 2 = [q, q] then onward { s with quote := none, seen := 2 }
        else onward s
      | none =>
        if c = '\'' || c = '"' then
          if rest.take 2 = [c, c] then onward { s with quote := some (c, true), seen := 2 }
          else onward { s with quote := some (c, false) }
        else if c = '[' || c = '(' || c = '\x7b' then onward { s with brackets := c :: s.brackets }
        else if c = '#' then none
        else
          match s.brackets with
          | b :: outer =>
            if c = ']' || c = ')' || c = '\x7d' then
              if closes b c then onward { s with brackets := outer } else none
            else onward s
          | [] =>
            if ['!', '=', '<', '>'].contains c && rest.head? = some '=' then
              onward { s with seen := 1 }
            else if ['!', ':', '\x7d', '='].contains c then some ([], c :: rest)
            else if c = ']' || c = ')' then none
            else onward s

def joinTexts : List Piece → List Piece
  | .text a :: rest =>
    match joinTexts rest with
    | .text b :: more => .text (a ++ b) :: more
    | more => .text a :: more
  | p :: rest => p :: joinTexts rest
  | [] => []

def textPiece (codes : List Nat) : List Piece := if codes.isEmpty then [] else [.text codes]

end SegmentIndex.SourceCode
