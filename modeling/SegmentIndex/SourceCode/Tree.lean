/-!
# Syntax trees of source code

Expressions are kept in full, since signatures, bases and annotations are printed again. Of the
statements only those that declare something or can document it keep their parts.
-/
namespace SegmentIndex.SourceCode

inductive Sign where
  | plus
  | minus
  | invert
  | negate
  deriving DecidableEq, Repr, Inhabited

/-- How a parameter takes its argument. -/
inductive ParamKind where
  | positionalOnly
  | positional
  | rest
  | keywordOnly
  | keywords
  deriving DecidableEq, Repr, Inhabited

/-- What a comprehension makes. -/
inductive Shape where
  | list
  | set
  | generator
  deriving DecidableEq, Repr, Inhabited

mutual

/-- An expression. A text literal is a sequence of code points; `marked` says
that it was written with the letter `u`. -/
inductive Expr where
  | name (id : String)
  | word (text : String)
  | int (n : Nat)
  | real (x : Float)
  | imaginary (x : Float)
  | text (codes : List Nat) (marked : Bool)
  | bytes (codes : List Nat)
  | format (pieces : List Piece)
  | tuple (items : List Expr)
  | list (items : List Expr)
  | set (items : List Expr)
  | map (items : List Item)
  | gather (shape : Shape) (element : Expr) (clauses : List Clause)
  | gatherMap (key value : Expr) (clauses : List Clause)
  | signed (sign : Sign) (operand : Expr)
  | binary (op : String) (left right : Expr)
  | all (values : List Expr)
  | any (values : List Expr)
  | compare (first : Expr) (rest : List Comparison)
  | choice (test yes no : Expr)
  | lambda (params : List Param) (body : Expr)
  | call (function : Expr) (args : List Expr) (keywords : List Keyword)
  | attribute (value : Expr) (name : String)
  | subscript (value index : Expr)
  | slice (low high step : Option Expr)
  | starred (value : Expr)
  | assigned (target : String) (value : Expr)
  | await (value : Expr)
  | yield (value : Option Expr)
  | yieldFrom (value : Expr)

/-- A piece of a formatted text: a text or a field with its conversion and format. -/
inductive Piece where
  | text (codes : List Nat)
  | field (value : Expr) (conversion : Option Char) (hasFormat : Bool) (format : List Piece)

/-- An item of a map: a pair, or all the items of another map. -/
inductive Item where
  | pair (key value : Expr)
  | spread (value : Expr)

/-- A loop of a comprehension with its conditions. -/
inductive Clause where
  | each (async : Bool) (target source : Expr) (conditions : List Expr)

/-- A comparison with the operand on its right. -/
inductive Comparison where
  | with (op : String) (operand : Expr)

/-- A named argument, or all the items of a map. -/
inductive Keyword where
  | named (name : String) (value : Expr)
  | spread (value : Expr)

inductive Param where
  | of (kind : ParamKind) (name : String) (hint default : Option Expr)

end

instance : Inhabited Expr := ⟨.word "None"⟩

inductive Stmt where
  | function (name : String) (params : List Param) (body : List Stmt) (async : Bool) (line : Nat)
  | declared (name : String) (bases : List Expr) (body : List Stmt) (line : Nat)
  | annotated (target : Option String) (hint : Expr) (line : Nat)
  | expression (value : Expr)
  | other
  deriving Inhabited

end SegmentIndex.SourceCode
