import SegmentIndex.Error

/-!
# Path specs

A path spec is written as literal text, `*` for what lies within one directory, `**` for what may
cross directories, and captures: a name and a pattern, as in `(?<version>v[0-9]+)`. The base of a
spec is the literal text that it begins with.
-/
namespace SegmentIndex.PathSpec

inductive Token where
  | literal (text : String)
  | glob (recursive : Bool)
  | capture (name pattern : String)
  deriving DecidableEq, Repr, Inhabited

def captureOpen : List Char := ['(', '?', '<']

namespace Token

def render : Token → List Char
  | .literal text => text.toList
  | .glob false => ['*']
  | .glob true => ['*', '*']
  | .capture name pattern => captureOpen ++ name.toList ++ '>' :: (pattern.toList ++ [')'])

def captureName? : Token → Option String
  | .capture name _ => some name
  | _ => none

end Token

def render (tokens : List Token) : List Char := tokens.flatMap Token.render

/-- The literal text that a sequence of tokens begins with. -/
def baseOf : List Token → String
  | .literal text :: rest => text ++ baseOf rest
  | _ => ""

/-- The tokens after the literal text that a sequence begins with. -/
def afterBase : List Token → List Token
  | .literal _ :: rest => afterBase rest
  | tokens => tokens

def captureNames (tokens : List Token) : List String := tokens.filterMap Token.captureName?

@[simp] theorem render_nil : render [] = [] := rfl

@[simp] theorem render_cons (t : Token) (ts : List Token) :
    render (t :: ts) = t.render ++ render ts := rfl

@[simp] theorem baseOf_literal (text : String) (ts : List Token) :
    baseOf (.literal text :: ts) = text ++ baseOf ts := rfl

@[simp] theorem baseOf_glob (r : Bool) (ts : List Token) : baseOf (.glob r :: ts) = "" := rfl

@[simp] theorem baseOf_capture (name pattern : String) (ts : List Token) :
    baseOf (.capture name pattern :: ts) = "" := rfl

end SegmentIndex.PathSpec

namespace SegmentIndex

/-- A path spec bound to a strategy, with the metadata of its source. -/
structure Spec where
  path : String
  segments : List PathSpec.Token
  basePath : String
  strategy : String
  options : Entries
  metadata : Entries
  watch : Bool
  deriving DecidableEq, Repr, Inhabited

def Spec.captureNames (spec : Spec) : List String := PathSpec.captureNames spec.segments

end SegmentIndex
