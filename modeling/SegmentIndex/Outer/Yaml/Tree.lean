import SegmentIndex.Table
import SegmentIndex.Outer.Yaml.Token

/-!
# The tree of a document

The tokens of a document spell a tree of scalars, lists and maps. A node can have a tag and an
anchor, and an alias stands for the node at an anchor that came before it.
-/
namespace SegmentIndex.Outer.Yaml

/-- A node as it is written. A scalar is open if its text alone says what it means. -/
inductive Written where
  | alias (name : String)
  | scalar (anchor tag : Option String) (isOpen : Bool) (text : String)
  | list (anchor tag : Option String) (items : List Written)
  | map (anchor tag : Option String) (entries : List (Written × Written))
  deriving Inhabited, Repr

def Written.missing : Written := .scalar none none true ""

namespace Written

def standardHandles : Table String := [("!", "!"), ("!!", "tag:yaml.org,2002:")]

/-- A tag in full; `handles` are those that directives gave. -/
def fullTag? (handles : Table String) (t : TagText) : Option String :=
  match t.handle with
  | none => some t.suffix
  | some h => (Table.get? h (handles ++ standardHandles)).map (· ++ t.suffix)

/-- Reads a tag and an anchor, in either order. -/
def readMarks (handles : Table String) :
    List Token → Option (Option String × Option String × List Token)
  | .anchor a :: .tag t :: rest => (fullTag? handles t).map fun t => (some a, some t, rest)
  | .tag t :: .anchor a :: rest => (fullTag? handles t).map fun t => (some a, some t, rest)
  | .anchor a :: rest => some (some a, none, rest)
  | .tag t :: rest => (fullTag? handles t).map fun t => (none, some t, rest)
  | rest => some (none, none, rest)

def properTag (tag : Option String) : Option String := tag.filter (· ≠ "!")

def nextIn (ts : List Token) (kinds : List Token) : Bool := ts.head?.any (kinds.contains ·)

inductive Place where
  | flow
  | block
  | afterKey
  deriving DecidableEq, Repr

mutual

def readNode (handles : Table String) : Nat → Place → List Token → Option (Written × List Token)
  | 0, _, _ => none
  | fuel + 1, place, ts =>
    match ts with
    | .alias name :: rest => some (.alias name, rest)
    | _ =>
      (readMarks handles ts).bind fun (anchor, tag, ts) =>
        let proper := properTag tag
        match ts with
        | .scalar plain s :: rest =>
          some (.scalar anchor proper ((plain && tag.isNone) || tag = some "!") s, rest)
        | .flowListStart :: rest =>
          (readFlowItems handles fuel true rest).map fun (items, rest) =>
            (.list anchor proper items, rest)
        | .flowMapStart :: rest =>
          (readFlowEntries handles fuel true rest).map fun (es, rest) =>
            (.map anchor proper es, rest)
        | .entry :: _ =>
          if place = .afterKey then
            (readLooseItems handles fuel ts).map fun (items, rest) =>
              (.list anchor proper items, rest)
          else emptyNode anchor tag ts
        | .listStart :: rest =>
          if place = .flow then emptyNode anchor tag ts
          else (readItems handles fuel rest).map fun (items, rest) =>
            (.list anchor proper items, rest)
        | .mapStart :: rest =>
          if place = .flow then emptyNode anchor tag ts
          else (readEntries handles fuel rest).map fun (es, rest) => (.map anchor proper es, rest)
        | _ => emptyNode anchor tag ts

def emptyNode (anchor tag : Option String) (ts : List Token) : Option (Written × List Token) :=
  if anchor.isSome || tag.isSome then
    some (.scalar anchor (properTag tag) (properTag tag).isNone "", ts)
  else none

/-- Reads a node unless one of some tokens comes, which leave it out. -/
def readUnless (handles : Table String) :
    Nat → Place → List Token → List Token → Option (Written × List Token)
  | 0, _, _, _ => none
  | fuel + 1, place, ends, ts =>
    if nextIn ts ends then some (missing, ts) else readNode handles fuel place ts

def readItems (handles : Table String) : Nat → List Token → Option (List Written × List Token)
  | 0, _ => none
  | fuel + 1, ts =>
    match ts with
    | .entry :: rest =>
      (readUnless handles fuel .block [.entry, .blockEnd] rest).bind fun (item, rest) =>
        (readItems handles fuel rest).map fun (items, rest) => (item :: items, rest)
    | .blockEnd :: rest => some ([], rest)
    | _ => none

def readLooseItems (handles : Table String) : Nat → List Token → Option (List Written × List Token)
  | 0, _ => none
  | fuel + 1, ts =>
    match ts with
    | .entry :: rest =>
      (readUnless handles fuel .block [.entry, .key, .value, .blockEnd] rest).bind fun (item,
        rest) =>
        (readLooseItems handles fuel rest).map fun (items, rest) => (item :: items, rest)
    | _ => some ([], ts)

/-- Reads the value of an entry, which may be left out. -/
def readValue (handles : Table String) :
    Nat → Place → List Token → List Token → Option (Written × List Token)
  | 0, _, _, _ => none
  | fuel + 1, place, ends, ts =>
    match ts with
    | .value :: rest => readUnless handles fuel place ends rest
    | _ => some (missing, ts)

def readEntries (handles : Table String) :
    Nat → List Token → Option (List (Written × Written) × List Token)
  | 0, _ => none
  | fuel + 1, ts =>
    let ends : List Token := [.key, .value, .blockEnd]
    match ts with
    | .key :: rest =>
      (readUnless handles fuel .afterKey ends rest).bind fun (k, rest) =>
        (readValue handles fuel .afterKey ends rest).bind fun (v, rest) =>
          (readEntries handles fuel rest).map fun (es, rest) => ((k, v) :: es, rest)
    | .blockEnd :: rest => some ([], rest)
    | _ => none

/-- Reads the items of a list in brackets; a pair among them is a map of one entry. -/
def readFlowItems (handles : Table String) :
    Nat → Bool → List Token → Option (List Written × List Token)
  | 0, _, _ => none
  | fuel + 1, first, ts =>
    match ts with
    | .flowListEnd :: rest => some ([], rest)
    | _ =>
      let after := if first then some ts else
        match ts with
        | .flowEntry :: rest => some rest
        | _ => none
      after.bind fun ts =>
        match ts with
        | .flowListEnd :: rest => some ([], rest)
        | .key :: rest =>
          let ends : List Token := [.flowEntry, .flowListEnd]
          (readUnless handles fuel .flow (.value :: ends) rest).bind fun (k, rest) =>
            (readValue handles fuel .flow ends rest).bind fun (v, rest) =>
              (readFlowItems handles fuel false rest).map fun (items, rest) =>
                (.map none none [(k, v)] :: items, rest)
        | _ =>
          (readNode handles fuel .flow ts).bind fun (item, rest) =>
            (readFlowItems handles fuel false rest).map fun (items, rest) => (item :: items, rest)

def readFlowEntries (handles : Table String) :
    Nat → Bool → List Token → Option (List (Written × Written) × List Token)
  | 0, _, _ => none
  | fuel + 1, first, ts =>
    let ends : List Token := [.flowEntry, .flowMapEnd]
    match ts with
    | .flowMapEnd :: rest => some ([], rest)
    | _ =>
      let after := if first then some ts else
        match ts with
        | .flowEntry :: rest => some rest
        | _ => none
      after.bind fun ts =>
        match ts with
        | .flowMapEnd :: rest => some ([], rest)
        | .key :: rest =>
          (readUnless handles fuel .flow (.value :: ends) rest).bind fun (k, rest) =>
            (readValue handles fuel .flow ends rest).bind fun (v, rest) =>
              (readFlowEntries handles fuel false rest).map fun (es, rest) => ((k, v) :: es, rest)
        | _ =>
          (readNode handles fuel .flow ts).bind fun (k, rest) =>
            (readFlowEntries handles fuel false rest).map fun (es, rest) =>
              ((k, missing) :: es, rest)

end

/-- Reads directives: the version must be one that is known, and nothing may be given twice. -/
def readDirectives : Bool → Table String → List Token → Option (Table String × List Token)
  | versioned, handles, .version major :: rest =>
    if versioned || major ≠ 1 then none else readDirectives true handles rest
  | versioned, handles, .tagHandle h lead :: rest =>
    if (Table.get? h handles).isSome then none
    else readDirectives versioned (handles ++ [(h, lead)]) rest
  | versioned, handles, .otherDirective :: rest => readDirectives versioned handles rest
  | _, handles, ts => some (handles, ts)

def betweenDocuments : Token → Bool
  | .version _ | .tagHandle .. | .otherDirective | .documentStart | .documentEnd | .documentsEnd =>
    true
  | _ => false

def dropEnds (ts : List Token) : List Token := ts.dropWhile (· = .documentEnd)

def readAnnounced? (fuel : Nat) (ts : List Token) : Option (Option Written × List Token) :=
  match dropEnds ts with
  | [.documentsEnd] => some (none, [.documentsEnd])
  | ts =>
    (readDirectives false [] ts).bind fun (handles, ts) =>
      match ts with
      | .documentStart :: rest =>
        if rest.head?.any betweenDocuments then some (some missing, rest)
        else (readNode handles fuel .block rest).map fun (n, rest) => (some n, rest)
      | _ => none

def readFirst? (fuel : Nat) (ts : List Token) : Option (Option Written × List Token) :=
  match ts with
  | [] => none
  | t :: _ =>
    if betweenDocuments t && t ≠ .documentEnd then readAnnounced? fuel ts
    else (readNode [] fuel .block ts).map fun (n, rest) => (some n, rest)

/-- The only document of a text; nothing if there is none. -/
def ofTokens? (ts : List Token) : Option (Option Written) :=
  match readFirst? (4 * ts.length + 8) ts with
  | some (n, rest) => if dropEnds rest = [.documentsEnd] then some n else none
  | none => none

end Written

end SegmentIndex.Outer.Yaml
