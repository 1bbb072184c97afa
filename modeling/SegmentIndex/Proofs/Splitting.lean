import SegmentIndex.Proofs.Assembly

/-!
# Matches as splits

What the tokens of a spec say of a path: that it splits into consecutive pieces, one for each token,
where the piece of a literal is its text, that of a star holds no slash, that of two stars no line
feed, and that of a capture is a word of its pattern. For captures whose patterns are regular,
without named groups and without modes for the whole pattern, a path matches exactly if it splits
so, and what the captures take are the pieces of one such split.
-/
namespace SegmentIndex

namespace Pattern

/-- Whether a pattern is built from characters and classes by unnamed groups,
choices and repetitions that can be undone. -/
def IsRegular (cs : List Char) : Prop :=
  ∃ node s, readBranches (fuelFor cs) {} 0 true {} cs = .ok (node, s, []) ∧ node.isRegular = true ∧
    s.names = [] ∧
    s.flags = {}

theorem IsRegular.selfcontained {cs : List Char} (h : IsRegular cs) : Selfcontained cs := by
  obtain ⟨node, s, hread, hregular, -, hflags⟩ := h
  exact selfcontained_of_isRegular hread hregular hflags

/-- A regular pattern that compiles is read alone as a regular node without named groups. -/
theorem IsRegular.readAlone {cs : List Char} (h : IsRegular cs) {p : Program}
    (hp : compile cs = .ok p) :
    ∃ s, ReadAlone cs p.node s ∧ s.names = [] ∧ p.names = [] ∧ p.node.isRegular = true := by
  obtain ⟨s, halone, hsame⟩ := h.selfcontained.readAlone hp
  obtain ⟨node, s', hread, hregular, hnames, -⟩ := h
  have hboth : (node, s', []) = (p.node, s, []) :=
    Except.ok.inj (hread.symm.trans halone.reads.read)
  simp only [Prod.mk.injEq, and_true] at hboth
  obtain ⟨rfl, rfl⟩ := hboth
  exact ⟨s', halone, hnames, hsame.symm.trans hnames, hregular⟩

/-! ## The languages of literals and stars -/

/-- The words of one character that passes a test. -/
def characters (test : Char → Prop) : Language Char := {w | ∃ c, w = [c] ∧ test c}

theorem mem_characters_pow {test : Char → Prop} {w : List Char} :
    (∃ n : Nat, w ∈ characters test ^ n) ↔ ∀ c ∈ w, test c := by
  constructor
  · rintro ⟨n, hw⟩
    obtain ⟨S, rfl, -, hS⟩ := Language.mem_pow.mp hw
    intro c hc
    obtain ⟨v, hv, hcv⟩ := List.mem_flatten.mp hc
    obtain ⟨d, rfl, hd⟩ := hS v hv
    rwa [List.mem_singleton.mp hcv]
  · intro hw
    refine ⟨w.length, Language.mem_pow.mpr ⟨w.map ([·]), ?_, by simp, ?_⟩⟩
    · simp [← List.flatMap_def]
    · intro v hv
      obtain ⟨c, hc, rfl⟩ := List.mem_map.mp hv
      exact ⟨c, rfl, hw c hc⟩

theorem mem_language_star {greed : Greed} {body : Node} {test : Char → Prop}
    (h : body.language = characters test)
    {w : List Char} : w ∈ (Node.rep greed 0 none body).language ↔ ∀ c ∈ w, test c := by
  rw [← mem_characters_pow, ← h]
  change (∃ n, 0 ≤ n ∧ (∀ m ∈ (none : Option Nat), n ≤ m) ∧ w ∈ body.language ^ n) ↔ _
  simp

theorem classTest_one (negated : Bool) (c d : Char) :
    classTest default negated [.one d.toNat] c = (decide (c = d) != negated) := by
  have hfold : (default : Alphabet).fold c.toNat = c.toNat := rfl
  have hspell : (default : Alphabet).spellings c.toNat = [c.toNat] := rfl
  simp only [classTest, List.any_cons, List.any_nil, Bool.or_false, Item.test, hfold, hspell]
  congr 1
  by_cases h : c = d
  · simp [h]
  · have hne : d.toNat ≠ c.toNat := fun hcode => h (Char.toNat_inj.mp hcode).symm
    simp [h, hne]

theorem language_char (c : Char) : (Node.char c).language = characters (· = c) := by
  change {w | ∃ d, w = [d] ∧ classTest default false [.one c.toNat] d = true} = _
  simp [classTest_one, characters]

theorem isRegular_text (cs : List Char) : (Node.text cs).isRegular = true := by
  induction cs with
  | nil => rfl
  | cons c rest ih => exact ih

theorem groups_text (cs : List Char) : (Node.text cs).groups = [] := by
  induction cs with
  | nil => rfl
  | cons c rest ih => exact ih

theorem mem_language_text {cs w : List Char} : w ∈ (Node.text cs).language ↔ w = cs := by
  induction cs generalizing w with
  | nil => exact Language.mem_one w
  | cons c rest ih =>
    change w ∈ (Node.char c).language * (Node.text rest).language ↔ _
    rw [Language.mem_mul, language_char]
    constructor
    · rintro ⟨v, ⟨d, rfl, rfl⟩, u, hu, rfl⟩
      rw [ih.mp hu]
      rfl
    · rintro rfl
      exact ⟨[c], ⟨c, rfl, rfl⟩, rest, ih.mpr rfl, rfl⟩

end Pattern

namespace PathSpec

open Pattern

theorem mem_language_starNode {w : List Char} : w ∈ starNode.language ↔ '/' ∉ w := by
  have hbody : (Node.chars default true [.one '/'.toNat]).language = characters (· ≠ '/') := by
    change {w | ∃ d, w = [d] ∧ classTest default true [.one '/'.toNat] d = true} = _
    simp only [classTest_one]
    simp [characters]
  rw [starNode, mem_language_star hbody]
  exact ⟨fun h hw => h _ hw rfl, fun h c hc hslash => h (hslash ▸ hc)⟩

theorem mem_language_doubleStarNode {w : List Char} : w ∈ doubleStarNode.language ↔ '\n' ∉ w := by
  have hbody : (Node.any false).language = characters (· ≠ '\n') := by
    change {w | ∃ d, w = [d] ∧ (false = true ∨ d ≠ '\n')} = _
    simp [characters]
  rw [doubleStarNode, mem_language_star hbody]
  exact ⟨fun h hw => h _ hw rfl, fun h c hc hfeed => h (hfeed ▸ hc)⟩

/-! ## What a token says of a piece -/

def Token.language : Token → Language Char
  | .literal text => {w | w = text.toList}
  | .glob true => {w | '\n' ∉ w}
  | .glob false => {w | '/' ∉ w}
  | .capture _ pattern => {w | ∃ p, Pattern.compile pattern.toList = .ok p ∧ w ∈ p.node.language}

theorem mem_language_capture {name pattern : String} {p : Program}
    (hp : Pattern.compile pattern.toList = .ok p)
    {w : List Char} : w ∈ (Token.capture name pattern).language ↔ w ∈ p.node.language := by
  constructor
  · rintro ⟨p', hp', hw⟩
    obtain rfl : p' = p := Except.ok.inj (hp'.symm.trans hp)
    exact hw
  · exact fun hw => ⟨p, hp, hw⟩

/-- Whether a text splits into consecutive pieces, one for each token. -/
structure Splits (tokens : List Token) (cs : List Char) (pieces : List (List Char)) : Prop where
  flatten : pieces.flatten = cs
  pieces : List.Forall₂ (fun token piece => piece ∈ token.language) tokens pieces

/-- The captures among some tokens with their pieces. -/
def captured (tokens : List Token) (pieces : List (List Char)) : List (String × String) :=
  (tokens.zip pieces).filterMap fun (token, piece) =>
    token.captureName?.map (·, String.ofList piece)

/-- Whether the pattern of a token, if it is a capture, compiles and is regular. -/
def Token.IsRegular : Token → Prop
  | .capture _ pattern =>
    (∃ p, Pattern.compile pattern.toList = .ok p) ∧ Pattern.IsRegular pattern.toList
  | _ => True

/-- The group that a token becomes, under its name. -/
def Token.groupAt (i : Nat) : Token → List (String × Nat)
  | .capture name _ => [(name, i)]
  | _ => []

/-- Whether a node takes the pieces of a token, between two
scopes whose groups are those of the token. -/
structure Token.Becomes (token : Token) (s : Scope) (node : Node) (s' : Scope) : Prop where
  settled : s'.Settled
  keys : s'.keys.Nodup
  groups : s.groups ≤ s'.groups
  names : s'.names = s.names ++ token.groupAt s.groups
  sound : ∀ {k : Next} {p r : Pattern.Point}, node.run k p = some r → ∃ w ∈ token.language, ∃ q,
    p.Takes w q ∧
    (∀ i < s.groups, q.mark? i = p.mark? i) ∧ (∀ x ∈ token.groupAt s.groups, q.mark? x.2 = some w) ∧
      k q = some r
  complete : ∀ {k : Next} {p : Pattern.Point} {w rest : List Char}, w ∈ token.language →
    p.after = w ++ rest →
    (∀ q, p.Takes w q → (k q).isSome = true) → (node.run k p).isSome = true

theorem Token.Becomes.of_walks {token : Token} {s : Scope} {node : Node} (hs : s.Settled)
    (hkeys : s.keys.Nodup) (hgroup : ∀ i, token.groupAt i = []) (hregular : node.isRegular = true)
    (hgroups : node.groups = [])
    (hlanguage : ∀ w, w ∈ node.language ↔ w ∈ token.language) : token.Becomes s node s where
  settled := hs
  keys := hkeys
  groups := le_rfl
  names := by simp [hgroup]
  sound := by
    intro k p r hr
    obtain ⟨w, hw, q, ht, hkeep, hk⟩ := (Node.walks hregular).sound hr
    exact ⟨w, (hlanguage w).mp hw, q, ht, fun i _ => hkeep i (by simp [hgroups]), by
      simp [hgroup], hk⟩
  complete := by
    intro k p w rest hw ha hk
    exact (Node.walks hregular).complete ((hlanguage w).mpr hw) ha hk

theorem becomes_of_tokenNode {token : Token} {s s' : Scope} {node : Node} (hs : s.Settled)
    (hkeys : s.keys.Nodup) (h : token.IsRegular) (hnode : tokenNode s token = .ok (node, s')) :
    token.Becomes s node s' := by
  cases token with
  | literal text =>
    cases hnode
    exact .of_walks hs hkeys (fun _ => rfl) (isRegular_text _) (groups_text _) fun w =>
      mem_language_text
  | glob recursive =>
    cases recursive with
    | true =>
      cases hnode
      exact .of_walks hs hkeys (fun _ => rfl) rfl rfl fun w => mem_language_doubleStarNode
    | false =>
      cases hnode
      exact .of_walks hs hkeys (fun _ => rfl) rfl rfl fun w => mem_language_starNode
  | capture name pattern =>
    obtain ⟨⟨program, hp⟩, hregular⟩ := h
    obtain ⟨s₁, halone, hnames, -, hregular⟩ := hregular.readAlone hp
    rcases readBody_cases hs hkeys halone name with ⟨s₂, hread, hs₂, hkeys₂, hgroups, hnames₂⟩
      | ⟨-, e, hread⟩
    · obtain ⟨rfl, rfl⟩ := Prod.mk.inj (Except.ok.inj (hread.symm.trans hnode))
      have hwalks := Node.walks (n := program.node.shift s.groups) (by simpa using hregular)
      have hlanguage : ∀ w, w ∈ (program.node.shift s.groups).language ↔
          w ∈ (Token.capture name pattern).language := by
        intro w
        rw [Node.language_shift, mem_language_capture hp]
      exact
        { settled := hs₂
          keys := hkeys₂
          groups := by omega
          names := by simp [hnames₂, hnames, Token.groupAt]
          sound := by
            intro k p r hr
            obtain ⟨w, hw, q, ht, hkeep, hmark, hk⟩ := hwalks.group_sound hr
            refine ⟨w, (hlanguage w).mp hw, q, ht, fun i hi => hkeep i ?_, by
              simp [Token.groupAt, hmark], hk⟩
            simp only [Node.groups_shift, List.mem_cons, List.mem_map, not_or, not_exists, not_and]
            exact ⟨by omega, fun j _ hj => by omega⟩
          complete := by
            intro k p w rest hw ha hk
            exact (hwalks.group s.groups).complete ((hlanguage w).mpr hw) ha hk }
    · rw [tokenNode, hread] at hnode
      cases hnode

/-! ## What the tokens say of a path -/

theorem captured_cons (token : Token) (tokens : List Token) (piece : List Char)
    (pieces : List (List Char)) :
    captured (token :: tokens) (piece :: pieces) =
      (token.groupAt 0).map (fun x => (x.1, String.ofList piece)) ++ captured tokens pieces := by
  cases token <;> rfl

/-- What named groups recorded at a point. -/
def recorded (names : List (String × Nat)) (q : Pattern.Point) : List (String × String) :=
  names.filterMap fun (name, i) => (q.mark? i).map fun cs => (name, String.ofList cs)

theorem exists_of_tokenNodes {token : Token} {tokens : List Token} {s s' : Scope}
    {nodes : List Node} (h : tokenNodes s (token :: tokens) = .ok (nodes, s')) :
    ∃ node s₁ nodes', tokenNode s token = .ok (node, s₁) ∧
      tokenNodes s₁ tokens = .ok (nodes', s') ∧ nodes = node :: nodes' := by
  rw [tokenNodes] at h
  split at h
  · cases h
  · rename_i node s₁ hnode
    split at h
    · cases h
    · rename_i nodes' s₂ hrest
      cases h
      exact ⟨node, s₁, nodes', hnode, hrest, rfl⟩

/-- A point that kept what a token's group recorded has its piece for the capture. -/
theorem Token.Becomes.recorded_eq {token : Token} {s s' : Scope} {node : Node}
    (hb : token.Becomes s node s') {q q' : Pattern.Point} {w : List Char}
    (hmark : ∀ x ∈ token.groupAt s.groups, q.mark? x.2 = some w)
    (hkeep : ∀ i < s'.groups, q'.mark? i = q.mark? i) :
    recorded (token.groupAt s.groups) q' = (token.groupAt 0).map fun x =>
      (x.1, String.ofList w) := by
  cases token with
  | literal | glob => rfl
  | capture name pattern =>
    have hmem : (name, s.groups) ∈ s'.names := by
      rw [hb.names]
      exact List.mem_append_right _ (List.mem_singleton_self _)
    have hmark' : q'.mark? s.groups = some w :=
      (hkeep _ (hb.settled.bounded.names _ hmem)).trans
        (hmark (name, s.groups) (List.mem_singleton_self _))
    simp [recorded, Token.groupAt, hmark']

/-- A run of the nodes of some tokens goes through pieces that the tokens
take, and records those of the captures. -/
theorem exists_pieces {tokens : List Token} {s s' : Scope} {nodes : List Node} (hs : s.Settled)
    (hkeys : s.keys.Nodup) (h : ∀ token ∈ tokens, token.IsRegular)
    (hnodes : tokenNodes s tokens = .ok (nodes, s')) {k : Next} {p r : Pattern.Point}
    (hr : (Node.ofList nodes).run k p = some r) :
    ∃ pieces, List.Forall₂ (fun token piece => piece ∈ token.language) tokens pieces ∧
      ∃ q names, p.Takes pieces.flatten q ∧ (∀ i < s.groups, q.mark? i = p.mark? i) ∧
        s'.names = s.names ++ names ∧ recorded names q = captured tokens pieces ∧ k q = some r := by
  induction tokens generalizing s nodes p with
  | nil =>
    cases hnodes
    exact ⟨[], .nil, p, [], .refl p, fun _ _ => rfl, by simp, rfl, hr⟩
  | cons token rest ih =>
    rw [List.forall_mem_cons] at h
    obtain ⟨node, s₁, nodes', hnode, hrest, rfl⟩ := exists_of_tokenNodes hnodes
    have hb := becomes_of_tokenNode hs hkeys h.1 hnode
    obtain ⟨w, hw, q, ht, hkeep, hmark, hq⟩ := hb.sound hr
    obtain ⟨pieces, hpieces, q', names, ht', hkeep', hnames, hrecorded, hk⟩ :=
      ih hb.settled hb.keys h.2 hrest hq
    refine ⟨w :: pieces, .cons hw hpieces, q', token.groupAt s.groups ++ names, ht.trans ht', ?_,
      ?_, ?_, hk⟩
    · intro i hi
      rw [hkeep' i (hi.trans_le hb.groups), hkeep i hi]
    · rw [hnames, hb.names, List.append_assoc]
    · rw [recorded, List.filterMap_append, captured_cons]
      exact congrArg₂ (· ++ ·) (hb.recorded_eq hmark hkeep') hrecorded

/-- A text that splits into pieces which some tokens take is run through by their nodes. -/
theorem run_of_pieces {tokens : List Token} {s s' : Scope} {nodes : List Node} (hs : s.Settled)
    (hkeys : s.keys.Nodup) (h : ∀ token ∈ tokens, token.IsRegular)
    (hnodes : tokenNodes s tokens = .ok (nodes, s')) {pieces : List (List Char)}
    (hpieces : List.Forall₂ (fun token piece => piece ∈ token.language) tokens pieces) {k : Next}
    {p : Pattern.Point} {rest : List Char} (ha : p.after = pieces.flatten ++ rest)
    (hk : ∀ q, p.Takes pieces.flatten q → (k q).isSome = true) :
    ((Node.ofList nodes).run k p).isSome = true := by
  induction hpieces generalizing s nodes p with
  | nil =>
    cases hnodes
    exact hk p (.refl p)
  | @cons token piece tokens pieces hpiece _ ih =>
    rw [List.forall_mem_cons] at h
    obtain ⟨node, s₁, nodes', hnode, hrest, rfl⟩ := exists_of_tokenNodes hnodes
    have hb := becomes_of_tokenNode hs hkeys h.1 hnode
    rw [List.flatten_cons, List.append_assoc] at ha
    refine hb.complete hpiece ha fun q hq => ?_
    have hafter : q.after = pieces.flatten ++ rest :=
      List.append_cancel_left (hq.after.symm.trans ha)
    exact ih hb.settled hb.keys h.2 hrest hafter fun q' hq' => hk q' (hq.trans hq')

/-! ## Whole texts -/

variable {tokens : List Token} {program : Program} {cs : List Char}

theorem exists_of_program (h : PathSpec.program tokens = .ok program) : ∃ nodes s,
    tokenNodes {} tokens = .ok (nodes, s) ∧ program = ⟨Node.ofList nodes, s.names⟩ := by
  unfold PathSpec.program at h
  split at h
  · cases h
  · rename_i nodes s hnodes
    obtain ⟨_, -, rfl⟩ := exists_of_map_eq_ok h
    exact ⟨nodes, s, hnodes, rfl⟩

/-- A whole text that is matched splits into pieces of the
tokens, of which the captures are recorded. -/
theorem splits_of_fullMatch (h : ∀ token ∈ tokens, token.IsRegular)
    (hp : PathSpec.program tokens = .ok program)
    {marks : List (Nat × List Char)} (hm : program.fullMatch cs = some marks) :
    ∃ pieces, Splits tokens cs pieces ∧ program.captures marks = captured tokens pieces := by
  obtain ⟨nodes, s, hnodes, rfl⟩ := exists_of_program hp
  obtain ⟨r, hr, rfl⟩ := Option.map_eq_some_iff.mp hm
  obtain ⟨pieces, hpieces, q, names, ht, -, hnames, hrecorded, hk⟩ :=
    exists_pieces Scope.settled_empty List.nodup_nil h hnodes hr
  split_ifs at hk with hend
  obtain rfl := Option.some.inj hk
  refine ⟨pieces, ⟨?_, hpieces⟩, ?_⟩
  · have hafter := ht.after
    rw [List.isEmpty_iff.mp hend, List.append_nil] at hafter
    exact hafter.symm
  · rw [← hrecorded]
    change recorded s.names q = _
    rw [hnames]
    rfl

theorem fullMatch_of_splits (h : ∀ token ∈ tokens, token.IsRegular)
    (hp : PathSpec.program tokens = .ok program)
    {pieces : List (List Char)} (hs : Splits tokens cs pieces) :
    ∃ marks, program.fullMatch cs = some marks := by
  obtain ⟨nodes, s, hnodes, rfl⟩ := exists_of_program hp
  have hstart : (Pattern.Point.start cs).after = pieces.flatten ++ [] := by
    rw [List.append_nil, hs.flatten]
    rfl
  have hend : ∀ q, (Pattern.Point.start cs).Takes pieces.flatten q →
      (if q.after.isEmpty then some q else none).isSome = true := by
    intro q hq
    have hafter := hq.after
    rw [hstart, List.append_cancel_left_eq] at hafter
    simp [← hafter]
  have hrun := run_of_pieces (k := fun p => if p.after.isEmpty then
    some p else none) Scope.settled_empty
    List.nodup_nil h hnodes hs.pieces hstart hend
  obtain ⟨r, hr⟩ := Option.isSome_iff_exists.mp hrun
  exact ⟨r.marks, Option.map_eq_some_iff.mpr ⟨r, hr, rfl⟩⟩

theorem captured_keys {pieces : List (List Char)}
    (h : List.Forall₂ (fun token piece => piece ∈ Token.language token) tokens pieces) :
    (captured tokens pieces).map (·.1) = captureNames tokens := by
  induction h with
  | nil => rfl
  | @cons token piece tokens pieces _ _ ih =>
    rw [captured_cons, captureNames_cons, List.map_append, ih]
    cases token <;> rfl

theorem captureNames_afterBase (tokens : List Token) :
    captureNames (afterBase tokens) = captureNames tokens := by
  induction tokens with
  | nil => rfl
  | cons token rest ih =>
    cases token with
    | literal text => exact ih
    | glob recursive => rfl
    | capture name pattern => rfl

theorem isRegular_afterBase (tokens : List Token) :
    (∀ token ∈ afterBase tokens, token.IsRegular) ↔ ∀ token ∈ tokens, token.IsRegular := by
  induction tokens with
  | nil => rfl
  | cons token rest ih =>
    cases token with
    | literal text => exact ih.trans (by simp [Token.IsRegular])
    | glob recursive => rfl
    | capture name pattern => rfl

theorem groupNames_of_isRegular (h : ∀ token ∈ tokens, token.IsRegular) :
    groupNames tokens = captureNames tokens := by
  induction tokens with
  | nil => rfl
  | cons token rest ih =>
    rw [List.forall_mem_cons] at h
    rw [groupNames_cons, captureNames_cons, ih h.2]
    cases token with
    | literal | glob => rfl
    | capture name pattern =>
      obtain ⟨⟨program, hp⟩, hregular⟩ := h.1
      obtain ⟨-, -, -, hnone, -⟩ := hregular.readAlone hp
      simp [Token.groupNames, hp, hnone, Token.captureName?]

end PathSpec

open Pattern (lookup_map lookup_eq_none)

namespace Entries

/-- Values that are set under keys of which no two are the same override those that were there. -/
theorem get?_putAll {entries more : Entries} (h : (more.map (·.1)).Nodup) (key : String) :
    get? (putAll entries more) key = (get? more key).or (get? entries key) := by
  induction more generalizing entries with
  | nil => rfl
  | cons e rest ih =>
    obtain ⟨k, v⟩ := e
    rw [List.map_cons, List.nodup_cons] at h
    have hput : get? (putAll (put k v entries) rest) key =
        (get? rest key).or (get? (put k v entries) key) := ih h.2
    rw [get?_cons]
    refine hput.trans ?_
    rw [get?_put]
    by_cases hk : key = k
    · subst hk
      have hnone : get? rest key = none := lookup_eq_none.mpr h.1
      simp [hnone]
    · simp [hk]

end Entries

namespace Spec

variable {spec : Spec} {t : FileTree}

theorem get?_withCaptures {metadata : Entries} {captures : List (String × String)}
    (h : (captures.map (·.1)).Nodup) (key : String) :
    Entries.get? (withCaptures metadata captures) key =
      ((captures.lookup key).map .str).or (Entries.get? metadata key) := by
  rw [withCaptures, Entries.get?_putAll, Entries.get?, lookup_map]
  simpa [Function.comp_def] using h

/-- The captures of a spec and those of its canonical form have the same names. -/
theorem captureNames_eq {tokens : List PathSpec.Token}
    (ht : PathSpec.canonicalTokens t spec.segments = .ok tokens) :
    PathSpec.captureNames tokens = spec.captureNames := by
  rw [← PathSpec.captureNames_afterBase, (PathSpec.canonicalTokens_eq_ok ht).2,
    PathSpec.captureNames_afterBase]
  rfl

theorem matchPath_eq {tokens : List PathSpec.Token} {p : Pattern.Program} {path c : String}
    (ht : PathSpec.canonicalTokens t spec.segments = .ok tokens)
    (hp : PathSpec.program tokens = .ok p)
    (hc : t.canonical path = .ok c) : spec.matchPath t path = .ok (spec.matchCanonical p c) := by
  simp only [matchPath, program, ht, hp, hc]
  rfl

theorem exists_of_matchPath {path : String} {result : Option MatchedFile}
    (h : spec.matchPath t path = .ok result) :
    ∃ tokens p c, PathSpec.canonicalTokens t spec.segments = .ok tokens ∧
    PathSpec.program tokens = .ok p ∧
      t.canonical path = .ok c ∧ result = spec.matchCanonical p c := by
  unfold matchPath program at h
  rcases ht : PathSpec.canonicalTokens t spec.segments with e | tokens
  · simp [ht] at h
  rcases hp : PathSpec.program tokens with e | p
  · simp [ht, hp] at h
  · simp only [ht, hp] at h
    obtain ⟨c, hc, rfl⟩ := Pattern.exists_of_map_eq_ok h
    exact ⟨tokens, p, c, rfl, hp, hc, rfl⟩

/-- Whether a spec was compiled from its path, and its captures are regular. -/
structure IsRegular (spec : Spec) : Prop where
  compiled : PathSpec.compile spec.path = .ok spec.segments
  captures : ∀ name pattern, .capture name pattern ∈ spec.segments →
    Pattern.IsRegular pattern.toList

namespace IsRegular

variable (h : spec.IsRegular)

include h

theorem selfcontained : spec.Selfcontained :=
  ⟨h.compiled, fun name pattern hmem => (h.captures name pattern hmem).selfcontained⟩

theorem segments : ∀ token ∈ spec.segments, token.IsRegular := by
  intro token htoken
  cases token with
  | literal | glob => trivial
  | capture name pattern =>
    exact ⟨(h.selfcontained.tokens _ htoken).1, h.captures name pattern htoken⟩

theorem tokens {tokens : List PathSpec.Token}
    (ht : PathSpec.canonicalTokens t spec.segments = .ok tokens) :
    ∀ token ∈ tokens, token.IsRegular := by
  have hafter := (PathSpec.canonicalTokens_eq_ok ht).2
  rw [← PathSpec.isRegular_afterBase, hafter, PathSpec.isRegular_afterBase]
  exact h.segments

/-- The pattern of a regular spec in a tree is sound whenever its base can be made canonical. -/
theorem program_ok {tokens : List PathSpec.Token}
    (ht : PathSpec.canonicalTokens t spec.segments = .ok tokens) :
    ∃ program, PathSpec.program tokens = .ok program := by
  refine (h.selfcontained.compiles_canonical_iff ht).mpr ?_
  rw [PathSpec.groupNames_of_isRegular h.segments]
  exact (PathSpec.compile_eq_ok_iff.mp h.compiled).1.names

end IsRegular

/-- A path matches a spec with regular captures exactly if its canonical form splits into
consecutive pieces, one for each token of the canonical form of the spec. Matching fails for no
other reason than that one of them has no canonical form. The captures of a match are, under the
names of the captures of the spec, the pieces of one such split, and override the metadata of the
source. -/
theorem matchPath_iff_splits (h : spec.IsRegular) (t : FileTree) (path : String) :
    ((∃ m, spec.matchPath t path = .ok (some m)) ↔ ∃ tokens p pieces,
      PathSpec.canonicalTokens t spec.segments = .ok tokens ∧ t.canonical path = .ok p ∧
        PathSpec.Splits tokens p.toList pieces) ∧
    (∀ tokens p, PathSpec.canonicalTokens t spec.segments = .ok tokens → t.canonical path = .ok p →
      ∃ result, spec.matchPath t path = .ok result) ∧
    ∀ m, spec.matchPath t path = .ok (some m) → ∃ tokens p pieces,
      PathSpec.canonicalTokens t spec.segments = .ok tokens ∧ t.canonical path = .ok p ∧
        PathSpec.Splits tokens p.toList pieces ∧ m.path = p ∧
          m.captures = PathSpec.captured tokens pieces ∧
        m.captures.map (·.1) = spec.captureNames ∧
        ∀ key, Entries.get? m.metadata key =
          ((m.captures.lookup key).map .str).or (Entries.get? spec.metadata key) := by
  refine ⟨⟨?_, ?_⟩, ?_, ?_⟩
  · rintro ⟨m, hm⟩
    obtain ⟨tokens, program, p, ht, hp, hc, hmatch⟩ := exists_of_matchPath hm
    obtain ⟨marks, hmarks, -⟩ := Option.map_eq_some_iff.mp hmatch.symm
    obtain ⟨pieces, hs, -⟩ := PathSpec.splits_of_fullMatch (h.tokens ht) hp hmarks
    exact ⟨tokens, p, pieces, ht, hc, hs⟩
  · rintro ⟨tokens, p, pieces, ht, hc, hs⟩
    obtain ⟨program, hp⟩ := h.program_ok ht
    obtain ⟨marks, hmarks⟩ := PathSpec.fullMatch_of_splits (h.tokens ht) hp hs
    rw [matchPath_eq ht hp hc, matchCanonical, hmarks]
    exact ⟨_, rfl⟩
  · intro tokens p ht hc
    obtain ⟨program, hp⟩ := h.program_ok ht
    exact ⟨_, matchPath_eq ht hp hc⟩
  · intro m hm
    obtain ⟨tokens, program, p, ht, hp, hc, hmatch⟩ := exists_of_matchPath hm
    obtain ⟨marks, hmarks, rfl⟩ := Option.map_eq_some_iff.mp hmatch.symm
    obtain ⟨pieces, hs, hcaptures⟩ := PathSpec.splits_of_fullMatch (h.tokens ht) hp hmarks
    have hkeys : (program.captures marks).map (·.1) = spec.captureNames := by
      rw [hcaptures, PathSpec.captured_keys hs.pieces, captureNames_eq ht]
    have hnodup : ((program.captures marks).map (·.1)).Nodup := by
      rw [hkeys]
      exact (PathSpec.compile_eq_ok_iff.mp h.compiled).1.names
    exact ⟨tokens, p, pieces, ht, hc, hs, rfl, hcaptures, hkeys,
      fun key => get?_withCaptures hnodup key⟩

end Spec

namespace Forked

/-- A spec whose captures compete for the same characters as the star between them. -/
def spec : Spec :=
  ⟨"/d/(?<v>(?:a|ab)+?)*(?<w>(b)?)",
    [.literal "/d/", .capture "v" "(?:a|ab)+?", .glob false, .capture "w" "(b)?"], "/d/", "chunked",
    [], [], false⟩

def tree : FileTree := ⟨[], []⟩

theorem isRegular_spec : spec.IsRegular where
  compiled := by decide +kernel
  captures := by
    intro name pattern hmem
    simp only [spec, List.mem_cons, List.not_mem_nil, or_false, PathSpec.Token.capture.injEq,
      reduceCtorEq, false_or] at hmem
    rcases hmem with ⟨-, rfl⟩ | ⟨-, rfl⟩
    · exact ⟨_, _, by cbv, by cbv, by cbv, by cbv⟩
    · exact ⟨_, _, by cbv, by cbv, by cbv, by cbv⟩

/-- The match of a path, which is a split of it. -/
theorem spec_splits : spec.IsRegular ∧
    spec.matchPath tree "/d//abb" = .ok (some ⟨"/d/abb", [("v", "a"), ("w", "")],
      [("v", .str "a"), ("w", .str "")], some spec⟩) ∧
    ∃ pieces, PathSpec.Splits spec.segments "/d/abb".toList pieces ∧
      PathSpec.captured spec.segments pieces = [("v", "a"), ("w", "")] := by
  have hmatch : spec.matchPath tree "/d//abb" = .ok (some ⟨"/d/abb", [("v", "a"), ("w", "")],
      [("v", .str "a"), ("w", .str "")], some spec⟩) := by decide +kernel
  have htokens : PathSpec.canonicalTokens tree spec.segments = .ok spec.segments := by decide +kernel
  obtain ⟨tokens, p, pieces, ht, -, hs, hp, hcaptured, -⟩ :=
    (Spec.matchPath_iff_splits isRegular_spec tree "/d//abb").2.2 _ hmatch
  obtain rfl : spec.segments = tokens := Except.ok.inj (htokens.symm.trans ht)
  obtain rfl : "/d/abb" = p := hp
  exact ⟨isRegular_spec, hmatch, pieces, hs, hcaptured.symm⟩

end Forked

end SegmentIndex
