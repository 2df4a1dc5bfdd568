import Converge.Yaml.Lexer
import Converge.Yaml.Resolve
/-!
# From tokens to a document

The tokens of a text describe at most one document.  Nodes are built from left to right; where
the tokens end too early or do not fit, what has been built stays, and the place where it breaks
off is marked.

An anchor gets a number when its node begins: the count of different names so far.  An alias
stands for the last node that began under the number of its name.
-/

namespace Converge.Yaml

/-- A node that is anchored. -/
structure Anchored where
  /-- Which beginning of a node this is, counted from the beginning of the document. -/
  order : Nat
  number : Nat
  node : Node

/-- The state while a document is built. -/
structure Composer where
  /-- The tokens that are left; none once they do not fit. -/
  tokens : List Token
  /-- Handles of tags and what they stand for. -/
  handles : List (String × String)
  /-- The numbers of names. -/
  names : List (String × Nat)
  anchored : List Anchored
  /-- How many nodes and ends of collections were met. -/
  events : Nat

namespace Composer

/-- The next token. -/
def peek (s : Composer) : Option Token := s.tokens.head?

/-- Goes past a token. -/
def skip (s : Composer) : Composer := { s with tokens := s.tokens.tail }

/-- Nothing can be read any more. -/
def stop (s : Composer) : Composer := { s with tokens := [] }

/-- Counts a node or the end of a collection. -/
def count (s : Composer) : Composer := { s with events := s.events + 1 }

/-- Whether the next token is one of some. -/
def sees (s : Composer) (ts : List Token) : Bool :=
  match s.peek with
  | some t => ts.contains t
  | none => false

/-- The number of a name, new or not. -/
def enlist (s : Composer) (name : String) : Nat × Composer :=
  let number := s.names.length
  let others := s.names.filter fun e => e.1 ≠ name
  (number, { s with names := (name, number) :: others })

/-- What is said before a node: its anchor and its tag. -/
structure Properties where
  anchor : Option String
  tag : Option (String × String)

/-- Reads the properties of a node, in either order. -/
def properties (s : Composer) : Properties × Composer :=
  match s.peek with
  | some (.anchor a) =>
    let s := s.skip
    match s.peek with
    | some (.tag h t) => (⟨some a, some (h, t)⟩, s.skip)
    | _ => (⟨some a, none⟩, s)
  | some (.tag h t) =>
    let s := s.skip
    match s.peek with
    | some (.anchor a) => (⟨some a, some (h, t)⟩, s.skip)
    | _ => (⟨none, some (h, t)⟩, s)
  | _ => (⟨none, none⟩, s)

/-- The full tag; the outer result is missing when its handle is unknown. -/
def fullTag (s : Composer) : Option (String × String) → Option (Option String)
  | none => some none
  | some (handle, suffix) =>
    if handle.isEmpty then some (some suffix)
    else (s.handles.lookup handle).map fun start => some (start ++ suffix)

/-- Begins a node: it is counted, and its anchor gets its number. -/
def begin (s : Composer) (anchor : Option String) : Option (Nat × Nat) × Composer :=
  let order := s.events
  let s := s.count
  match anchor with
  | none => (none, s)
  | some name =>
    let (number, s) := s.enlist name
    (some (order, number), s)

/-- Remembers an anchored node. -/
def remember (s : Composer) (anchor : Option (Nat × Nat)) (node : Node) : Composer :=
  match anchor with
  | none => s
  | some (order, number) => { s with anchored := ⟨order, number, node⟩ :: s.anchored }

/-- A node without content. -/
def empty (s : Composer) (anchor : Option String) (tag : Option String) : Node × Composer :=
  let (a, s) := s.begin anchor
  let node := Node.scalar (resolve "" .plain tag)
  (node, s.remember a node)

/-- A node that is left out. -/
def blank (s : Composer) : Node × Composer := s.empty none none

mutual

/-- Builds a node.  `block` says whether indented collections may stand here, and `indentless`
whether a sequence may stand in the column of the mapping around it. -/
def node (block indentless : Bool) : Nat → Composer → Node × Composer
  | 0, s => (.broken, s.stop)
  | fuel + 1, s =>
    match s.peek with
    | none => (.broken, s)
    | some (.alias name) =>
      match s.names.lookup name with
      | some number => (.alias number, s.skip.count)
      | none => (.broken, s.stop)
    | some _ =>
      let (p, s) := s.properties
      match s.peek, s.fullTag p.tag with
      | none, _ => (.broken, s)
      | _, none => (.broken, s.stop)
      | some t, some tag =>
        let collect := fun (build : Composer → Node × Composer) (s : Composer) =>
          let (a, s) := s.begin p.anchor
          let (n, s) := build s
          (n, s.remember a n)
        match t with
        | .scalar text style =>
          let tag := if tag = some "!" then none else tag
          let (a, s) := s.skip.begin p.anchor
          let n := Node.scalar (resolve text style tag)
          (n, s.remember a n)
        | .flowSequenceStart => collect (flowSequence fuel) s.skip
        | .flowMappingStart => collect (flowMapping fuel) s.skip
        | .blockEntry =>
          if indentless then collect (indentlessSequence fuel) s
          else if p.anchor.isSome || tag.isSome then s.empty p.anchor tag
          else (.broken, s.stop)
        | .blockSequenceStart =>
          if block then collect (blockSequence fuel) s.skip
          else if p.anchor.isSome || tag.isSome then s.empty p.anchor tag
          else (.broken, s.stop)
        | .blockMappingStart =>
          if block then collect (blockMapping fuel) s.skip
          else if p.anchor.isSome || tag.isSome then s.empty p.anchor tag
          else (.broken, s.stop)
        | _ =>
          if p.anchor.isSome || tag.isSome then s.empty p.anchor tag
          else (.broken, s.stop)

/-- A node, or nothing if a token of some kinds comes next. -/
def nodeUnless (ts : List Token) (block indentless : Bool) : Nat → Composer → Node × Composer
  | 0, s => (.broken, s.stop)
  | fuel + 1, s =>
    match s.peek with
    | none => (.broken, s)
    | some t => if ts.contains t then s.blank else node block indentless fuel s

/-- The items of an indented sequence, up to its end. -/
def blockItems : Nat → Composer → List Node × Bool × Composer
  | 0, s => ([], false, s.stop)
  | fuel + 1, s =>
    match s.peek with
    | some .blockEntry =>
      let (item, s) := nodeUnless [.blockEntry, .blockEnd] true false fuel s.skip
      let (items, complete, s) := blockItems fuel s
      (item :: items, complete, s)
    | some .blockEnd => ([], true, s.skip.count)
    | _ => ([], false, s.stop)

/-- An indented sequence. -/
def blockSequence : Nat → Composer → Node × Composer
  | 0, s => (.broken, s.stop)
  | fuel + 1, s =>
    let (items, complete, s) := blockItems fuel s
    (.list items complete, s)

/-- The items of a sequence in the column of the mapping around it. -/
def indentlessItems : Nat → Composer → List Node × Bool × Composer
  | 0, s => ([], false, s.stop)
  | fuel + 1, s =>
    match s.peek with
    | some .blockEntry =>
      let (item, s) := nodeUnless [.blockEntry, .key, .value, .blockEnd] true false fuel s.skip
      let (items, complete, s) := indentlessItems fuel s
      (item :: items, complete, s)
    | some _ => ([], true, s.count)
    | none => ([], false, s)

/-- A sequence in the column of the mapping around it. -/
def indentlessSequence : Nat → Composer → Node × Composer
  | 0, s => (.broken, s.stop)
  | fuel + 1, s =>
    let (items, complete, s) := indentlessItems fuel s
    (.list items complete, s)

/-- The value after a key of an indented mapping. -/
def blockValue : Nat → Composer → Node × Composer
  | 0, s => (.broken, s.stop)
  | fuel + 1, s =>
    match s.peek with
    | some .value => nodeUnless [.key, .value, .blockEnd] true true fuel s.skip
    | some _ => s.blank
    | none => (.broken, s)

/-- The entries of an indented mapping, up to its end. -/
def blockEntries : Nat → Composer → List (Node × Node) × Bool × Composer
  | 0, s => ([], false, s.stop)
  | fuel + 1, s =>
    match s.peek with
    | some .key =>
      let (k, s) := nodeUnless [.key, .value, .blockEnd] true true fuel s.skip
      let (v, s) := blockValue fuel s
      let (entries, complete, s) := blockEntries fuel s
      ((k, v) :: entries, complete, s)
    | some .blockEnd => ([], true, s.skip.count)
    | _ => ([], false, s.stop)

/-- An indented mapping. -/
def blockMapping : Nat → Composer → Node × Composer
  | 0, s => (.broken, s.stop)
  | fuel + 1, s =>
    let (entries, complete, s) := blockEntries fuel s
    (.table entries complete, s)

/-- The key of a pair that is an item of a sequence in brackets.  Where there is none, the colon
that should follow it is passed over. -/
def pairKey : Nat → Composer → Node × Composer
  | 0, s => (.broken, s.stop)
  | fuel + 1, s =>
    match s.peek with
    | none => (.broken, s)
    | some t =>
      if [Token.value, .flowEntry, .flowSequenceEnd].contains t then s.skip.blank
      else node false false fuel s

/-- The value of a pair that is an item of a sequence in brackets. -/
def pairValue : Nat → Composer → Node × Composer
  | 0, s => (.broken, s.stop)
  | fuel + 1, s =>
    match s.peek with
    | some .value => nodeUnless [.flowEntry, .flowSequenceEnd] false false fuel s.skip
    | some _ => s.blank
    | none => (.broken, s)

/-- A pair that is an item of a sequence in brackets. -/
def pair : Nat → Composer → Node × Composer
  | 0, s => (.broken, s.stop)
  | fuel + 1, s =>
    let s := s.count
    let (k, s) := pairKey fuel s
    let (v, s) := pairValue fuel s
    match s.peek with
    | some _ => (.table [(k, v)] true, s.count)
    | none => (.table [(k, v)] false, s)

/-- An item of a sequence in brackets, and the items after it. -/
def flowItem : Nat → Composer → List Node × Bool × Composer
  | 0, s => ([], false, s.stop)
  | fuel + 1, s =>
    match s.peek with
    | some .flowSequenceEnd => ([], true, s.skip.count)
    | some .key =>
      let (item, s) := pair fuel s.skip
      let (items, complete, s) := flowItems fuel s
      (item :: items, complete, s)
    | some _ =>
      let (item, s) := node false false fuel s
      let (items, complete, s) := flowItems fuel s
      (item :: items, complete, s)
    | none => ([], false, s)

/-- The items of a sequence in brackets after its first. -/
def flowItems : Nat → Composer → List Node × Bool × Composer
  | 0, s => ([], false, s.stop)
  | fuel + 1, s =>
    match s.peek with
    | some .flowSequenceEnd => ([], true, s.skip.count)
    | some .flowEntry => flowItem fuel s.skip
    | _ => ([], false, s.stop)

/-- A sequence in brackets. -/
def flowSequence : Nat → Composer → Node × Composer
  | 0, s => (.broken, s.stop)
  | fuel + 1, s =>
    let (items, complete, s) := flowItem fuel s
    (.list items complete, s)

/-- The value after a key in braces. -/
def flowValue : Nat → Composer → Node × Composer
  | 0, s => (.broken, s.stop)
  | fuel + 1, s =>
    match s.peek with
    | some .value => nodeUnless [.flowEntry, .flowMappingEnd] false false fuel s.skip
    | some _ => s.blank
    | none => (.broken, s)

/-- An entry in braces, and the entries after it. -/
def flowMember : Nat → Composer → List (Node × Node) × Bool × Composer
  | 0, s => ([], false, s.stop)
  | fuel + 1, s =>
    match s.peek with
    | some .flowMappingEnd => ([], true, s.skip.count)
    | some .key =>
      let (k, s) := nodeUnless [.value, .flowEntry, .flowMappingEnd] false false fuel s.skip
      let (v, s) := flowValue fuel s
      let (entries, complete, s) := flowMembers fuel s
      ((k, v) :: entries, complete, s)
    | some _ =>
      let (k, s) := node false false fuel s
      match s.peek with
      | none => ([(k, .broken)], false, s)
      | some _ =>
        let (v, s) := s.blank
        let (entries, complete, s) := flowMembers fuel s
        ((k, v) :: entries, complete, s)
    | none => ([], false, s)

/-- The entries in braces after the first. -/
def flowMembers : Nat → Composer → List (Node × Node) × Bool × Composer
  | 0, s => ([], false, s.stop)
  | fuel + 1, s =>
    match s.peek with
    | some .flowMappingEnd => ([], true, s.skip.count)
    | some .flowEntry => flowMember fuel s.skip
    | _ => ([], false, s.stop)

/-- A mapping in braces. -/
def flowMapping : Nat → Composer → Node × Composer
  | 0, s => (.broken, s.stop)
  | fuel + 1, s =>
    let (entries, complete, s) := flowMember fuel s
    (.table entries complete, s)

end

/-! ## 1. What is built at a token -/

section Steps

variable {s : Composer} {more : List Token} {block indentless : Bool} {fuel : Nat}

variable (block indentless fuel) in
theorem node_scalar {text : String} {style : Style} (h : s.tokens = .scalar text style :: more) :
    ∃ s', node block indentless (fuel + 1) s = (.scalar (resolve text style none), s') ∧
      s'.tokens = more := by
  cases s
  cases h
  exact ⟨_, rfl, rfl⟩

theorem node_flowSequence (h : s.tokens = .flowSequenceStart :: more) :
    node block indentless (fuel + 2) s = (.list (flowItem fuel s.skip.count).1
      (flowItem fuel s.skip.count).2.1, (flowItem fuel s.skip.count).2.2) := by
  cases s
  cases h
  rfl

theorem node_flowMapping (h : s.tokens = .flowMappingStart :: more) :
    node block indentless (fuel + 2) s = (.table (flowMember fuel s.skip.count).1
      (flowMember fuel s.skip.count).2.1, (flowMember fuel s.skip.count).2.2) := by
  cases s
  cases h
  rfl

theorem node_blockSequence (h : s.tokens = .blockSequenceStart :: more) :
    node true indentless (fuel + 2) s = (.list (blockItems fuel s.skip.count).1
      (blockItems fuel s.skip.count).2.1, (blockItems fuel s.skip.count).2.2) := by
  cases s
  cases h
  rfl

theorem node_indentlessSequence (h : s.tokens = .blockEntry :: more) :
    node block true (fuel + 2) s = (.list (indentlessItems fuel s.count).1
      (indentlessItems fuel s.count).2.1, (indentlessItems fuel s.count).2.2) := by
  cases s
  cases h
  rfl

theorem node_blockMapping (h : s.tokens = .blockMappingStart :: more) :
    node true indentless (fuel + 2) s = (.table (blockEntries fuel s.skip.count).1
      (blockEntries fuel s.skip.count).2.1, (blockEntries fuel s.skip.count).2.2) := by
  cases s
  cases h
  rfl

/-- Where no token says that there is no node, there is one. -/
theorem nodeUnless_of_notMem {ts : List Token} {t : Token} (h : s.tokens = t :: more)
    (other : t ∉ ts) :
    nodeUnless ts block indentless (fuel + 1) s = node block indentless fuel s := by
  cases s
  cases h
  exact if_neg (by simpa using other)

theorem flowItem_end (h : s.tokens = .flowSequenceEnd :: more) :
    flowItem (fuel + 1) s = ([], true, s.skip.count) := by
  cases s
  cases h
  rfl

theorem flowMember_end (h : s.tokens = .flowMappingEnd :: more) :
    flowMember (fuel + 1) s = ([], true, s.skip.count) := by
  cases s
  cases h
  rfl

theorem blockItems_entry {r : Node × Composer} (h : s.tokens = .blockEntry :: more)
    (item : nodeUnless [.blockEntry, .blockEnd] true false fuel s.skip = r) :
    blockItems (fuel + 1) s = (r.1 :: (blockItems fuel r.2).1, (blockItems fuel r.2).2) := by
  cases item
  cases s
  cases h
  rfl

theorem blockItems_end (h : s.tokens = .blockEnd :: more) :
    blockItems (fuel + 1) s = ([], true, s.skip.count) := by
  cases s
  cases h
  rfl

theorem indentlessItems_entry {r : Node × Composer} (h : s.tokens = .blockEntry :: more)
    (item : nodeUnless [.blockEntry, .key, .value, .blockEnd] true false fuel s.skip = r) :
    indentlessItems (fuel + 1) s =
      (r.1 :: (indentlessItems fuel r.2).1, (indentlessItems fuel r.2).2) := by
  cases item
  cases s
  cases h
  rfl

/-- Such a sequence has no end of its own: it ends where no item follows. -/
theorem indentlessItems_other {t : Token} (h : s.tokens = t :: more) (other : t ≠ .blockEntry) :
    indentlessItems (fuel + 1) s = ([], true, s.count) := by
  cases s
  cases h
  cases t <;> first | rfl | exact absurd rfl other

theorem blockValue_value (h : s.tokens = .value :: more) :
    blockValue (fuel + 1) s = nodeUnless [.key, .value, .blockEnd] true true fuel s.skip := by
  cases s
  cases h
  rfl

theorem blockEntries_key {k v : Node × Composer} (h : s.tokens = .key :: more)
    (key : nodeUnless [.key, .value, .blockEnd] true true fuel s.skip = k)
    (value : blockValue fuel k.2 = v) :
    blockEntries (fuel + 1) s =
      ((k.1, v.1) :: (blockEntries fuel v.2).1, (blockEntries fuel v.2).2) := by
  cases key
  cases value
  cases s
  cases h
  rfl

theorem blockEntries_end (h : s.tokens = .blockEnd :: more) :
    blockEntries (fuel + 1) s = ([], true, s.skip.count) := by
  cases s
  cases h
  rfl

end Steps

/-! ## 2. The document -/

/-- The directives before a document: the version at most once, and each handle at most once. -/
def directives (s : Composer) : Nat → Bool → Option Composer
  | 0, _ => none
  | fuel + 1, versioned =>
    match s.peek with
    | some (.versionDirective major minor) =>
      if versioned || major ≠ 1 || (minor ≠ 1 && minor ≠ 2) then none
      else directives s.skip fuel true
    | some (.tagDirective handle start) =>
      if (s.handles.lookup handle).isSome then none
      else directives { s.skip with handles := s.handles ++ [(handle, start)] } fuel versioned
    | some _ => some s
    | none => none

/-- The handles that need no declaration; a declared one comes before them. -/
def standardHandles : List (String × String) := [("!", "!"), ("!!", "tag:yaml.org,2002:")]

/-- Whether nothing follows the document: its end, if it is marked, and the end of the text. -/
def atClose (s : Composer) : Bool :=
  let s := if s.sees [.documentEnd] then s.skip else s
  let rest := s.tokens.dropWhile (· = .documentEnd)
  rest.head? = some .streamEnd

/-- The anchored nodes by their numbers, the last that began first. -/
def anchors (s : Composer) : List (Nat × Node) :=
  (s.anchored.mergeSort fun a b => decide (b.order ≤ a.order)).map fun a => (a.number, a.node)

/-- The document whose root was built. -/
def finish (root : Node) (s : Composer) : Document :=
  ⟨root, s.anchors, 100 * s.events, false, s.atClose⟩

/-- A text that holds no document, or none that can be read. -/
def nothing (root : Node) (sound : Bool) : Document := ⟨root, [], 0, false, sound⟩

/-- The content after the beginning of a document. -/
def content (s : Composer) : Document :=
  let fuel := 8 * s.tokens.length + 16
  match s.peek with
  | none => nothing .broken false
  | some (.versionDirective _ _) | some (.tagDirective _ _) | some .documentStart
  | some .documentEnd | some .streamEnd =>
    let (root, s) := s.blank
    finish root s
  | some _ =>
    let (root, s) := node true false fuel s
    finish root s

/-- The document that some tokens describe. -/
def document (ts : List Token) : Document :=
  match ts with
  | .streamStart :: ts =>
    let s : Composer := ⟨ts, [], [], [], 0⟩
    match s.peek with
    | none => nothing .broken false
    | some .streamEnd => nothing (.scalar (resolve "" .plain none)) true
    | some t =>
      let explicit := match t with
        | .versionDirective _ _ | .tagDirective _ _ | .documentStart => true
        | _ => false
      if explicit then
        match directives s (ts.length + 1) false with
        | none => nothing .broken false
        | some s =>
          if s.peek = some .documentStart then
            content { s.skip with handles := s.handles ++ standardHandles }
          else nothing .broken false
      else
        let fuel := 8 * ts.length + 16
        let (root, s) := node true false fuel { s with handles := standardHandles }
        finish root s
  | _ => nothing .broken false

end Composer

end Converge.Yaml
