import Converge.Data.Value
import Converge.Data.Fault
/-!
# Reading and writing typed values

A `Codec α` says how an `α` is written as a document value and how it is read from a piece of a
document.  Records are described once, field by field, and that one description gives the order
in which fields are written, which of them may be missing, and every fault that reading them can
meet.  Faults come in the order of the document: entries are taken one after the other, a
repeated key is a fault before its value is looked at, and what is missing is known only when the
last entry has been read.
-/

namespace Converge

/-- Where a reader is: the document it reads from and the place in it. -/
structure Scope where
  document : Document
  place : Place

/-- A computation that reads from a document.  It counts the aliases that it follows, because
a document whose aliases unfold without end is refused. -/
abbrev Reading := ReaderT Scope (StateT Nat (Except Fault))

namespace Reading

/-- Stops with a fault at the present place. -/
def fail (cause : Cause) : Reading α := fun scope _ =>
  .error ⟨cause, some scope.place⟩

/-- Stops with a fault at the place around the present one. -/
def failAround (cause : Cause) : Reading α := fun scope _ =>
  .error ⟨cause, some scope.place.tail⟩

/-- Reads one step further into the document. -/
def within (step : Step) (r : Reading α) : Reading α := fun scope used =>
  r { scope with place := step :: scope.place } used

/-- The piece that a node stands for: itself, or what its alias was anchored to. -/
def resolve : Node → Reading Node
  | .alias anchor => fun scope used =>
    if used + 1 > scope.document.patience then .error ⟨.unreadable, none⟩
    else
      match scope.document.anchors.lookup anchor with
      | some node => .ok (node, used + 1)
      | none => .error ⟨.unreadable, none⟩
  | node => pure node

/-- Whether a list may stand for a record in this document. -/
def positional : Reading Bool := fun scope used => .ok (scope.document.positional, used)

/-- Reads the items of a list in order. -/
def each (read : Node → Reading α) : Nat → List Node → Reading (List α)
  | _, [] => pure []
  | i, item :: rest => do
    let a ← within (.index i) (read item)
    let others ← each read (i + 1) rest
    pure (a :: others)

end Reading

open Reading

/-- What is wrong with a scalar of which something else was expected. -/
def Scalar.mismatch (s : Scalar) (expected : String) : Cause :=
  match s.undeclared, s.text with
  | some declared, some content => .invalidValue (.text content) declared
  | _, _ => .invalidType s.found expected

/-- The fault of a piece that is not of the kind that was asked for. -/
def Node.mismatch (node : Node) (expected : String) : Reading α :=
  match node with
  | .scalar s => fail (s.mismatch expected)
  | .list _ _ => fail (.invalidType .list expected)
  | .table _ _ => fail (.invalidType .table expected)
  | .alias _ | .worthless | .broken => fail .unreadable

/-- How an `α` is written, and how it is read. -/
structure Codec (α : Type) where
  read : Node → Reading α
  write : α → Value

namespace Codec

/-- Reads a whole document. -/
def decode (c : Codec α) (d : Document) : Except Fault α :=
  match c.read d.root ⟨d, []⟩ 0 with
  | .error f => .error f
  | .ok (a, _) => if d.sound then .ok a else .error ⟨.unreadable, none⟩

/-! ## 1. Scalars -/

/-- Text, under the name by which reports ask for it. -/
def textAs (expected : String) : Codec String where
  read node := do
    match ← resolve node with
    | .scalar s =>
      match s.text with
      | some t => pure t
      | none => fail (s.mismatch expected)
    | other => other.mismatch expected
  write := .text

/-- Text. -/
def text : Codec String := textAs "a string"

/-- A truth value. -/
def bool : Codec Bool where
  read node := do
    match ← resolve node with
    | .scalar s =>
      match s.bool with
      | some b => pure b
      | none => fail (s.mismatch "a boolean")
    | other => other.mismatch "a boolean"
  write := .bool

/-- A whole number between two bounds. -/
def bounded (lo hi : Int) (expected : String) : Codec Int where
  read node := do
    match ← resolve node with
    | .scalar s =>
      match s.int with
      | some n => if lo ≤ n ∧ n ≤ hi then pure n else fail (.invalidValue (.int n) expected)
      | none => fail (s.mismatch expected)
    | other => other.mismatch expected
  write := .int

/-- The same written form for another type. -/
def map (c : Codec α) (make : α → β) (of : β → α) : Codec β where
  read node := make <$> c.read node
  write b := c.write (of b)

def int16 : Codec Int16 := (bounded (-32768) 32767 "i16").map Int16.ofInt Int16.toInt
def int32 : Codec Int32 := (bounded (-2147483648) 2147483647 "i32").map Int32.ofInt Int32.toInt
def int64 : Codec Int64 :=
  (bounded (-9223372036854775808) 9223372036854775807 "i64").map Int64.ofInt Int64.toInt
def uint16 : Codec UInt16 :=
  (bounded 0 65535 "u16").map (fun n => UInt16.ofNat n.toNat) (fun n => (n.toNat : Int))
def uint32 : Codec UInt32 :=
  (bounded 0 4294967295 "u32").map (fun n => UInt32.ofNat n.toNat) (fun n => (n.toNat : Int))
def uint64 : Codec UInt64 :=
  (bounded 0 18446744073709551615 "u64").map (fun n => UInt64.ofNat n.toNat)
    (fun n => (n.toNat : Int))

/-- One of finitely many names.  A table with that name as its only key and nothing under it
stands for the name too. -/
def oneOf (names : List (String × α)) (nameOf : α → String) : Codec α where
  read node := do
    match ← resolve node with
    | .scalar s =>
      match s.text with
      | some t =>
        match names.lookup t with
        | some a => pure a
        | none => fail .unsuitable
      | none => fail .unsuitable
    | .table [(key, value)] true =>
      match ← resolve key, ← resolve value with
      | .scalar s, .scalar v =>
        match s.text.bind (fun t => names.lookup t) with
        | some a =>
          if v.found = .null then pure a else fail (v.mismatch "unit")
        | none => fail .unsuitable
      | .scalar _, other => other.mismatch "unit"
      | _, _ => fail .unsuitable
    | _ => fail .unsuitable
  write a := .text (nameOf a)

/-! ## 2. Lists and missing values -/

/-- A list.  A scalar without content is the empty list where the document's format says so. -/
def list (c : Codec α) : Codec (List α) where
  read node := do
    match ← resolve node with
    | .list items complete =>
      let as ← each c.read 0 items
      if complete then pure as else fail .unreadable
    | .scalar s =>
      if s.hollow then pure [] else fail (s.mismatch "a sequence")
    | other => other.mismatch "a sequence"
  write as := .list (as.map c.write)

/-- A value that may be missing. -/
def optional (c : Codec α) : Codec (Option α) where
  read node := do
    match ← resolve node with
    | .scalar s =>
      match s.absence with
      | .absent => pure none
      | .present => some <$> c.read (.scalar s)
      | .contradictory content => failAround (.invalidValue (.text content) "null")
    | other => some <$> c.read other
  write := Value.ofOption c.write

/-- A table from names to values; the last of several entries under one name counts. -/
def entries (c : Codec α) : Codec (List (String × α)) where
  read node := do
    match ← resolve node with
    | .table es complete =>
      let read ← es.mapM fun (k, v) => do
        let name ← text.read k
        let a ← within (.key name) (c.read v)
        pure (name, a)
      if complete then pure read else fail .unreadable
    | .scalar s => fail (s.mismatch "a map")
    | other => other.mismatch "a map"
  write as := .table (as.map fun (k, a) => (k, c.write a))

end Codec

/-! ## 3. Records -/

/-- One field of a record. -/
structure Field (α : Type) where
  key : String
  codec : Codec α
  /-- Its value when the record has no entry for it; without one the entry is required. -/
  absent : Option α
  /-- Its value when a list that stands for the record ends before it. -/
  cutOff : Option α
  /-- Whether a value is left out when the record is written. -/
  hidden : α → Bool

namespace Field

/-- A field that has to be there. -/
def required (key : String) (c : Codec α) : Field α := ⟨key, c, none, none, fun _ => false⟩

/-- A field with a value to fall back on; it is always written. -/
def withDefault (key : String) (c : Codec α) (a : α) : Field α :=
  ⟨key, c, some a, some a, fun _ => false⟩

/-- A list that is left out when it is empty. -/
def unlessEmpty (key : String) (c : Codec α) : Field (List α) :=
  ⟨key, c.list, some [], some [], List.isEmpty⟩

/-- A value that is left out when it is missing. -/
def ifAny (key : String) (c : Codec α) : Field (Option α) :=
  ⟨key, c.optional, some none, some none, Option.isNone⟩

/-- As `ifAny`, but a list that stands for the record has an item for it. -/
def ifAnyInPlace (key : String) (c : Codec α) : Field (Option α) :=
  ⟨key, c.optional, some none, none, Option.isNone⟩

/-- A value that is written as nothing when it is missing. -/
def orNull (key : String) (c : Codec α) : Field (Option α) :=
  ⟨key, c.optional, some none, some none, fun _ => false⟩

/-- As `orNull`, but a list that stands for the record has an item for it. -/
def orNullInPlace (key : String) (c : Codec α) : Field (Option α) :=
  ⟨key, c.optional, some none, none, fun _ => false⟩

end Field

/-- The fields of a record whose values together are a `β`.  While a record is read, a `Draft`
holds the values met so far. -/
structure Fields (β : Type) where
  Draft : Type
  blank : Draft
  /-- Takes the value of a key that belongs to the record. -/
  take : String → Node → Draft → Option (Reading Draft)
  /-- The finished values, or the first key that is missing. -/
  finish : Draft → Except String β
  /-- Reads the values from a list, and returns the items that are left. -/
  inOrder : List Node → Bool → Reading (β × List Node)
  write : β → List (String × Value)

namespace Fields

/-- A record without fields. -/
def none : Fields Unit where
  Draft := Unit
  blank := ()
  take _ _ _ := Option.none
  finish _ := .ok ()
  inOrder items _ := pure ((), items)
  write _ := []

/-- One field before others. -/
def and (f : Field α) (rest : Fields β) : Fields (α × β) where
  Draft := Option α × rest.Draft
  blank := (Option.none, rest.blank)
  take key node draft :=
    if key = f.key then
      some (if draft.1.isSome then fail (.duplicateField f.key)
        else do
          let a ← within (.key key) (f.codec.read node)
          pure (some a, draft.2))
    else (rest.take key node draft.2).map fun r => do
      let others ← r
      pure (draft.1, others)
  finish draft := do
    let a ← match draft.1 with
      | some a => pure a
      | Option.none =>
        match f.absent with
        | some a => pure a
        | Option.none => throw f.key
    let others ← rest.finish draft.2
    pure (a, others)
  inOrder items complete := do
    match items with
    | item :: left =>
      let a ← f.codec.read item
      let (others, left) ← rest.inOrder left complete
      pure ((a, others), left)
    | [] =>
      if complete then
        match f.cutOff with
        | some a =>
          let (others, left) ← rest.inOrder [] complete
          pure ((a, others), left)
        | Option.none => fail .unsuitable
      else fail .unreadable
  write b :=
    (if f.hidden b.1 then [] else [(f.key, f.codec.write b.1)]) ++ rest.write b.2

/-- Reads past a piece that nobody asked for; it only has to be there. -/
def pass : Node → Reading Unit
  | .broken => fail .unreadable
  | _ => pure ()

/-- Takes the entries of a table one after the other. -/
def collect (fields : Fields β) :
    List (Node × Node) → fields.Draft → Reading fields.Draft
  | [], draft => pure draft
  | (k, v) :: rest, draft => do
    let key ← (Codec.textAs "field identifier").read k
    match fields.take key v draft with
    | some r =>
      let draft' ← r
      collect fields rest draft'
    | Option.none =>
      pass v
      collect fields rest draft

/-- The record that a finished draft is. -/
def close (fields : Fields β) (draft : fields.Draft) : Reading β :=
  match fields.finish draft with
  | .ok b => pure b
  | .error key => fail (.missingField key)

end Fields

namespace Codec

/-- A record: a table with an entry for each field, under the name by which reports ask for it. -/
def record (name : String) (fields : Fields β) (make : β → α) (of : α → β) : Codec α where
  read node := do
    let expected := "struct " ++ name
    match ← resolve node with
    | .table es complete =>
      let draft ← fields.collect es fields.blank
      if complete then make <$> fields.close draft else fail .unreadable
    | .scalar s =>
      if s.hollow then make <$> fields.close fields.blank else fail (s.mismatch expected)
    | .list items complete =>
      if ← positional then
        let (b, left) ← fields.inOrder items complete
        if left.isEmpty && complete then pure (make b) else fail .unreadable
      else fail (.invalidType .list expected)
    | other => other.mismatch expected
  write a := .table (fields.write (of a))

end Codec

end Converge
