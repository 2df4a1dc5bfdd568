/-!
# Paths

A path is written as names between slashes.  `Path` keeps every segment, the empty ones and the
dots included, so that a path is always shown the way it was written.  The operations that look for
its last component pass over the segments that say nothing (`isSilent`): the empty ones, and the
dots that do not begin a relative path.

Main statement: `text_ofText`, a path is shown as it was written.
-/

namespace Converge

/-- A path: whether it starts at the root, and the segments between its slashes. -/
structure Path where
  absolute : Bool
  segments : List String
  deriving DecidableEq, Repr, Inhabited

namespace Path

/-! ## 1. Text -/

/-- The pieces of a text between its slashes. -/
def pieces : List Char → List (List Char)
  | [] => [[]]
  | c :: rest =>
    if c = '/' then [] :: pieces rest
    else
      match pieces rest with
      | [] => [[c]]
      | piece :: others => (c :: piece) :: others

/-- Pieces with slashes between them. -/
def slashed : List (List Char) → List Char
  | [] => []
  | [piece] => piece
  | piece :: others => piece ++ '/' :: slashed others

/-- The segments of a text. -/
def segmentsOf : List Char → List String
  | [] => []
  | cs => (pieces cs).map String.ofList

/-- The path that a text is. -/
def ofText (text : String) : Path :=
  match text.toList with
  | '/' :: rest => ⟨true, segmentsOf rest⟩
  | cs => ⟨false, segmentsOf cs⟩

/-- A path as it is shown. -/
def text (p : Path) : String :=
  String.ofList ((if p.absolute then ['/'] else []) ++ slashed (p.segments.map String.toList))

theorem pieces_ne_nil (cs : List Char) : pieces cs ≠ [] := by
  cases cs with
  | nil => simp [pieces]
  | cons c rest =>
    simp only [pieces]
    split
    · simp
    · split <;> simp

theorem slashed_pieces (cs : List Char) : slashed (pieces cs) = cs := by
  induction cs with
  | nil => rfl
  | cons c rest ih =>
    simp only [pieces]
    cases hp : pieces rest with
    | nil => exact absurd hp (pieces_ne_nil rest)
    | cons piece others =>
      rw [hp] at ih
      split
      next h => simp [slashed, ih, h]
      next h =>
        cases others with
        | nil => exact congrArg (c :: ·) ih
        | cons next more => exact congrArg (c :: ·) ih

theorem slashed_segmentsOf (cs : List Char) :
    slashed ((segmentsOf cs).map String.toList) = cs := by
  cases cs with
  | nil => rfl
  | cons c rest =>
    have : (String.toList ∘ String.ofList) = id := by funext l; simp
    simp [segmentsOf, this, slashed_pieces]

/-- A path is shown as it was written. -/
theorem text_ofText (t : String) : (ofText t).text = t := by
  unfold ofText
  split
  next rest h => simp [text, slashed_segmentsOf, ← h]
  next h => simp [text, slashed_segmentsOf]

/-! ## 2. The last segments -/

/-- Whether a segment says nothing where `before` are the segments before it. -/
def isSilent (absolute : Bool) (before : List String) (segment : String) : Bool :=
  segment = "" || (segment = "." && (absolute || !before.isEmpty))

/-- Segments, the last one first, up to the last one that says something. -/
def trimmed (absolute : Bool) : List String → List String
  | [] => []
  | s :: before => if isSilent absolute before s then trimmed absolute before else s :: before

/-- A path with nothing in it. -/
def isEmpty (p : Path) : Bool := !p.absolute && p.segments.isEmpty

/-- The path without its last component; the root and the empty path have none. -/
def parent (p : Path) : Option Path :=
  match trimmed p.absolute p.segments.reverse with
  | [] => none
  | _ :: before => some { p with segments := (trimmed p.absolute before).reverse }

/-- The last component, if it is a name. -/
def fileName (p : Path) : Option String :=
  match trimmed p.absolute p.segments.reverse with
  | [] => none
  | s :: _ => if s = "." || s = ".." then none else some s

/-- What stands before the last dot, unless there is none or nothing stands before it. -/
def stemOf (name : List Char) : List Char :=
  match name.reverse.dropWhile (· ≠ '.') with
  | _ :: [] => name
  | _ :: before => before.reverse
  | [] => name

/-- The last component without its extension. -/
def fileStem (p : Path) : Option String :=
  p.fileName.map fun name => String.ofList (stemOf name.toList)

/-- The path with another extension. -/
def withExtension (p : Path) (extension : String) : Path :=
  match p.fileStem, trimmed p.absolute p.segments.reverse with
  | some stem, _ :: before =>
    { p with segments := before.reverse ++ [stem ++ "." ++ extension] }
  | _, _ => p

/-- One path continued by another; a path from the root stands for itself. -/
def join (p q : Path) : Path :=
  if q.absolute then q
  else
    let front := if p.segments.getLast? = some "" then p.segments.dropLast else p.segments
    if q.segments.isEmpty && (p.absolute || !p.segments.isEmpty) then
      { p with segments := if front.isEmpty then [] else front ++ [""] }
    else { p with segments := front ++ q.segments }

/-- A path continued by one name. -/
def child (p : Path) (name : String) : Path := p.join ⟨false, [name]⟩

/-- A path and the paths above it, as many as there are, but no more than a number of them. -/
def ancestorsUpTo : Nat → Path → List Path
  | 0, p => [p]
  | n + 1, p =>
    p :: match p.parent with
      | none => []
      | some above => ancestorsUpTo n above

/-- A path and the paths above it. -/
def ancestors (p : Path) : List Path := ancestorsUpTo p.segments.length p

theorem trimmed_length_le (absolute : Bool) (l : List String) :
    (trimmed absolute l).length ≤ l.length := by
  induction l with
  | nil => simp [trimmed]
  | cons s before ih =>
    simp only [trimmed]
    split
    · simp only [List.length_cons]; omega
    · simp

/-- The path above is shorter. -/
theorem parent_length_lt {p q : Path} (h : p.parent = some q) :
    q.segments.length < p.segments.length := by
  unfold parent at h
  have hl := trimmed_length_le p.absolute p.segments.reverse
  cases ht : trimmed p.absolute p.segments.reverse with
  | nil => rw [ht] at h; simp at h
  | cons s before =>
    rw [ht] at h hl
    simp only [Option.some.injEq] at h
    subst h
    have := trimmed_length_le p.absolute before
    simp only [List.length_cons, List.length_reverse] at hl ⊢
    omega

end Path

end Converge
