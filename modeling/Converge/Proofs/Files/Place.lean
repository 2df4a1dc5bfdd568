import Converge.Proofs.Files.Tree
/-!
# Places that paths name

Without links, the place that a path leads to can be read off its text and the directory from which
relative paths start (`Path.place`): a name goes down, two dots go up, and the rest says nothing.
What is there decides only whether the path leads to that place at all, for every place on the way
has to be a directory (`FileTree.Open`).

Main statements: `FileTree.walk_append_singleton_iff`, `Path.place_of_parent` and
`FileTree.locate_child`.
-/

namespace Converge

/-! ## 1. The place of a path -/

namespace Path

/-- The place to which a segment leads from a place. -/
def enter (place : FilePlace) (segment : String) : FilePlace :=
  if segment = "" || segment = "." then place
  else if segment = ".." then place.tail
  else segment :: place

/-- Whether a segment is a name. -/
structure IsName (s : String) : Prop where
  notEmpty : s ≠ ""
  notHere : s ≠ "."
  notUp : s ≠ ".."

instance (s : String) : Decidable (IsName s) :=
  decidable_of_iff (s ≠ "" ∧ s ≠ "." ∧ s ≠ "..")
    ⟨fun ⟨empty, here, up⟩ => ⟨empty, here, up⟩, fun h => ⟨h.notEmpty, h.notHere, h.notUp⟩⟩

/-- The place to which segments lead from a place. -/
def lead (place : FilePlace) (segments : List String) : FilePlace := segments.foldl enter place

/-- The place from which a path is walked, where relative paths start from `cwd`. -/
def origin (p : Path) (cwd : FilePlace) : FilePlace := if p.absolute then [] else cwd

/-- The place that a path names, where relative paths start from `cwd`. -/
def place (p : Path) (cwd : FilePlace) : FilePlace := lead (p.origin cwd) p.segments

variable {p q : Path} {cwd : FilePlace}

/-- Paths that start alike start from the same place. -/
theorem place_of_absolute_eq (h : q.absolute = p.absolute) (cwd : FilePlace) :
    q.place cwd = lead (p.origin cwd) q.segments := by
  rw [place, origin, h]
  rfl

@[simp] theorem lead_nil (here : FilePlace) : lead here [] = here := rfl

@[simp] theorem lead_cons (here : FilePlace) (s : String) (rest : List String) :
    lead here (s :: rest) = lead (enter here s) rest := rfl

@[simp] theorem lead_append (here : FilePlace) (front back : List String) :
    lead here (front ++ back) = lead (lead here front) back := List.foldl_append

/-- A name goes down. -/
theorem enter_name {s : String} (h : IsName s) (here : FilePlace) : enter here s = s :: here := by
  simp [enter, h.notEmpty, h.notHere, h.notUp]

theorem enter_of_isSilent {absolute : Bool} {before : List String} {s : String}
    (h : isSilent absolute before s) (here : FilePlace) : enter here s = here := by
  unfold isSilent at h
  refine if_pos ?_
  by_cases empty : s = ""
  · simp [empty]
  · simp_all

/-- Segments that say nothing lead nowhere. -/
theorem lead_trimmed (absolute : Bool) (here : FilePlace) : ∀ l : List String,
    lead here (trimmed absolute l).reverse = lead here l.reverse
  | [] => rfl
  | s :: before => by
    rw [trimmed]
    split
    next silent =>
      rw [lead_trimmed absolute here before, List.reverse_cons, lead_append, lead_cons, lead_nil,
        enter_of_isSilent silent]
    next => rfl

/-- What stands at the end of trimmed segments says something: it is no dot, unless it is all that
a relative path has. -/
theorem trimmed_head {absolute : Bool} {s : String} {before : List String} :
    ∀ {l : List String}, trimmed absolute l = s :: before →
      s ≠ "" ∧ (s = "." → absolute = false ∧ before = [])
  | [], h => nomatch h
  | s' :: before', h => by
    rw [trimmed] at h
    split at h
    next => exact trimmed_head h
    next said =>
      obtain ⟨rfl, rfl⟩ := List.cons.inj h
      simpa [isSilent] using said

/-- A path goes on from the one above it by one segment. -/
theorem place_of_parent (h : p.parent = some q) (cwd : FilePlace) :
    q.origin cwd = p.origin cwd ∧ ∃ s ∈ p.segments, p.place cwd = enter (q.place cwd) s ∧
      s ≠ "" ∧ (s = "." → p.absolute = false ∧ q.segments = []) := by
  unfold parent at h
  split at h
  · nomatch h
  next s before ht =>
    obtain rfl := Option.some.inj h
    obtain ⟨said, dot⟩ := trimmed_head ht
    have mem : s ∈ p.segments := by
      have := (trimmed_suffix p.absolute p.segments.reverse).subset (ht ▸ List.mem_cons_self)
      exact List.mem_reverse.1 this
    refine ⟨rfl, s, mem, ?_, said, fun hs => ?_⟩
    · have whole := lead_trimmed p.absolute (p.origin cwd) p.segments.reverse
      rw [ht, List.reverse_reverse, List.reverse_cons, lead_append] at whole
      have above := lead_trimmed p.absolute (p.origin cwd) before
      exact whole.symm.trans (congrArg (enter · s) above.symm)
    · obtain ⟨relative, rfl⟩ := dot hs
      exact ⟨relative, rfl⟩

/-- A path without a path above it says nothing. -/
theorem place_of_parent_none (h : p.parent = none) (cwd : FilePlace) :
    p.place cwd = p.origin cwd := by
  unfold parent at h
  split at h
  next ht =>
    have whole := lead_trimmed p.absolute (p.origin cwd) p.segments.reverse
    rw [ht, List.reverse_reverse] at whole
    exact whole.symm
  next => nomatch h

/-- A path with one more segment. -/
def below (p : Path) (name : String) : Path := { p with segments := p.segments ++ [name] }

/-- A path is continued by a name where it ends, a slash at its end apart. -/
theorem exists_child_eq (p : Path) (name : String) : ∃ front, front <+: p.segments ∧
    p.child name = below { p with segments := front } name ∧
      ∀ here, lead here front = lead here p.segments := by
  by_cases slash : p.segments.getLast? = some ""
  · obtain ⟨front, hf⟩ := List.getLast?_eq_some_iff.1 slash
    refine ⟨front, ⟨[""], hf.symm⟩, ?_, fun here => ?_⟩
    · simp [child, join, below, hf]
    · rw [hf, lead_append]
      rfl
  · exact ⟨p.segments, List.prefix_refl _, by simp [child, join, below, slash], fun _ => rfl⟩

/-! ## 2. The paths above -/

theorem ancestorsUpTo_succ : ∀ {n : Nat} {p : Path}, p.segments.length ≤ n →
    ancestorsUpTo (n + 1) p = ancestorsUpTo n p
  | 0, p, h => by
    have none : p.parent = none := by
      simp [parent, List.eq_nil_of_length_eq_zero (Nat.le_zero.1 h), trimmed]
    simp [ancestorsUpTo, none]
  | n + 1, p, h => by
    rw [ancestorsUpTo, ancestorsUpTo]
    cases hp : p.parent with
    | none => rfl
    | some above =>
      have shorter := parent_length_lt hp
      exact congrArg (p :: ·) (ancestorsUpTo_succ (by omega))

theorem ancestorsUpTo_eq {n : Nat} (h : p.segments.length ≤ n) :
    ancestorsUpTo n p = p.ancestors := by
  induction h with
  | refl => rfl
  | step h ih => rw [ancestorsUpTo_succ h, ih]

theorem ancestors_of_parent_none (h : p.parent = none) : p.ancestors = [p] := by
  rw [← ancestorsUpTo_eq (Nat.le_succ _), ancestorsUpTo, h]

/-- A path and those above it are the path, the one above it and those above that. -/
theorem ancestors_of_parent (h : p.parent = some q) : p.ancestors = p :: q.ancestors := by
  have shorter := parent_length_lt h
  rw [← ancestorsUpTo_eq (Nat.le_succ _), ancestorsUpTo, h]
  exact congrArg (p :: ·) (ancestorsUpTo_eq (by omega))

/-- The paths above begin as the path does. -/
theorem prefix_of_mem_ancestors {p q : Path} (h : q ∈ p.ancestors) :
    q.absolute = p.absolute ∧ q.segments <+: p.segments := by
  cases hp : p.parent with
  | none =>
    rw [ancestors_of_parent_none hp, List.mem_singleton] at h
    exact ⟨h ▸ rfl, h ▸ List.prefix_refl _⟩
  | some above =>
    have shorter := parent_length_lt hp
    rw [ancestors_of_parent hp] at h
    rcases List.mem_cons.1 h with rfl | h
    · exact ⟨rfl, List.prefix_refl _⟩
    · obtain ⟨absolute, s, rest, segments⟩ := segments_of_parent hp
      obtain ⟨ha, hs⟩ := prefix_of_mem_ancestors h
      exact ⟨ha.trans absolute, hs.trans (segments ▸ List.prefix_append _ _)⟩
termination_by p.segments.length

/-! ## 3. Segments that do not go up -/

/-- Without two dots, each segment stays where it is or goes down. -/
theorem enter_cases {s : String} (up : s ≠ "..") (here : FilePlace) :
    enter here s = here ∨ enter here s = s :: here := by
  by_cases silent : s = "" ∨ s = "."
  · exact .inl (if_pos (by simpa using silent))
  · obtain ⟨empty, dot⟩ := not_or.1 silent
    exact .inr (enter_name ⟨empty, dot, up⟩ here)

theorem length_le_lead : ∀ {segments : List String}, ".." ∉ segments → ∀ here : FilePlace,
    here.length ≤ (lead here segments).length
  | [], _, here => Nat.le_refl _
  | s :: rest, h, here => by
    obtain ⟨up, h⟩ := not_or.1 (fun hm => h (List.mem_cons.2 hm))
    have further := length_le_lead h (enter here s)
    rw [lead_cons]
    rcases enter_cases (Ne.symm up) here with he | he
    · rwa [he] at further ⊢
    · rw [he] at further ⊢
      exact Nat.le_of_succ_le further

end Path

/-! ## 4. What is on the way -/

namespace FileTree

open Converge.Path

variable {t u : FileTree} {p : Path} {here there : FilePlace}

/-- Whether there are directories at a place, at the place to which segments lead from it, and at
all places between. -/
def Open (t : FileTree) : FilePlace → List String → Prop
  | here, [] => t.entry? here = some .directory
  | here, s :: rest => t.entry? here = some .directory ∧ t.Open (enter here s) rest

theorem open_append : ∀ {front back : List String} {here : FilePlace},
    t.Open here (front ++ back) ↔ t.Open here front ∧ t.Open (lead here front) back
  | [], [], _ => by simp [Open]
  | [], _ :: _, _ => by simp [Open]
  | s :: front, back, here => by
    rw [List.cons_append, Open, Open, open_append, lead_cons, and_assoc]

theorem Open.front {front segments : List String} (h : t.Open here segments)
    (hf : front <+: segments) : t.Open here front := by
  obtain ⟨back, rfl⟩ := hf
  exact (open_append.1 h).1

theorem Open.directory : ∀ {segments : List String} {here : FilePlace}, t.Open here segments →
    t.entry? (lead here segments) = some .directory
  | [], _, h => h
  | _ :: _, _, h => h.2.directory

theorem open_iff_forall_front : ∀ {segments : List String} {here : FilePlace},
    t.Open here segments ↔
      ∀ front, front <+: segments → t.entry? (lead here front) = some .directory
  | [], here => by simp [Open]
  | s :: rest, here => by
    rw [Open, open_iff_forall_front]
    constructor
    · rintro ⟨directory, further⟩ (_ | ⟨s', front⟩) hf
      · exact directory
      · obtain ⟨rfl, back⟩ := List.cons_prefix_cons.1 hf
        exact further front back
    · intro h
      refine ⟨h [] List.nil_prefix, fun front hf => ?_⟩
      exact h (s :: front) (List.cons_prefix_cons.2 ⟨rfl, hf⟩)

theorem walk_cons_enter {s : String} {rest : List String}
    (h : t.entry? here = some .directory) :
    t.walk here (s :: rest) = t.walk (enter here s) rest := by
  rw [walk_cons_of_directory h, enter]
  split
  · rfl
  · split <;> rfl

theorem lead_of_walk : ∀ {segments : List String} {here : FilePlace},
    t.walk here segments = .ok there → there = lead here segments
  | [], _, h => (Except.ok.inj h).symm
  | s :: rest, here, h => by
    rw [walk_cons_enter (directory_of_walk_cons h)] at h
    rw [lead_cons]
    exact lead_of_walk h

/-- A walk gets to the last of its segments exactly when everything before it is a directory. -/
theorem walk_append_singleton_iff {s : String} : ∀ {front : List String} {here : FilePlace},
    t.walk here (front ++ [s]) = .ok there ↔
      t.Open here front ∧ there = enter (lead here front) s
  | [], here => by
    constructor
    · intro h
      exact ⟨directory_of_walk_cons h, lead_of_walk h⟩
    · rintro ⟨directory, rfl⟩
      exact walk_cons_enter directory
  | s' :: front, here => by
    by_cases directory : t.entry? here = some .directory
    · rw [List.cons_append, walk_cons_enter directory, walk_append_singleton_iff, Open,
        and_iff_right directory, lead_cons]
    · refine iff_of_false (fun h => directory (directory_of_walk_cons h)) ?_
      exact fun h => directory h.1.1

theorem at?_of_locate (h : t.locate p = .ok there) : t.at? p = t.entry? there := by
  rw [at?, h]

theorem at?_of_nowhere (h : ∀ there, t.locate p ≠ .ok there) : t.at? p = none := by
  rw [at?]
  split
  next there hl => exact absurd hl (h there)
  next => rfl

theorem exists_locate_of_at? {entry : FileEntry} (h : t.at? p = some entry) :
    ∃ there, t.locate p = .ok there ∧ t.entry? there = some entry := by
  rw [at?] at h
  cases hl : t.locate p with
  | error e => simp [hl] at h
  | ok there =>
    rw [hl] at h
    exact ⟨there, rfl, h⟩

/-- What is read depends on what the path leads to. -/
theorem read_congr {entry : FileEntry} (ht : t.at? p = some entry) (hu : u.at? p = some entry) :
    u.read p = t.read p := by
  obtain ⟨there, hl, he⟩ := exists_locate_of_at? ht
  obtain ⟨there', hl', he'⟩ := exists_locate_of_at? hu
  simp only [FileTree.read, hl, hl', he, he', bind, Except.bind]

/-- Where a path leads anywhere, it leads to the place that it names. -/
theorem place_of_locate (h : t.locate p = .ok there) : there = p.place t.start := by
  unfold locate at h
  split at h
  · nomatch h
  · exact lead_of_walk h

theorem open_iff_walk {segments : List String} : t.Open here segments ↔
    t.walk here segments = .ok (lead here segments) ∧
      t.entry? (lead here segments) = some .directory := by
  rcases List.eq_nil_or_concat segments with rfl | ⟨before, s, rfl⟩
  · exact ⟨fun h => ⟨rfl, h⟩, fun h => h.2⟩
  · rw [List.concat_eq_append, walk_append_singleton_iff, open_append, lead_append, Open, Open,
      lead_cons, lead_nil]
    constructor
    · rintro ⟨front, -, last⟩
      exact ⟨⟨front, rfl⟩, last⟩
    · rintro ⟨⟨front, -⟩, last⟩
      exact ⟨front, front.directory, last⟩

/-- A path leads to a directory exactly when it says something and everything on its way is a
directory. -/
theorem at?_eq_directory_iff : t.at? p = some .directory ↔
    p.isEmpty = false ∧ t.Open (p.origin t.start) p.segments := by
  unfold at? locate
  cases p.isEmpty with
  | true => simp
  | false =>
    rw [open_iff_walk]
    simp only [Bool.false_eq_true, if_false, true_and]
    constructor
    · intro h
      split at h
      next there hw =>
        obtain rfl := lead_of_walk hw
        exact ⟨hw, h⟩
      next => nomatch h
    · rintro ⟨hw, directory⟩
      unfold origin at hw directory
      rw [hw]
      exact directory

/-- A name after a path leads to its place there exactly when everything on the way is a
directory. -/
theorem locate_below_iff {name : String} (hn : IsName name) :
    t.locate (p.below name) = .ok there ↔
      t.Open (p.origin t.start) p.segments ∧ there = name :: p.place t.start := by
  have said : (p.below name).isEmpty = false := by simp [isEmpty, below]
  rw [locate, said, below]
  refine walk_append_singleton_iff.trans ?_
  rw [enter_name hn]
  rfl

/-- A name in a directory leads to its place there. -/
theorem locate_child {name : String} (hn : IsName name)
    (h : t.Open (p.origin t.start) p.segments) :
    t.locate (p.child name) = .ok (name :: p.place t.start) := by
  obtain ⟨front, hf, child, same⟩ := p.exists_child_eq name
  rw [child, locate_below_iff hn]
  exact ⟨h.front hf, congrArg (name :: ·) (same (p.origin t.start)).symm⟩

/-! ## 5. File systems that are trees -/

/-- Whether whatever is in a file system is in a directory. -/
def Grounded (t : FileTree) : Prop :=
  ∀ name above entry, t.entry? (name :: above) = some entry → t.entry? above = some .directory

theorem grounded_of_entries (h : ∀ e ∈ t.entries, t.entry? e.1.tail = some .directory) :
    t.Grounded := by
  intro name above entry found
  have listed : t.entries.lookup (name :: above) = some entry := found
  obtain ⟨before, after, entries, -⟩ := List.lookup_eq_some_iff.1 listed
  exact h (name :: above, entry) (entries ▸ List.mem_append_right _ List.mem_cons_self)

/-- Without two dots, everything on the way to a directory is a directory. -/
theorem Grounded.opens (h : t.Grounded) : ∀ {segments : List String} {here : FilePlace},
    ".." ∉ segments → t.entry? (lead here segments) = some .directory → t.Open here segments
  | [], _, _, directory => directory
  | s :: rest, here, noUp, directory => by
    obtain ⟨up, noUp⟩ := not_or.1 (fun hm => noUp (List.mem_cons.2 hm))
    have further := h.opens noUp directory
    have next : t.entry? (enter here s) = some .directory := by
      cases rest with
      | nil => exact further
      | cons _ _ => exact further.1
    refine ⟨?_, further⟩
    rcases enter_cases (Ne.symm up) here with he | he
    · rwa [he] at next
    · exact h s here _ (he ▸ next)

end FileTree

end Converge
