import Converge.Files.Tree
/-!
# Files and the directories on the way to them

Which place a path leads to depends on the directories alone, so it stays the same while files are
written, moved and removed (`SameDirectories`).  A path that leads to a place where a file can
stand (`Takes`) therefore leads there for good, and the directory above it is there.

Main statements: `write_of_takes`, `rename_of_takes` and `at?_parent_of_locate`.
-/

namespace Converge

namespace FileTree

variable {t u : FileTree} {p : Path} {place here there : FilePlace} {entry : FileEntry}

/-! ## 1. Places -/

theorem lookup_filter_place (place place' : FilePlace) (l : List (FilePlace × FileEntry)) :
    (l.filter fun e => e.1 ≠ place).lookup place' =
      if place' = place then none else l.lookup place' := by
  induction l with
  | nil => simp
  | cons e l ih =>
    obtain ⟨k, a⟩ := e
    by_cases hk : k = place
    · rw [List.filter_cons_of_neg (by simpa using hk), ih]
      by_cases hp : place' = place
      · simp [hp]
      · have : (place' == k) = false := by simpa [hk] using hp
        simp [hp, List.lookup_cons, this]
    · rw [List.filter_cons_of_pos (by simpa using hk)]
      by_cases hp : place' = k
      · simp [hp, hk]
      · have : (place' == k) = false := by simpa using hp
        rw [List.lookup_cons, this, ih, List.lookup_cons, this]

theorem entry?_erase (h : place ≠ []) (place' : FilePlace) :
    FileTree.entry? (t.erase place) place' = if place' = place then none else t.entry? place' := by
  cases place' with
  | nil => simp [ entry?, h.symm]
  | cons s above => exact lookup_filter_place place (s :: above) t.entries

theorem entry?_put (h : place ≠ []) (place' : FilePlace) :
    FileTree.entry? (t.put place entry) place' =
      if place' = place then some entry else t.entry? place' := by
  cases place' with
  | nil => simp [ entry?, h.symm]
  | cons s above =>
    have found := lookup_filter_place place (s :: above) t.entries
    have entries : FileTree.entry? (t.put place entry) (s :: above) =
        ((t.entries.filter fun e => e.1 ≠ place) ++ [(place, entry)]).lookup (s :: above) := rfl
    rw [entries, List.lookup_append, found]
    by_cases hp : s :: above = place
    · simp [hp]
    · have : (s :: above == place) = false := by simpa using hp
      simp [hp, List.lookup_cons, this, entry?]

/-- Whether two file systems have the same directories, and start from the same. -/
structure SameDirectories (t u : FileTree) : Prop where
  start : u.start = t.start
  directories : ∀ place, u.entry? place = some .directory ↔ t.entry? place = some .directory

theorem SameDirectories.trans {v : FileTree} (h : t.SameDirectories u) (h' : u.SameDirectories v) :
    t.SameDirectories v :=
  ⟨h'.start.trans h.start, fun place => (h'.directories place).trans (h.directories place)⟩

theorem walk_cons_of_directory {s : String} {rest : List String}
    (h : t.entry? place = some .directory) : t.walk place (s :: rest) =
      if s = "" || s = "." then t.walk place rest
      else if s = ".." then t.walk place.tail rest
      else t.walk (s :: place) rest := by
  rw [walk, h]

theorem directory_of_walk_cons {s : String} {rest : List String}
    (h : t.walk place (s :: rest) = .ok there) : t.entry? place = some .directory := by
  rw [walk] at h
  split at h
  · nomatch h
  · nomatch h
  · assumption

theorem SameDirectories.walk (h : t.SameDirectories u) : ∀ {segments : List String}
    {place : FilePlace}, t.walk place segments = .ok there → u.walk place segments = .ok there
  | [], _, hw => hw
  | s :: rest, place, hw => by
    have directory := directory_of_walk_cons hw
    rw [walk_cons_of_directory directory] at hw
    rw [walk_cons_of_directory ((h.directories place).2 directory)]
    split
    next hs =>
      rw [if_pos hs] at hw
      exact h.walk hw
    next hs =>
      rw [if_neg hs] at hw
      split
      next hu =>
        rw [if_pos hu] at hw
        exact h.walk hw
      next hu =>
        rw [if_neg hu] at hw
        exact h.walk hw

theorem SameDirectories.locate (h : t.SameDirectories u) (hl : t.locate p = .ok place) :
    u.locate p = .ok place := by
  unfold FileTree.locate at hl ⊢
  split
  next he =>
    rw [if_pos he] at hl
    nomatch hl
  next he =>
    rw [if_neg he] at hl
    rw [h.start]
    exact h.walk hl

/-- Files that are put or taken away where no directory is leave the directories as they are. -/
theorem sameDirectories_put (h : t.entry? place ≠ some .directory) (content : FileContent) :
    t.SameDirectories (t.put place (.file content)) := by
  have root : place ≠ [] := fun hr => h (hr ▸ rfl)
  refine ⟨rfl, fun place' => ?_⟩
  rw [entry?_put root]
  by_cases hp : place' = place
  · simp [hp, h]
  · rw [if_neg hp]

theorem sameDirectories_erase (h : t.entry? place ≠ some .directory) :
    t.SameDirectories (t.erase place) := by
  have root : place ≠ [] := fun hr => h (hr ▸ rfl)
  refine ⟨rfl, fun place' => ?_⟩
  rw [entry?_erase root]
  by_cases hp : place' = place
  · simp [hp, h]
  · rw [if_neg hp]

/-! ## 2. Files -/

/-- Whether a path leads to a place where a file can stand. -/
def Takes (t : FileTree) (p : Path) : Prop :=
  ∃ place, t.locate p = .ok place ∧ t.entry? place ≠ some .directory

theorem SameDirectories.takes (h : t.SameDirectories u) (ht : t.Takes p) : u.Takes p := by
  obtain ⟨place, hl, hd⟩ := ht
  exact ⟨place, h.locate hl, fun hu => hd ((h.directories place).1 hu)⟩

theorem read_of_at? {text : String} (h : t.at? p = some (.file (.text text))) :
    t.read p = .ok text := by
  unfold at? at h
  cases hl : t.locate p with
  | error e => simp [hl] at h
  | ok place =>
    simp only [hl] at h
    simp only [read, hl, bind, Except.bind, h]

/-- A text is written where a file can stand. -/
theorem write_of_takes (h : t.Takes p) (text : String) : ∃ u, t.write p text = (.ok (), u) ∧
    t.SameDirectories u ∧ u.at? p = some (.file (.text text)) := by
  obtain ⟨place, hl, hd⟩ := h
  have same := sameDirectories_put hd (.text text)
  have root : place ≠ [] := fun hr => hd (hr ▸ rfl)
  refine ⟨t.put place (.file (.text text)), ?_, same, ?_⟩
  · simp only [write, change, hl]
  · simp only [at?, same.locate hl, entry?_put root, if_true]

/-- A file is moved to where a file can stand. -/
theorem rename_of_takes {source target : Path} {content : FileContent} (hs : t.Takes source)
    (ht : t.Takes target) (hf : t.at? source = some (.file content)) :
    ∃ u, t.rename source target = (.ok (), u) ∧ t.SameDirectories u ∧
      u.at? target = some (.file content) := by
  obtain ⟨here, hl, hd⟩ := hs
  obtain ⟨there, hl', hd'⟩ := ht
  have found : t.entry? here = some (.file content) := by simpa [at?, hl] using hf
  have erased := sameDirectories_erase hd
  have hd'' : FileTree.entry? (t.erase here) there ≠ some .directory :=
    fun h => hd' ((erased.directories there).1 h)
  have root : there ≠ [] := fun hr => hd' (hr ▸ rfl)
  have same := erased.trans (sameDirectories_put hd'' content)
  refine ⟨(t.erase here).put there (.file content), ?_, same, ?_⟩
  · simp only [rename, hl, hl', found]
  · simp only [at?, same.locate hl', entry?_put root, if_true]

/-! ## 3. The directory above -/

theorem walk_append : ∀ {front back : List String} {place : FilePlace},
    t.walk place (front ++ back) = .ok there →
    ∃ middle, t.walk place front = .ok middle ∧ t.walk middle back = .ok there
  | [], _, place, h => ⟨place, rfl, h⟩
  | s :: front, back, place, h => by
    have directory := directory_of_walk_cons h
    rw [List.cons_append, walk_cons_of_directory directory] at h
    rw [walk_cons_of_directory directory]
    split
    next hs =>
      rw [if_pos hs] at h
      exact walk_append h
    next hs =>
      rw [if_neg hs] at h
      split
      next hu =>
        rw [if_pos hu] at h
        exact walk_append h
      next hu =>
        rw [if_neg hu] at h
        exact walk_append h

end FileTree

theorem Path.trimmed_suffix (absolute : Bool) : ∀ l : List String,
    trimmed absolute l <:+ l
  | [] => List.nil_suffix
  | s :: before => by
    unfold trimmed
    split
    · exact (trimmed_suffix absolute before).trans (List.suffix_cons ..)
    · exact List.suffix_refl _

/-- The segments of the path above are the beginning of a path. -/
theorem Path.segments_of_parent {p above : Path} (h : p.parent = some above) :
    above.absolute = p.absolute ∧ ∃ s rest, p.segments = above.segments ++ s :: rest := by
  unfold parent at h
  obtain ⟨silent, hs⟩ := trimmed_suffix p.absolute p.segments.reverse
  split at h
  · nomatch h
  next s before ht =>
    obtain rfl := Option.some.inj h
    obtain ⟨silent', hb⟩ := trimmed_suffix p.absolute before
    refine ⟨rfl, ?_⟩
    have whole : p.segments =
        (trimmed p.absolute before).reverse ++ (silent'.reverse ++ s :: silent.reverse) := by
      rw [ht, ← hb] at hs
      rw [← List.reverse_reverse p.segments, ← hs]
      simp
    cases hr : silent'.reverse with
    | nil => exact ⟨s, _, by rw [whole, hr]; rfl⟩
    | cons s' rest => exact ⟨s', rest ++ s :: silent.reverse, by rw [whole, hr]; rfl⟩

/-- The directory above a path that leads somewhere is there. -/
theorem FileTree.at?_parent_of_locate {t : FileTree} {p above : Path} {place : FilePlace}
    (h : t.locate p = .ok place) (hp : p.parent = some above) (he : above.isEmpty = false) :
    t.at? above = some .directory := by
  obtain ⟨absolute, s, rest, segments⟩ := Path.segments_of_parent hp
  unfold locate at h
  split at h
  · nomatch h
  · rw [segments] at h
    obtain ⟨middle, hm, hw⟩ := walk_append h
    have found : t.locate above = .ok middle := by
      rw [locate, he, absolute]
      exact hm
    rw [at?, found]
    exact directory_of_walk_cons hw

end Converge
