import Mathlib.Data.List.Infix
import Mathlib.Data.Option.Basic
import Converge.Config.Discovery
import Converge.Proofs.Files.Place
import Converge.Proofs.Ledger.Store
/-!
# Where a configuration is found

The search for a configuration goes up the text of a path.  The directories in which it looks
(`Path.searched`) are those that the path and the paths above it name, so the search gets as far
as the text does: from a relative path without two dots it looks no higher than the directory from
which relative paths start, and from a path with two dots it also looks in the directories that
the dots leave.  `Path.Climbs` says that it looks in the start directory and all above it, nearest
first, and in no others.

Main statements: `FileTree.findsIn_searched` and `nearest_found_iff_climbs`.
-/

namespace Converge

/-! ## 1. The first element that is found -/

section

variable {α β : Type}

theorem findSome?_filter_of_none {p : α → Bool} {g : α → Option β}
    (h : ∀ b, p b = false → g b = none) : ∀ l : List α, (l.filter p).findSome? g = l.findSome? g
  | [] => rfl
  | b :: l => by
    cases hb : p b with
    | true => rw [List.filter_cons_of_pos hb, List.findSome?_cons, List.findSome?_cons,
        findSome?_filter_of_none h l]
    | false => rw [List.filter_cons_of_neg (by simp [hb]), findSome?_filter_of_none h l,
        List.findSome?_cons, h b hb]

variable [BEq α] [LawfulBEq α]

theorem eraseDups_cons_of_notMem {a : α} {l : List α} (h : a ∉ l) :
    (a :: l).eraseDups = a :: l.eraseDups := by
  rw [List.eraseDups_cons, List.filter_eq_self.2]
  intro b hb
  simpa using fun hba : b = a => h (hba ▸ hb)

/-- What is found first does not depend on what is looked at again. -/
theorem findSome?_eraseDups (g : α → Option β) : ∀ l : List α,
    l.eraseDups.findSome? g = l.findSome? g
  | [] => rfl
  | a :: l => by
    rw [List.eraseDups_cons, List.findSome?_cons, List.findSome?_cons]
    cases ha : g a with
    | some b => rfl
    | none =>
      have again : ∀ b, (!b == a) = false → g b = none := by
        intro b hb
        obtain rfl : b = a := by simpa using hb
        exact ha
      simp only
      rw [findSome?_eraseDups g (l.filter fun b => !b == a), findSome?_filter_of_none again]
termination_by l => l.length
decreasing_by exact Nat.lt_succ_of_le (List.length_filter_le _ _)

/-- Lists in which the same is found first, whatever is looked for, are the same up to
repetitions. -/
theorem eraseDups_eq_of_find? : ∀ {l l' : List α},
    (∀ p : α → Bool, l.find? p = l'.find? p) → l.eraseDups = l'.eraseDups
  | [], [], _ => rfl
  | [], b :: _, h => nomatch h fun _ => true
  | a :: _, [], h => nomatch h fun _ => true
  | a :: l, b :: l', h => by
    obtain rfl : a = b := Option.some.inj (h fun _ => true)
    rw [List.eraseDups_cons, List.eraseDups_cons]
    refine congrArg (a :: ·) (eraseDups_eq_of_find? fun p => ?_)
    have rest := h fun b => decide ((!b == a) = true ∧ p b = true)
    rw [List.find?_cons_of_neg (by simp), List.find?_cons_of_neg (by simp)] at rest
    rwa [List.find?_filter, List.find?_filter]
termination_by l => l.length
decreasing_by exact Nat.lt_succ_of_le (List.length_filter_le _ _)

end

/-! ## 2. The directories of a search -/

namespace Path

/-- The directories in which the search for a configuration looks, in its order, where relative
paths start from `cwd`. -/
def searched (start : Path) (cwd : FilePlace) : List FilePlace :=
  start.ancestors.map fun dir => dir.place cwd

/-- Whether the search looks in the start directory and then in those above it up to the root,
whatever it looks at again. -/
def Climbs (start : Path) (cwd : FilePlace) : Prop :=
  (start.searched cwd).eraseDups = (start.place cwd).tails

instance (start : Path) (cwd : FilePlace) : Decidable (start.Climbs cwd) :=
  inferInstanceAs (Decidable (_ = _))

variable {p q start : Path} {cwd : FilePlace}

theorem searched_of_parent (h : p.parent = some q) (cwd : FilePlace) :
    p.searched cwd = p.place cwd :: q.searched cwd := by
  rw [searched, ancestors_of_parent h]
  rfl

theorem searched_of_parent_none (h : p.parent = none) (cwd : FilePlace) :
    p.searched cwd = [p.origin cwd] := by
  rw [searched, ancestors_of_parent_none h, ← place_of_parent_none h cwd]
  rfl

/-- A directory is not among itself and those above the one above it. -/
theorem notMem_of_suffix {name : String} {here : FilePlace} {l : List FilePlace}
    (h : ∀ dir ∈ l, dir <:+ here) : name :: here ∉ l := fun hm => by
  exact absurd (h _ hm).length_le (Nat.not_succ_le_self _)

theorem eraseDups_tails : ∀ here : FilePlace, here.tails.eraseDups = here.tails
  | [] => rfl
  | name :: here => by
    rw [List.tails_cons, eraseDups_cons_of_notMem, eraseDups_tails here]
    exact notMem_of_suffix fun dir hd => (List.mem_tails _ _).1 hd

/-- Without two dots the search climbs to where it started from, and no further. -/
theorem searched_up_to_origin {p : Path} (noUp : ".." ∉ p.segments) (cwd : FilePlace) :
    (p.searched cwd).eraseDups ++ (p.origin cwd).tails.tail = (p.place cwd).tails := by
  cases hp : p.parent with
  | none =>
    rw [searched_of_parent_none hp, place_of_parent_none hp, eraseDups_cons_of_notMem (by simp)]
    cases p.origin cwd <;> rfl
  | some q =>
    have shorter := parent_length_lt hp
    obtain ⟨_, _, _, segments⟩ := segments_of_parent hp
    have noUp' : ".." ∉ q.segments := fun hm => noUp (segments ▸ List.mem_append_left _ hm)
    have above := searched_up_to_origin noUp' cwd
    obtain ⟨origin, s, mem, place, said, dot⟩ := place_of_parent hp cwd
    rw [searched_of_parent hp, ← origin]
    by_cases hs : s = "."
    · -- a dot is all that there is of a relative path, and nothing is above it
      obtain ⟨-, empty⟩ := dot hs
      have top : q.parent = none := by simp [parent, empty, trimmed]
      have same : p.place cwd = q.place cwd := by simp [place, enter, hs]
      have alone := searched_of_parent_none top cwd
      rw [← place_of_parent_none top] at alone
      rw [alone, eraseDups_cons_of_notMem (by simp)] at above
      rw [same, alone, List.eraseDups_cons]
      simpa using above
    · have down : p.place cwd = s :: q.place cwd := by
        rw [place, enter_name ⟨said, hs, fun hu => noUp (hu ▸ mem)⟩]
      have under : ∀ dir ∈ q.searched cwd, dir <:+ q.place cwd := by
        intro dir hd
        rw [← List.mem_tails, ← above]
        exact List.mem_append_left _ (List.mem_eraseDups.2 hd)
      rw [down, eraseDups_cons_of_notMem (notMem_of_suffix under), List.tails_cons, ← above]
      rfl
termination_by p.segments.length

/-- Without two dots the search climbs to the root exactly from where the path starts at it. -/
theorem climbs_iff_origin (noUp : ".." ∉ p.segments) (cwd : FilePlace) :
    p.Climbs cwd ↔ p.origin cwd = [] := by
  have whole := searched_up_to_origin noUp cwd
  unfold Climbs
  constructor
  · intro climbs
    rw [climbs, List.append_right_eq_self] at whole
    cases ho : p.origin cwd with
    | nil => rfl
    | cons name above =>
      rw [ho, List.tails_cons] at whole
      cases above <;> nomatch whole
  · intro root
    simpa [root] using whole

end Path

/-! ## 3. What the search finds -/

namespace FileTree

variable {t : FileTree} {start : Path} {dirs : List FilePlace}

/-- The configuration in a directory: whatever is there under the first of the names. -/
def configIn (t : FileTree) (dir : FilePlace) : Option FilePlace :=
  (configNames.map (· :: dir)).find? fun place => (t.entry? place).isSome

/-- Whether the search finds the configuration of the first of some directories that has one, and
reports that there is none when they have none. -/
def FindsIn (t : FileTree) (start : Path) (dirs : List FilePlace) : Prop :=
  match dirs.findSome? t.configIn with
  | some place => ∃ p, t.on (ConfigFile.find start) = (some (.ok p), t) ∧ t.locate p = .ok place
  | none => t.on (ConfigFile.find start) =
      (some (.error (.config (.fileNotFound (start.join (Path.ofText "apprun.yaml")).text))), t)

/-- Whether the search finds the configuration that is nearest to where it starts: in the start
directory, or else in the first directory above it that has one. -/
def FindsNearest (t : FileTree) (start : Path) : Prop :=
  ∃ here, t.locate start = .ok here ∧ t.FindsIn start here.tails

theorem on_firstPresent (t : FileTree) : ∀ ps : List Path, t.on (ConfigFile.firstPresent ps) =
    (some (.ok (ps.find? fun p => (t.at? p).isSome)), t)
  | [] => rfl
  | p :: rest => by
    rw [ConfigFile.firstPresent, on_bind on_isPresent, List.find?_cons]
    cases (t.at? p).isSome with
    | true => rfl
    | false => exact on_firstPresent t rest

theorem on_find (t : FileTree) (start : Path) : t.on (ConfigFile.find start) =
    (some (match (ConfigFile.candidates start).find? fun p => (t.at? p).isSome with
      | some p => .ok p
      | none => .error (.config (.fileNotFound (start.join (Path.ofText "apprun.yaml")).text))),
      t) := by
  rw [ConfigFile.find, on_bind (on_firstPresent t _)]
  cases (ConfigFile.candidates start).find? fun p => (t.at? p).isSome <;> rfl

/-- Of paths that lead to places, the first one that is present leads to the first place where
something is. -/
theorem rel_find? {ps : List Path} {places : List FilePlace}
    (h : List.Forall₂ (fun p place => t.locate p = .ok place) ps places) :
    Option.Rel (fun p place => t.locate p = .ok place)
      (ps.find? fun p => (t.at? p).isSome) (places.find? fun place => (t.entry? place).isSome) := by
  induction h with
  | nil => exact .none
  | @cons p place ps places located _ ih =>
    rw [List.find?_cons, List.find?_cons, at?_of_locate located]
    cases (t.entry? place).isSome with
    | true => exact .some located
    | false => exact ih

theorem isName_of_mem_configNames {name : String} (h : name ∈ configNames) :
    Path.IsName name := by
  revert name
  decide

/-- Where a path leads to a directory, so do those above it, and the paths that are tried lead to
their names in these directories. -/
theorem located_candidates (h : t.at? start = some .directory) :
    List.Forall₂ (fun p place => t.locate p = .ok place) (ConfigFile.candidates start)
      ((start.searched t.start).flatMap fun dir => configNames.map (· :: dir)) := by
  obtain ⟨-, way⟩ := at?_eq_directory_iff.1 h
  rw [ConfigFile.candidates, Path.searched, List.flatMap_map]
  have each : ∀ dir ∈ start.ancestors, List.Forall₂ (fun p place => t.locate p = .ok place)
      (configNames.map dir.child) (configNames.map (· :: dir.place t.start)) := by
    intro dir hd
    obtain ⟨absolute, front⟩ := Path.prefix_of_mem_ancestors hd
    have openDir : t.Open (dir.origin t.start) dir.segments := by
      rw [Path.origin, absolute]
      exact way.front front
    rw [List.forall₂_map_left_iff, List.forall₂_map_right_iff, List.forall₂_same]
    intro name hn
    exact locate_child (isName_of_mem_configNames hn) openDir
  generalize start.ancestors = above at each
  induction above with
  | nil => exact .nil
  | cons dir above ih =>
    rw [List.flatMap_cons, List.flatMap_cons]
    exact List.rel_append (each dir List.mem_cons_self)
      (ih fun dir' hd => each dir' (List.mem_cons_of_mem _ hd))

/-- **The search finds the first configuration in the directories that the path and those above it
name.** -/
theorem findsIn_searched (h : t.at? start = some .directory) :
    t.FindsIn start (start.searched t.start) := by
  have found := rel_find? (located_candidates h)
  rw [List.find?_flatMap] at found
  unfold FindsIn
  rw [on_find]
  change Option.Rel _ _ ((start.searched t.start).findSome? t.configIn) at found
  generalize (start.searched t.start).findSome? t.configIn = place at found ⊢
  generalize (ConfigFile.candidates start).find? (fun p => (t.at? p).isSome) = first at found ⊢
  cases found with
  | none => rfl
  | some located => exact ⟨_, rfl, located⟩

/-- The search finds one thing. -/
theorem FindsIn.unique {dirs' : List FilePlace} (h : t.FindsIn start dirs)
    (h' : t.FindsIn start dirs') : dirs.findSome? t.configIn = dirs'.findSome? t.configIn := by
  unfold FindsIn at h h'
  cases ho : dirs.findSome? t.configIn with
  | none =>
    rw [ho] at h
    cases ho' : dirs'.findSome? t.configIn with
    | none => rfl
    | some place' =>
      rw [ho'] at h'
      obtain ⟨p', found', -⟩ := h'
      simp [h] at found'
  | some place =>
    rw [ho] at h
    obtain ⟨p, found, located⟩ := h
    cases ho' : dirs'.findSome? t.configIn with
    | none =>
      rw [ho'] at h'
      simp [h'] at found
    | some place' =>
      rw [ho'] at h'
      obtain ⟨p', found', located'⟩ := h'
      obtain rfl : p = p' := by simpa [found] using found'
      rw [Except.ok.inj (located.symm.trans located')]

theorem FindsIn.congr {dirs' : List FilePlace} (h : t.FindsIn start dirs)
    (same : dirs.findSome? t.configIn = dirs'.findSome? t.configIn) : t.FindsIn start dirs' := by
  unfold FindsIn at h ⊢
  rwa [← same]

/-- The nearest configuration is found exactly when it is the first one in the directories in which
the search looks. -/
theorem findsNearest_iff (h : t.at? start = some .directory) : t.FindsNearest start ↔
    (start.searched t.start).findSome? t.configIn =
      (start.place t.start).tails.findSome? t.configIn := by
  have found := findsIn_searched h
  constructor
  · rintro ⟨here, located, nearest⟩
    rw [← place_of_locate located]
    exact found.unique nearest
  · intro same
    obtain ⟨said, way⟩ := at?_eq_directory_iff.1 h
    refine ⟨start.place t.start, ?_, found.congr same⟩
    rw [locate, said]
    exact (open_iff_walk.1 way).1

end FileTree

/-! ## 4. File systems in which a search shows -/

namespace Path

variable {start : Path} {cwd place : FilePlace}

/-- The places to which the beginnings of a path lead, the directory from which relative paths
start, and all places above these. -/
def onWay (start : Path) (cwd : FilePlace) : List FilePlace :=
  (cwd :: start.segments.inits.map (lead (start.origin cwd))).flatMap List.tails

theorem mem_onWay : place ∈ start.onWay cwd ↔ place <:+ cwd ∨
    ∃ front, front <+: start.segments ∧ place <:+ lead (start.origin cwd) front := by
  simp only [onWay, List.flatMap_cons, List.mem_append, List.mem_flatMap, List.mem_map,
    List.mem_inits, List.mem_tails, exists_exists_and_eq_and]

theorem onWay_of_suffix {above : FilePlace} (h : place ∈ start.onWay cwd)
    (hs : above <:+ place) : above ∈ start.onWay cwd := by
  rcases mem_onWay.1 h with h | ⟨front, hf, h⟩
  · exact mem_onWay.2 (.inl (hs.trans h))
  · exact mem_onWay.2 (.inr ⟨front, hf, hs.trans h⟩)

theorem searched_subset_onWay : start.searched cwd ⊆ start.onWay cwd := by
  intro place h
  obtain ⟨dir, hd, rfl⟩ := List.mem_map.1 h
  obtain ⟨absolute, front⟩ := prefix_of_mem_ancestors hd
  refine mem_onWay.2 (.inr ⟨dir.segments, front, ?_⟩)
  rw [place_of_absolute_eq absolute]

theorem tails_subset_onWay : (start.place cwd).tails ⊆ start.onWay cwd := by
  intro place h
  exact mem_onWay.2 (.inr ⟨start.segments, List.prefix_refl _, (List.mem_tails _ _).1 h⟩)

/-- A place on the way has names of the path and of the directory to start from. -/
theorem mem_lead {name : String} : ∀ {segments : List String} {here : FilePlace},
    name ∈ lead here segments → name ∈ here ∨ name ∈ segments
  | [], _, h => .inl h
  | s :: rest, here, h => by
    rw [lead_cons] at h
    rcases mem_lead h with h | h
    · by_cases silent : s = "" ∨ s = "."
      · rw [enter, if_pos (by simpa using silent)] at h
        exact .inl h
      · rw [enter, if_neg (by simpa using silent)] at h
        split at h
        · exact .inl (List.mem_of_mem_tail h)
        · rcases List.mem_cons.1 h with rfl | h
          · exact .inr List.mem_cons_self
          · exact .inl h
    · exact .inr (List.mem_cons_of_mem _ h)

theorem mem_of_mem_onWay {name : String} (h : place ∈ start.onWay cwd) (hn : name ∈ place) :
    name ∈ cwd ∨ name ∈ start.segments := by
  rcases mem_onWay.1 h with h | ⟨front, hf, h⟩
  · exact .inl (h.subset hn)
  · rcases mem_lead (h.subset hn) with hn | hn
    · rw [origin] at hn
      split at hn
      · exact absurd hn List.not_mem_nil
      · exact .inl hn
    · exact .inr (hf.subset hn)

/-- The directories on the way of a path, with a configuration in some of them. -/
def staged (start : Path) (cwd : FilePlace) (some : FilePlace → Bool) : FileTree where
  entries := (start.onWay cwd).map (·, .directory) ++
    (((start.onWay cwd).filter some).map ("apprun.yaml" :: ·)).map (·, .file (.text ""))
  start := cwd

end Path

theorem lookup_map_const {α β : Type} [BEq α] [LawfulBEq α] (a : α) (b : β) : ∀ l : List α,
    (l.map (·, b)).lookup a = if a ∈ l then some b else none
  | [] => rfl
  | a' :: l => by
    rw [List.map_cons, List.lookup_cons, lookup_map_const a b l]
    by_cases h : a = a'
    · simp [h]
    · simp [h, beq_false_of_ne h]

namespace Path

variable {start : Path} {cwd place : FilePlace} {p : FilePlace → Bool}

theorem entry?_staged (place : FilePlace) : FileTree.entry? (start.staged cwd p) place =
    if place ∈ start.onWay cwd then some .directory
    else if place ∈ ((start.onWay cwd).filter p).map ("apprun.yaml" :: ·) then
      some (.file (.text ""))
    else none := by
  cases place with
  | nil => rw [if_pos (mem_onWay.2 (.inl List.nil_suffix))]; rfl
  | cons name above =>
    rw [ FileTree.entry?, staged, List.lookup_append, lookup_map_const, lookup_map_const]
    · by_cases h : name :: above ∈ start.onWay cwd <;> simp [h]
    · exact List.cons_ne_nil _ _

theorem grounded_staged : (start.staged cwd p).Grounded := by
  intro name above entry h
  have onWay : above ∈ start.onWay cwd := by
    rw [entry?_staged] at h
    split at h
    next hd => exact onWay_of_suffix hd (List.suffix_cons _ _)
    next =>
      split at h
      next hf =>
        obtain ⟨dir, hd, same⟩ := List.mem_map.1 hf
        obtain ⟨-, rfl⟩ := List.cons.inj same
        exact (List.mem_filter.1 hd).1
      next => nomatch h
  rw [entry?_staged, if_pos onWay]

theorem at?_staged (said : start.isEmpty = false) :
    (start.staged cwd p).at? start = some .directory := by
  have onWay : ∀ front, front <+: start.segments →
      FileTree.entry? (start.staged cwd p) (lead (start.origin cwd) front) =
        some .directory := by
    intro front hf
    rw [entry?_staged, if_pos (mem_onWay.2 (.inr ⟨front, hf, List.suffix_refl _⟩))]
  exact FileTree.at?_eq_directory_iff.2 ⟨said, FileTree.open_iff_forall_front.2 onWay⟩

/-- Where no directory is named like a configuration, there are the configurations that were put
there. -/
theorem configIn_staged (clear : ∀ name ∈ configNames, name ∉ cwd ∧ name ∉ start.segments)
    {dir : FilePlace} (h : dir ∈ start.onWay cwd) : (start.staged cwd p).configIn dir =
      if p dir then some ("apprun.yaml" :: dir) else none := by
  have noDirectory : ∀ name ∈ configNames, name :: dir ∉ start.onWay cwd := by
    intro name hn hm
    rcases mem_of_mem_onWay hm List.mem_cons_self with hc | hc
    · exact (clear name hn).1 hc
    · exact (clear name hn).2 hc
  have present : ∀ name ∈ configNames,
      ( FileTree.entry? (start.staged cwd p) (name :: dir)).isSome =
      (decide (name = "apprun.yaml") && p dir) := by
    intro name hn
    rw [entry?_staged, if_neg (noDirectory name hn)]
    by_cases yaml : name = "apprun.yaml"
    · cases hp : p dir <;> simp [yaml, hp, h]
    · simp [yaml, Ne.symm yaml]
  cases hp : p dir with
  | true =>
    refine List.find?_cons_of_pos ?_
    rw [present _ List.mem_cons_self, hp]
    rfl
  | false =>
    refine List.find?_eq_none.2 fun place hm => ?_
    obtain ⟨name, hn, rfl⟩ := List.mem_map.1 hm
    rw [present name hn, hp, Bool.and_false]
    exact Bool.false_ne_true

theorem findSome?_staged (clear : ∀ name ∈ configNames, name ∉ cwd ∧ name ∉ start.segments) :
    ∀ {dirs : List FilePlace}, dirs ⊆ start.onWay cwd →
      dirs.findSome? (start.staged cwd p).configIn = (dirs.find? p).map ("apprun.yaml" :: ·)
  | [], _ => rfl
  | dir :: dirs, h => by
    have rest := findSome?_staged clear fun d hd => h (List.mem_cons_of_mem _ hd)
    rw [List.findSome?_cons, List.find?_cons, configIn_staged clear (h List.mem_cons_self)]
    cases p dir with
    | true => rfl
    | false => exact rest

/-- A search that does not climb misses the nearest configuration somewhere. -/
theorem exists_missed (h : ¬ start.Climbs cwd) (said : start.isEmpty = false)
    (clear : ∀ name ∈ configNames, name ∉ cwd ∧ name ∉ start.segments) :
    ∃ t : FileTree, t.Grounded ∧ t.start = cwd ∧ t.entry? cwd = some .directory ∧
      t.at? start = some .directory ∧ ¬ t.FindsNearest start := by
  obtain ⟨p, differ⟩ : ∃ p : FilePlace → Bool,
      (start.searched cwd).find? p ≠ (start.place cwd).tails.find? p := by
    by_contra same
    push Not at same
    exact h ((eraseDups_eq_of_find? same).trans (eraseDups_tails _))
  have directory : (start.staged cwd p).at? start = some .directory := at?_staged said
  refine ⟨start.staged cwd p, grounded_staged, rfl, ?_, directory, fun found => differ ?_⟩
  · rw [entry?_staged, if_pos (mem_onWay.2 (.inl (List.suffix_refl _)))]
  · have same := (FileTree.findsNearest_iff directory).1 found
    change (start.searched cwd).findSome? _ = (start.place cwd).tails.findSome? _ at same
    rw [findSome?_staged clear searched_subset_onWay,
      findSome?_staged clear tails_subset_onWay] at same
    exact Option.map_injective (List.cons_injective) same

end Path

/-- **The nearest configuration is found where the search climbs.**  From a directory the search
finds the first configuration in the directories that the path and the paths above it name, and
reports that there is none when they have none.  Where these are the start directory and all above
it, nearest first, this is the nearest configuration, whatever else there is; where they are not,
the nearest configuration is missed in some file system.  Without two dots they are just when the
path starts at the root, or is relative and relative paths start there. -/
theorem nearest_found_iff_climbs (start : Path) (cwd : FilePlace) :
    (∀ t : FileTree, t.start = cwd → t.at? start = some .directory →
      t.FindsIn start (start.searched cwd)) ∧
    (start.Climbs cwd → ∀ t : FileTree, t.start = cwd → t.at? start = some .directory →
      t.FindsNearest start) ∧
    (¬ start.Climbs cwd → start.isEmpty = false →
      (∀ name ∈ configNames, name ∉ cwd ∧ name ∉ start.segments) →
      ∃ t : FileTree, t.Grounded ∧ t.start = cwd ∧ t.entry? cwd = some .directory ∧
        t.at? start = some .directory ∧ ¬ t.FindsNearest start) ∧
    (".." ∉ start.segments → (start.Climbs cwd ↔ start.absolute = true ∨ cwd = [])) := by
  refine ⟨?_, ?_, fun h said clear => Path.exists_missed h said clear, fun noUp => ?_⟩
  · rintro t rfl h
    exact FileTree.findsIn_searched h
  · rintro climbs t rfl h
    refine (FileTree.findsNearest_iff h).2 ?_
    rw [← climbs, findSome?_eraseDups]
  · rw [Path.climbs_iff_origin noUp, Path.origin]
    cases start.absolute <;> simp

/-! A project whose configuration is above the directory in which the work is done. -/

namespace Project

def tree : FileTree where
  entries :=
    [(["srv"], .directory), (["shop", "srv"], .directory), (["deploy", "shop", "srv"], .directory),
      (["apprun.yml", "shop", "srv"], .file (.text "clusterName: prod\napplications: []\n"))]
  start := ["deploy", "shop", "srv"]

theorem nearest_found_from_root :
    tree.FindsNearest (.ofText "/srv/shop/./deploy/") ∧
      tree.on (ConfigFile.find (.ofText "/srv/shop/./deploy/")) =
        (some (.ok (.ofText "/srv/shop/apprun.yml")), tree) ∧
      (∃ t : FileTree, t.Grounded ∧ t.start = tree.start ∧ t.entry? tree.start = some .directory ∧
        t.at? (.ofText "..") = some .directory ∧ ¬ t.FindsNearest (.ofText "..")) ∧
      ¬ (Path.ofText "deploy").Climbs tree.start := by
  have found := (nearest_found_iff_climbs (.ofText "/srv/shop/./deploy/") tree.start).2.1
    (by decide +kernel) tree rfl (by decide +kernel)
  have missed := (nearest_found_iff_climbs (.ofText "..") tree.start).2.2.1
    (by decide +kernel) (by decide +kernel) (by decide +kernel)
  have relative := (nearest_found_iff_climbs (.ofText "deploy") tree.start).2.2.2
    (by decide +kernel)
  exact ⟨found, by rfl, missed, fun h => nomatch relative.1 h⟩

/-- From the directory itself, the configuration above it is not found. -/
theorem nearest_missed_from_here :
    tree.at? (.ofText ".") = some .directory ∧
      tree.configIn ["shop", "srv"] = some ["apprun.yml", "shop", "srv"] ∧
      tree.on (ConfigFile.find (.ofText ".")) =
        (some (.error (.config (.fileNotFound "./apprun.yaml"))), tree) ∧
      ¬ tree.FindsNearest (.ofText ".") := by
  have directory : tree.at? (.ofText ".") = some .directory := by decide +kernel
  refine ⟨directory, by decide +kernel, by rfl, fun found => ?_⟩
  have same := (FileTree.findsNearest_iff directory).1 found
  revert same
  decide +kernel

end Project

end Converge
