import Converge.Proofs.Files.Failing
import Converge.Proofs.Ledger.Store
/-!
# A ledger is replaced at once

Saving a ledger may fail at any of its steps and may be cut off between any two of them.  Until the
temporary file takes the place of the ledger file, a load gives what it gave before; from then on it
gives the ledger that was saved.

The steps before that change the temporary file, which is beside the ledger file and never the same
(`FileTree.locate_below_ne`), and make directories.  With two dots in its path a ledger file may
come to light while directories are made, because the path led nowhere before
(`LedgerFile.Uncovered`); without them it does not.

Main statements: `LedgerFile.replaces_save` and `ledger_saved_at_once`.
-/

namespace Converge

/-! ## 1. The ledger file and the temporary file -/

namespace Path

/-- What stands before a dot, where none comes after it. -/
theorem stemOf_append {stem extension : List Char} (hs : stem ≠ []) (he : '.' ∉ extension) :
    stemOf (stem ++ '.' :: extension) = stem := by
  obtain ⟨before, c, rfl⟩ : ∃ before c, stem = before ++ [c] :=
    ⟨stem.dropLast, stem.getLast hs, (List.dropLast_append_getLast hs).symm⟩
  have passed : ∀ d ∈ extension.reverse, (d ≠ '.' : Bool) = true := by
    intro d hd
    have : d ≠ '.' := fun h => he (h ▸ List.mem_reverse.1 hd)
    simpa using this
  have whole : (before ++ [c] ++ '.' :: extension).reverse =
      extension.reverse ++ '.' :: c :: before.reverse := by simp
  rw [stemOf, whole, List.dropWhile_append_of_pos passed]
  simp

theorem trimmed_below {name : String} (hn : IsName name) (dir : Path) :
    trimmed (dir.below name).absolute (dir.below name).segments.reverse =
      name :: dir.segments.reverse := by
  have last : (dir.below name).segments.reverse = name :: dir.segments.reverse := by simp [below]
  rw [last, trimmed, if_neg]
  simp [isSilent, hn.notEmpty, hn.notHere]

theorem fileName_below {name : String} (hn : IsName name) (dir : Path) :
    (dir.below name).fileName = some name := by
  rw [fileName, trimmed_below hn]
  simp [hn.notHere, hn.notUp]

/-- Another extension takes the place of what stands after the last dot. -/
theorem withExtension_below (dir : Path) {stem extension : String} (hs : stem ≠ "")
    (he : '.' ∉ extension.toList) (hn : IsName (stem ++ "." ++ extension)) (other : String) :
    (dir.below (stem ++ "." ++ extension)).withExtension other =
      dir.below (stem ++ "." ++ other) := by
  have before : stemOf (stem ++ "." ++ extension).toList = stem.toList := by
    have said : stem.toList ≠ [] := by simpa using hs
    simpa using stemOf_append said he
  have found : (dir.below (stem ++ "." ++ extension)).fileStem = some stem := by
    rw [fileStem, fileName_below hn, Option.map_some, before, String.ofList_toList]
  rw [withExtension, found, trimmed_below hn]
  simp [below]

/-- The paths above a file are beginnings of the path of its directory. -/
theorem prefix_of_mem_ancestors_below {dir above q : Path} {name : String}
    (hp : (dir.below name).parent = some above) (hq : q ∈ above.ancestors) :
    q.absolute = dir.absolute ∧ q.segments <+: dir.segments := by
  obtain ⟨absolute, s, rest, segments⟩ := segments_of_parent hp
  obtain ⟨absolute', front⟩ := prefix_of_mem_ancestors hq
  have whole : above.segments <+: dir.segments ++ [name] := ⟨s :: rest, segments.symm⟩
  have shorter := parent_length_lt hp
  refine ⟨absolute'.trans absolute, front.trans ?_⟩
  refine List.prefix_of_prefix_length_le whole (List.prefix_append _ _) ?_
  exact Nat.le_of_lt_succ (by simpa [below] using shorter)

end Path

namespace LedgerFile

open Converge.Path

/-- The ledger file is beside its temporary file, in a directory that is written with the segments
of the path of the configuration. -/
theorem exists_pathFor_eq (config : Path) : ∃ (dir : Path) (stem : String),
    stem ≠ "" ∧ dir.segments ⊆ config.segments ∧
      pathFor config = dir.below (stem ++ "." ++ "json") := by
  let stem := config.fileStem.getD "apprun" ++ ".apprun-state"
  have name : config.fileStem.getD "apprun" ++ nameEnd = stem ++ "." ++ "json" := by
    have : nameEnd = ".apprun-state" ++ "." ++ "json" := by decide
    rw [this, ← String.append_assoc, ← String.append_assoc]
  have said : stem ≠ "" := fun h => by
    have := congrArg String.length h
    simp [stem] at this
  rw [pathFor, name]
  split
  next above hp =>
    split
    · exact ⟨⟨false, []⟩, stem, said, List.nil_subset _, rfl⟩
    · obtain ⟨front, hf, child, -⟩ := above.exists_child_eq (stem ++ "." ++ "json")
      obtain ⟨_, _, _, segments⟩ := segments_of_parent hp
      refine ⟨_, stem, said, ?_, child⟩
      exact List.Subset.trans hf.subset (segments ▸ List.subset_append_left _ _)
  next => exact ⟨⟨false, []⟩, stem, said, List.nil_subset _, rfl⟩

theorem isName_of_stem {stem extension : String} (hs : stem ≠ "") (he : extension ≠ "") :
    IsName (stem ++ "." ++ extension) := by
  have long : 2 < (stem ++ "." ++ extension).length := by
    have h₁ : 0 < stem.length := Nat.pos_of_ne_zero (by simpa using hs)
    have h₂ : 0 < extension.length := Nat.pos_of_ne_zero (by simpa using he)
    simp only [String.length_append]
    have : ".".length = 1 := by decide
    omega
  constructor <;> intro h <;> rw [h] at long <;> revert long <;> decide

/-- The ledger file and the temporary file have two names in one directory. -/
theorem exists_siblings (config : Path) : ∃ (dir : Path) (name name' : String),
    IsName name ∧ IsName name' ∧ name' ≠ name ∧ dir.segments ⊆ config.segments ∧
      pathFor config = dir.below name ∧ temporary (pathFor config) = dir.below name' := by
  obtain ⟨dir, stem, said, segments, path⟩ := exists_pathFor_eq config
  have json : IsName (stem ++ "." ++ "json") := isName_of_stem said (by decide)
  have tmp : IsName (stem ++ "." ++ "tmp") := isName_of_stem said (by decide)
  refine ⟨dir, _, _, json, tmp, fun h => ?_, segments, path, ?_⟩
  · have : "tmp" = "json" := (String.append_right_inj _).1 h
    revert this
    decide
  · rw [path]
    exact withExtension_below dir said (by decide) json "tmp"

end LedgerFile

/-- Two names in a directory are two places. -/
theorem FileTree.locate_below_ne {t : FileTree} {dir : Path} {name name' : String}
    {place : FilePlace} (hn : Path.IsName name) (hn' : Path.IsName name') (differ : name' ≠ name)
    (h' : t.locate (dir.below name') = .ok place) : t.locate (dir.below name) ≠ .ok place := by
  intro h
  have at₁ := ((locate_below_iff hn).1 h).2
  have at₂ := ((locate_below_iff hn').1 h').2
  exact differ (List.cons.inj (at₂.symm.trans at₁)).1

/-! ## 2. What a load gives -/

namespace LedgerFile

open FileTree

variable {t u v : FileTree} {path dir : Path} {dirs : List Path} {name : String}

/-- What a load gives. -/
def loaded (path : Path) (t : FileTree) : Option (Except Failure SecretLedger) :=
  (t.on (load path)).1

theorem loaded_eq (path : Path) (t : FileTree) : loaded path t =
    some (if (t.at? path).isSome then
      match t.read path with
      | .error e => .error (.ledger (.corrupted ("Failed to read ledger file: " ++ e.message)))
      | .ok text => parse path text
    else .ok .empty) := by
  rw [loaded, load, on_bind on_isPresent]
  cases (t.at? path).isSome with
  | false => rfl
  | true =>
    have read : t.on (ExceptT.lift (ε := Failure) (Files.read path).run) =
        (some (.ok (t.read path)), t) := rfl
    simp only [Bool.not_true, Bool.false_eq_true, if_false, if_true]
    rw [on_bind on_log, on_bind read]
    cases t.read path <;> rfl

/-- What a load gives depends on what the path leads to. -/
theorem loaded_congr (h : u.at? path = t.at? path) : loaded path u = loaded path t := by
  rw [loaded_eq, loaded_eq, h]
  cases ht : t.at? path with
  | none => rfl
  | some entry => rw [read_congr ht (h.trans ht)]

/-! ## 3. What comes to light -/

/-- Whether a path that led nowhere has come to lead to what was there already, or to a directory
that was made. -/
def Uncovered (path : Path) (t u : FileTree) : Prop :=
  (∀ place, t.locate path ≠ .ok place) ∧ ∃ place, u.locate path = .ok place ∧
    (u.entry? place = t.entry? place ∨
      (t.entry? place = none ∧ u.entry? place = some .directory))

/-- Directories on the way of a file change nothing about it, or it comes to light. -/
theorem at?_or_uncovered (hn : Path.IsName name) (h : Made dirs t v)
    (onWay : ∀ q ∈ dirs, q.absolute = dir.absolute ∧ q.segments <+: dir.segments) :
    v.at? (dir.below name) = t.at? (dir.below name) ∨ Uncovered (dir.below name) t v := by
  by_cases led : ∃ place, t.locate (dir.below name) = .ok place
  · obtain ⟨place, located⟩ := led
    obtain ⟨way, rfl⟩ := (locate_below_iff hn).1 located
    have way' : v.Open (dir.origin v.start) dir.segments := by
      rw [h.start]
      exact open_iff_forall_front.2 fun front hf =>
        h.directory (open_iff_forall_front.1 way front hf)
    have located' : v.locate (dir.below name) = .ok (name :: dir.place t.start) :=
      (locate_below_iff hn).2 ⟨way', by rw [h.start]⟩
    refine .inl ?_
    rw [at?_of_locate located, at?_of_locate located']
    rcases h.entries (name :: dir.place t.start) with same | ⟨absent, -, q, hq, place⟩
    · exact same
    · obtain ⟨absolute, front⟩ := onWay q hq
      rw [place, Path.place_of_absolute_eq absolute, (way.front front).directory] at absent
      nomatch absent
  · have nowhere := not_exists.1 led
    by_cases led' : ∃ place, v.locate (dir.below name) = .ok place
    · obtain ⟨place, hv⟩ := led'
      refine .inr ⟨nowhere, place, hv, ?_⟩
      exact (h.entries place).imp id fun made => ⟨made.1, made.2.1⟩
    · exact .inl ((at?_of_nowhere (not_exists.1 led')).trans (at?_of_nowhere nowhere).symm)

/-- Without two dots nothing comes to light. -/
theorem at?_of_noUp (hn : Path.IsName name) (grounded : t.Grounded) (noUp : ".." ∉ dir.segments)
    (h : Made dirs t v)
    (onWay : ∀ q ∈ dirs, q.absolute = dir.absolute ∧ q.segments <+: dir.segments) :
    v.at? (dir.below name) = t.at? (dir.below name) := by
  rcases at?_or_uncovered hn h onWay with same | ⟨nowhere, place, located, -⟩
  · exact same
  · obtain ⟨-, rfl⟩ := (locate_below_iff hn).1 located
    rw [h.start] at located
    have absent : t.entry? (name :: dir.place t.start) = none := by
      cases ht : t.entry? (name :: dir.place t.start) with
      | none => rfl
      | some entry =>
        have way := grounded.opens noUp (grounded _ _ _ ht)
        exact absurd ((locate_below_iff hn).2 ⟨way, rfl⟩) (nowhere _)
    have absent' : v.entry? (name :: dir.place t.start) = none := by
      rcases h.entries (name :: dir.place t.start) with same | ⟨-, -, q, hq, place⟩
      · rw [same, absent]
      · obtain ⟨absolute, back, segments⟩ := onWay q hq
        have shorter : (q.place t.start).length ≤ (dir.place t.start).length := by
          rw [Path.place_of_absolute_eq absolute, Path.place, ← segments, Path.lead_append]
          refine Path.length_le_lead (fun hm => noUp ?_) _
          rw [← segments]
          exact List.mem_append_right _ hm
        rw [← place] at shorter
        exact absurd shorter (Nat.not_succ_le_self _)
    rw [at?_of_locate located, at?_of_nowhere nowhere, absent']

/-! ## 4. Saving -/

open Files Program

variable {ledger : SecretLedger} {xs past : List (Exchange Files.interface)}

/-- Whether a file took the place of the one at a path. -/
def Replaced (path : Path) (xs : List (Exchange Files.interface)) : Prop :=
  ∃ source, (⟨.rename source path, .ok ()⟩ : Exchange Files.interface) ∈ xs

theorem not_replaced_append {q : Files.Question} {reply : q.Reply} (h : ¬ Replaced path xs)
    (other : ∀ source, q ≠ .rename source path) : ¬ Replaced path (xs ++ [⟨q, reply⟩]) := by
  rintro ⟨source, hm⟩
  rcases List.mem_append.1 hm with hm | hm
  · exact h ⟨source, hm⟩
  · exact other source (congrArg Exchange.op (List.mem_singleton.1 hm)).symm

/-- A file system in which nothing happened to the ledger file but that directories were made and
something was done to the temporary file. -/
def Pending (path : Path) (dirs : List Path) (t : FileTree) (xs : List (Exchange Files.interface))
    (u : FileTree) : Prop :=
  ¬ Replaced path xs ∧ ∃ v, Made dirs t v ∧ v.SameBut (some (temporary path)) u

/-- A file system in which the ledger file is the one that was saved. -/
def Saved (path : Path) (ledger : SecretLedger) (xs : List (Exchange Files.interface))
    (u : FileTree) : Prop :=
  Replaced path xs ∧ u.at? path = some (.file (.text (textOf ledger)))

/-- The directories above a ledger file. -/
def above (path : Path) : List Path := (path.parent.map Path.ancestors).getD []

/-- Whether a step does something to the temporary file or to no file. -/
structure Aside (path : Path) (q : Files.Question) : Prop where
  own : q.own? = none ∨ q.own? = some (temporary path)
  make : ∀ p, q ≠ .makeDirectory p
  move : ∀ p p', q ≠ .rename p p'

theorem keep_pending_of_makesIn : Keep (Files.Question.MakesIn dirs) fun xs u =>
    ¬ Replaced path xs ∧ Made dirs t u := by
  rintro xs u q reply v makes ⟨fresh, made⟩ first
  have own : q.own? = none ∧ ∀ source, q ≠ .rename source path := by
    cases q <;> first | exact ⟨rfl, fun _ h => nomatch h⟩ | exact makes.elim
  refine ⟨not_replaced_append fresh own.2, made.step first own.1 ?_⟩
  rintro p rfl
  exact makes

/-- Nothing happens to the ledger file beside it. -/
theorem Pending.step {q : Files.Question} {reply : q.Reply} (h : Pending path dirs t xs u)
    (first : u.Step q reply v) (aside : Aside path q) :
    Pending path dirs t (xs ++ [⟨q, reply⟩]) v := by
  obtain ⟨fresh, w, made, same⟩ := h
  refine ⟨not_replaced_append fresh fun source => aside.move source path, w, made, same.trans ?_⟩
  have harmed := first.sameBut aside.make aside.move
  rcases aside.own with own | own
  · exact (own ▸ harmed).weaken _
  · exact own ▸ harmed

theorem Pending.rename_failed {e : FileError} (h : Pending path dirs t xs u)
    (first : u.Step (.rename (temporary path) path) (.error e) v) :
    Pending path dirs t (xs ++ [⟨.rename (temporary path) path, .error e⟩]) v := by
  obtain ⟨fresh, w, made, same⟩ := h
  refine ⟨?_, w, made, same.trans first.sameBut_of_rename⟩
  rintro ⟨source, hm⟩
  rcases List.mem_append.1 hm with hm | hm
  · exact fresh ⟨source, hm⟩
  · nomatch List.mem_singleton.1 hm

theorem Saved.append (h : Saved path ledger xs u) (same : u.SameBut none v)
    (ys : List (Exchange Files.interface)) : Saved path ledger (xs ++ ys) v := by
  refine ⟨h.1.imp fun _ hm => List.mem_append_left _ hm, ?_⟩
  rw [same.at?_eq nofun]
  exact h.2

/-- A step of saving keeps what its work keeps. -/
theorem keeps_ledgerStep_bind {α β : Type} {w : FileWork FileError α} {action : String}
    {f : α → FileWork Failure β} {inv : List (Exchange Files.interface) → FileTree → Prop}
    {post : Except Failure β → List (Exchange Files.interface) → FileTree → Prop}
    (h : FileWork.Keeps inv (fun r xs u => match r with
      | .ok a => FileWork.Keeps inv post (f a) xs u
      | .error _ => ∀ e, post (.error e) xs u) w past t) :
    FileWork.Keeps inv post (step action w >>= f) past t := by
  refine keeps_run_bind (keeps_lift_bind (h.mono (fun _ _ => id) ?_))
  rintro (e | a) xs u now after
  · exact ⟨now, after _⟩
  · exact ⟨now, after⟩

theorem keeps_prepare (now : ¬ Replaced path past ∧ Made (above path) t u) :
    FileWork.Keeps (fun xs u => ¬ Replaced path xs ∧ Made (above path) t u)
      (fun _ xs u => ¬ Replaced path xs ∧ Made (above path) t u) (prepare path) past u := by
  rw [prepare]
  split
  · exact ⟨now, now⟩
  next dir hp =>
    have kept : Keep (Files.Question.MakesIn dir.ancestors) fun xs u =>
        ¬ Replaced path xs ∧ Made (above path) t u := by
      rw [above, hp]
      exact keep_pending_of_makesIn
    split
    · exact ⟨now, now⟩
    · refine keeps_lift_bind ?_
      refine (keeps_step kept (q := .isPresent dir) trivial now).mono (fun _ _ => id) ?_
      intro is xs u _ now
      split
      · exact ⟨now, now⟩
      · rw [← bind_pure (step _ _)]
        refine keeps_ledgerStep_bind ((keeps_makeDirectories kept now).mono (fun _ _ => id) ?_)
        rintro (e | _) xs u - now
        · exact fun _ => now
        · exact ⟨now, now⟩

/-- Whether work on a ledger file leaves it alone until it is the one that was saved, and fails as
long as it is not. -/
abbrev Replaces (path : Path) (ledger : SecretLedger) (t : FileTree) (w : FileWork Failure Unit)
    (past : List (Exchange Files.interface)) (u : FileTree) : Prop :=
  FileWork.Keeps (fun xs u => Pending path (above path) t xs u ∨ Saved path ledger xs u)
    (fun r xs u => (∀ f, r = .error f → Pending path (above path) t xs u) ∧
      (r = .ok () → Saved path ledger xs u)) w past u

theorem Pending.failed (h : Pending path dirs t xs u) (f : Failure) :
    (∀ f', (Except.error f : Except Failure Unit) = .error f' → Pending path dirs t xs u) ∧
      ((Except.error f : Except Failure Unit) = .ok () → Saved path ledger xs u) :=
  ⟨fun _ _ => h, fun h => nomatch h⟩

/-- The temporary file takes the place of the ledger file. -/
theorem replaces_rename (now : Pending path (above path) t past u)
    (held : u.at? (temporary path) = some (.file (.text (textOf ledger)))) :
    Replaces path ledger t (do
      step "rename" (Files.rename (temporary path) path)
      Files.log .debug "Ledger saved successfully") past u := by
  refine keeps_ledgerStep_bind ⟨.inl now, ?_⟩
  rintro (e | _) u first
  · have now := now.rename_failed first
    exact ⟨.inl now, fun f => now.failed f⟩
  · have replaced : Replaced path (past ++ [⟨.rename (temporary path) path, .ok ()⟩]) :=
      ⟨temporary path, List.mem_append_right _ List.mem_cons_self⟩
    have saved : Saved path ledger _ u := ⟨replaced, first.at?_of_rename held⟩
    refine ⟨.inr saved, .inr saved, fun _ u first => ?_⟩
    have kept := saved.append (first.sameBut nofun nofun)
    exact ⟨.inr (kept _), nofun, fun _ => kept _⟩

/-- The temporary file is filled before that. -/
theorem replaces_write (now : Pending path (above path) t past u) :
    Replaces path ledger t (do
      step "write" (Files.write (temporary path) (textOf ledger))
      step "sync" (Files.sync (temporary path))
      step "rename" (Files.rename (temporary path) path)
      Files.log .debug "Ledger saved successfully") past u := by
  refine keeps_ledgerStep_bind ⟨.inl now, ?_⟩
  rintro (e | _) u first
  all_goals have now := now.step first ⟨.inr rfl, nofun, nofun⟩
  · exact ⟨.inl now, fun f => now.failed f⟩
  have held := first.at?_of_write
  refine ⟨.inl now, keeps_ledgerStep_bind ⟨.inl now, ?_⟩⟩
  rintro (e | _) u first
  all_goals have now := now.step first ⟨.inr rfl, nofun, nofun⟩
  · exact ⟨.inl now, fun f => now.failed f⟩
  · rw [← first.eq_of_sync] at held
    exact ⟨.inl now, replaces_rename now held⟩

/-- **Saving leaves a ledger file alone until it is the one that was saved.** -/
theorem replaces_save (path : Path) (ledger : SecretLedger) (t : FileTree) :
    Replaces path ledger t (save path ledger) [] t := by
  have begun : ¬ Replaced path [] := fun ⟨_, hm⟩ => nomatch hm
  refine keeps_run_bind ((keeps_prepare ⟨begun, .refl _ t⟩).mono ?_ ?_)
  · rintro xs u ⟨fresh, made⟩
    exact .inl ⟨fresh, u, made, .refl _ u⟩
  rintro (e | _) xs u - ⟨fresh, made⟩
  all_goals have now : Pending path (above path) t xs u := ⟨fresh, u, made, .refl _ u⟩
  · exact now.failed e
  refine keeps_lift_bind ⟨.inl now, fun _ u first => ?_⟩
  have now := now.step first ⟨.inl rfl, nofun, nofun⟩
  refine ⟨.inl now, keeps_ledgerStep_bind ⟨.inl now, ?_⟩⟩
  rintro (e | _) u first
  all_goals have now := now.step first ⟨.inr rfl, nofun, nofun⟩
  · exact ⟨.inl now, fun f => now.failed f⟩
  · exact ⟨.inl now, replaces_write now⟩

/-- Until the ledger file is replaced, a load gives what it gave before, or the ledger file has come
to light. -/
theorem Pending.loaded {name' : String} (hn : Path.IsName name) (hn' : Path.IsName name')
    (differ : name' ≠ name) (beside : temporary (dir.below name) = dir.below name')
    (grounded : t.Grounded)
    (h : Pending (dir.below name) (above (dir.below name)) t xs u) :
    loaded (dir.below name) u = loaded (dir.below name) t ∨
      (".." ∈ dir.segments ∧ Uncovered (dir.below name) t u) := by
  obtain ⟨-, v, made, same⟩ := h
  rw [beside] at same
  have apart : ∀ q ∈ some (dir.below name'), ∀ place, v.locate q = .ok place →
      v.locate (dir.below name) ≠ .ok place := by
    rintro q ⟨⟩ place located
    exact locate_below_ne hn hn' differ located
  have onWay : ∀ q ∈ above (dir.below name),
      q.absolute = dir.absolute ∧ q.segments <+: dir.segments := by
    intro q hq
    unfold above at hq
    cases hp : (dir.below name).parent with
    | none => rw [hp] at hq; exact nomatch hq
    | some dir' =>
      rw [hp] at hq
      exact Path.prefix_of_mem_ancestors_below hp hq
  have kept : u.at? (dir.below name) = v.at? (dir.below name) := same.at?_eq apart
  by_cases up : ".." ∈ dir.segments
  · rcases at?_or_uncovered hn made onWay with still | ⟨nowhere, place, located, there⟩
    · exact .inl (loaded_congr (kept.trans still))
    · refine .inr ⟨up, nowhere, place, same.toSameDirectories.locate located, ?_⟩
      rwa [same.entries place fun q hq hl => apart q hq place hl located]
  · exact .inl (loaded_congr (kept.trans (at?_of_noUp hn grounded up made onWay)))

end LedgerFile

/-- **A ledger is saved at once.**  The temporary file is never the ledger file.  Wherever saving is
cut off, and whichever of its steps fail before that, a load gives the ledger that was saved once
the temporary file took the place of the ledger file, and until then it gives what it gave before.
Only a ledger file whose path has two dots and led nowhere may come to light while directories are
made.  Saving that fails has not replaced the ledger file, and saving that succeeds has. -/
theorem ledger_saved_at_once (config : Path) (t : FileTree) (grounded : t.Grounded)
    (ledger : SecretLedger) (current : ledger.version = SecretLedger.currentVersion) :
    let path := LedgerFile.pathFor config
    (LedgerFile.temporary path ≠ path ∧ ∀ (u : FileTree) (place : FilePlace),
      u.locate (LedgerFile.temporary path) = .ok place → u.locate path ≠ .ok place) ∧
    ∀ xs rest u, Program.Reaches (I := Files.interface) FileTree.Step
        (LedgerFile.save path ledger).run t xs rest u →
      (LedgerFile.Replaced path xs → LedgerFile.loaded path u = some (.ok ledger)) ∧
      (¬ LedgerFile.Replaced path xs →
        LedgerFile.loaded path u = LedgerFile.loaded path t ∨
          (".." ∈ config.segments ∧ LedgerFile.Uncovered path t u)) ∧
      ((∃ f, rest = .done (.error f)) → ¬ LedgerFile.Replaced path xs) ∧
      (rest = .done (.ok ()) → LedgerFile.Replaced path xs) := by
  intro path
  obtain ⟨dir, name, name', hn, hn', differ, segments, shape, beside⟩ :=
    LedgerFile.exists_siblings config
  change path = _ at shape
  change LedgerFile.temporary path = _ at beside
  clear_value path
  subst shape
  refine ⟨⟨?_, fun u place h => ?_⟩, fun xs rest u reached => ?_⟩
  · rw [beside]
    intro same
    exact differ (by simpa [Path.below] using same)
  · rw [beside] at h
    exact FileTree.locate_below_ne hn hn' differ h
  · have kept := reached.keeps (LedgerFile.replaces_save (dir.below name) ledger t)
    rw [List.nil_append] at kept
    refine ⟨fun replaced => ?_, fun fresh => ?_, ?_, ?_⟩
    · rcases kept.now with pending | saved
      · exact absurd replaced pending.1
      · exact congrArg Prod.fst (LedgerFile.on_load_of_saved saved.2 current)
    · rcases kept.now with pending | saved
      · have still := pending.loaded hn hn' differ beside grounded
        exact still.imp id fun light => ⟨segments light.1, light.2⟩
      · exact absurd saved.1 fresh
    · rintro ⟨f, rfl⟩
      exact (kept.2.1 f rfl).1
    · rintro rfl
      exact (kept.2.2 rfl).1

theorem FileTree.reaches_on {ε α : Type} {t u : FileTree} {w : FileWork ε α} {r : Except ε α}
    (h : t.on w = (some r, u)) : ∃ xs, Program.Reaches (I := Files.interface) FileTree.Step
      w.run t xs (.done r) u :=
  ⟨_, Program.reaches_run (fun _ _ => .works rfl) h⟩

/-! A ledger beside its configuration is saved, and once more while the storage is full. -/

namespace Saving

def tree : FileTree where
  entries :=
    [(["home"], .directory),
      (["prod.apprun-state.json", "home"], .file (.text (LedgerFile.textOf Storing.first)))]
  start := ["home"]

def config : Path := .ofText "./prod.yaml"

/-- The temporary file was made and is filled to some extent. -/
def partly : FileTree :=
  tree.put ["prod.apprun-state.tmp", "home"] (.file (.text "")) |>.put
    ["prod.apprun-state.tmp", "home"] (.file (.text "\x7b\n"))

theorem saved_or_kept :
    tree.Grounded ∧
      (∃ xs u, Program.Reaches (I := Files.interface) FileTree.Step
          (LedgerFile.save (LedgerFile.pathFor config) Storing.second).run tree xs
          (.done (.ok ())) u ∧
        LedgerFile.loaded (LedgerFile.pathFor config) u = some (.ok Storing.second)) ∧
      ∃ xs rest, Program.Reaches (I := Files.interface) FileTree.Step
          (LedgerFile.save (LedgerFile.pathFor config) Storing.second).run tree xs rest partly ∧
        LedgerFile.loaded (LedgerFile.pathFor config) partly = some (.ok Storing.first) := by
  have grounded : tree.Grounded := FileTree.grounded_of_entries (by decide +kernel)
  have whole := (ledger_saved_at_once config tree grounded Storing.second rfl).2
  refine ⟨grounded, ?_, ?_⟩
  · obtain ⟨xs, reached⟩ := FileTree.reaches_on (t := tree)
      (w := LedgerFile.save (LedgerFile.pathFor config) Storing.second) (r := .ok ()) (by rfl)
    obtain ⟨loads, -, -, replaced⟩ := whole _ _ _ reached
    exact ⟨xs, _, reached, loads (replaced rfl)⟩
  · have cut : ∃ xs rest, Program.Reaches (I := Files.interface) FileTree.Step
        (LedgerFile.save (LedgerFile.pathFor config) Storing.second).run tree xs rest partly ∧
          ¬ LedgerFile.Replaced (LedgerFile.pathFor config) xs := by
      refine ⟨_, _, .step (.works rfl) (.step (.works rfl) (.step (.works rfl)
        (.step (.fails ⟨.other "No space left on device (os error 28)", rfl⟩ ?_) .cut))), ?_⟩
      · exact FileTree.sameBut_put (p := LedgerFile.temporary (LedgerFile.pathFor config)) (by rfl)
          (by decide +kernel) _
      · rintro ⟨source, hm⟩
        simp at hm
    obtain ⟨xs, rest, reached, fresh⟩ := cut
    refine ⟨xs, rest, reached, ?_⟩
    rcases (whole _ _ _ reached).2.1 fresh with kept | ⟨up, -⟩
    · rw [kept]
      exact congrArg Prod.fst (LedgerFile.on_load_of_saved (by rfl) rfl)
    · exact absurd up (by decide +kernel)

/-- A ledger to which the path of another configuration leads once a directory is there. -/
def hidden : FileTree where
  entries :=
    [(["b"], .directory),
      (["prod.apprun-state.json", "b"], .file (.text (LedgerFile.textOf Storing.first))),
      (["prod.apprun-state.tmp", "b"], .directory)]
  start := []

/-- Saving fails, and a load gives what it did not give before. -/
theorem loaded_differs_after_failure :
    let path := LedgerFile.pathFor (.ofText "a/../b/prod.yaml")
    hidden.Grounded ∧ Storing.second.version = SecretLedger.currentVersion ∧
      ∃ xs f u, Program.Reaches (I := Files.interface) FileTree.Step
          (LedgerFile.save path Storing.second).run hidden xs (.done (.error f)) u ∧
        LedgerFile.loaded path hidden = some (.ok .empty) ∧
        LedgerFile.loaded path u = some (.ok Storing.first) ∧
        LedgerFile.loaded path u ≠ LedgerFile.loaded path hidden := by
  intro path
  have before : LedgerFile.loaded path hidden = some (.ok .empty) :=
    congrArg Prod.fst (LedgerFile.on_load_of_absent (by rfl))
  have after : LedgerFile.loaded path (hidden.put ["a"] .directory) = some (.ok Storing.first) :=
    congrArg Prod.fst (LedgerFile.on_load_of_saved (by rfl) rfl)
  obtain ⟨xs, reached⟩ := FileTree.reaches_on (t := hidden) (u := hidden.put ["a"] .directory)
    (w := LedgerFile.save path Storing.second)
    (r := .error (.ledger (.unavailable
      "Failed to create temp ledger file: Is a directory (os error 21)"))) (by rfl)
  refine ⟨FileTree.grounded_of_entries (by decide +kernel), rfl, xs, _, _, reached, before, after,
    ?_⟩
  rw [before, after]
  intro same
  have : Storing.first = .empty := Except.ok.inj (Option.some.inj same)
  revert this
  decide +kernel

end Saving

end Converge
