import Converge.Proofs.Files.Place
import Converge.Proofs.Interruption
/-!
# Steps on files that fail

A step on files may fail for reasons of which a file system in memory knows nothing, and may then
leave anything behind where its own file is, but nowhere else (`FileTree.SameBut`).
`FileTree.Step t q reply u` says that in `t` the step `q` can get this reply and leave `u`: it works
as `FileTree.answer` says, or it fails.

Making directories adds directories to which certain paths lead, where nothing was
(`FileTree.Made`), wherever it is cut off and whichever of its steps fail.

Main statements: `FileTree.Step.sameBut`, `FileTree.Made.step` and `keeps_makeDirectories`.
-/

namespace Converge

namespace Files.Question

/-- The file that a step makes, fills or takes away. -/
def own? : Question → Option Path
  | .create p => some p
  | .write p _ => some p
  | .sync p => some p
  | .rename source _ => some source
  | _ => none

/-- Whether a reply says that a step did not succeed. -/
def Failed : (q : Question) → q.Reply → Prop
  | .isPresent _, reply => reply = false
  | .isDirectory _, reply => reply = false
  | .read _, reply => ∃ e, reply = .error e
  | .makeDirectory _, reply => ∃ e, reply = .error e
  | .create _, reply => ∃ e, reply = .error e
  | .write _ _, reply => ∃ e, reply = .error e
  | .sync _, reply => ∃ e, reply = .error e
  | .rename _ _, reply => ∃ e, reply = .error e
  | .log _ _, _ => False

end Files.Question

namespace FileTree

variable {t u v : FileTree} {p source target : Path} {place : FilePlace} {text : String}

/-! ## 1. Harm -/

theorem SameDirectories.symm (h : t.SameDirectories u) : u.SameDirectories t :=
  ⟨h.start.symm, fun place => (h.directories place).symm⟩

/-- Whether two file systems are the same but for what is, besides directories, at the place of a
path. -/
structure SameBut (own : Option Path) (t u : FileTree) : Prop extends SameDirectories t u where
  entries : ∀ place, (∀ p ∈ own, t.locate p ≠ .ok place) → u.entry? place = t.entry? place

namespace SameBut

variable {own : Option Path}

theorem refl (own : Option Path) (t : FileTree) : t.SameBut own t :=
  ⟨⟨rfl, fun _ => Iff.rfl⟩, fun _ _ => rfl⟩

theorem trans (h : t.SameBut own u) (h' : u.SameBut own v) : t.SameBut own v := by
  refine ⟨h.toSameDirectories.trans h'.toSameDirectories, fun place apart => ?_⟩
  refine (h'.entries place fun p hp hl => ?_).trans (h.entries place apart)
  exact apart p hp (h.toSameDirectories.symm.locate hl)

theorem weaken (h : t.SameBut none u) (own : Option Path) : t.SameBut own u :=
  ⟨h.toSameDirectories, fun place _ => h.entries place fun _ hp => nomatch hp⟩

/-- Paths that lead elsewhere lead to the same. -/
theorem at?_eq (h : t.SameBut own u)
    (apart : ∀ q ∈ own, ∀ place, t.locate q = .ok place → t.locate p ≠ .ok place) :
    u.at? p = t.at? p := by
  by_cases led : ∃ place, t.locate p = .ok place
  · obtain ⟨place, hl⟩ := led
    rw [at?_of_locate (h.toSameDirectories.locate hl), at?_of_locate hl]
    exact h.entries place fun q hq hl' => apart q hq place hl' hl
  · have nowhere := not_exists.1 led
    rw [at?_of_nowhere nowhere]
    exact at?_of_nowhere fun place hu => nowhere place (h.toSameDirectories.symm.locate hu)

end SameBut

theorem sameBut_put (hl : t.locate p = .ok place) (hd : t.entry? place ≠ some .directory)
    (content : FileContent) : t.SameBut (some p) (t.put place (.file content)) := by
  have root : place ≠ [] := fun hr => hd (hr ▸ rfl)
  refine ⟨sameDirectories_put hd content, fun place' apart => ?_⟩
  rw [entry?_put root, if_neg]
  rintro rfl
  exact apart p rfl hl

/-! ## 2. Changes of one place -/

/-- A change is refused, or made at the place to which the path leads. -/
theorem change_cases {f : Option FileEntry → Except FileError FileEntry}
    {r : Except FileError Unit × FileTree} (h : t.change p f = r) :
    (∃ e, r = (.error e, t)) ∨ ∃ place entry, t.locate p = .ok place ∧
      f (t.entry? place) = .ok entry ∧ r = (.ok (), t.put place entry) := by
  subst h
  unfold change
  cases hl : t.locate p with
  | error e => exact .inl ⟨e, rfl⟩
  | ok place =>
    cases hf : f (t.entry? place) with
    | error e => exact .inl ⟨e, by simp only [hf]⟩
    | ok entry => exact .inr ⟨place, entry, rfl, hf, by simp only [hf]⟩

/-- Writing is refused, or a text is put where a file can stand. -/
theorem write_cases (t : FileTree) (p : Path) (text : String) :
    (∃ e, t.write p text = (.error e, t)) ∨ ∃ place, t.locate p = .ok place ∧
      t.entry? place ≠ some .directory ∧
      t.write p text = (.ok (), t.put place (.file (.text text))) := by
  rcases change_cases (rfl : t.write p text = _) with
    refused | ⟨place, entry, located, puts, changed⟩
  · exact .inl refused
  · refine .inr ⟨place, located, ?_⟩
    split at puts
    · nomatch puts
    next notDirectory =>
      obtain rfl := Except.ok.inj puts
      exact ⟨notDirectory, changed⟩

theorem makeDirectory_cases (t : FileTree) (p : Path) :
    (∃ e, t.makeDirectory p = (.error e, t)) ∨ ∃ place, t.locate p = .ok place ∧
      t.entry? place = none ∧ t.makeDirectory p = (.ok (), t.put place .directory) := by
  rcases change_cases (rfl : t.makeDirectory p = _) with
    refused | ⟨place, entry, located, puts, changed⟩
  · exact .inl refused
  · refine .inr ⟨place, located, ?_⟩
    split at puts
    next absent =>
      obtain rfl := Except.ok.inj puts
      exact ⟨absent, changed⟩
    · nomatch puts

/-- Moving is refused, or a file is moved to where a file can stand. -/
theorem rename_cases (t : FileTree) (source target : Path) :
    (∃ e, t.rename source target = (.error e, t)) ∨
      (t.Takes source ∧ t.Takes target ∧ (t.rename source target).1 = .ok ()) := by
  unfold rename
  split
  · exact .inl ⟨_, rfl⟩
  · exact .inl ⟨_, rfl⟩
  next here there hs ht =>
    split
    · exact .inl ⟨_, rfl⟩
    · exact .inl ⟨_, rfl⟩
    · exact .inl ⟨_, rfl⟩
    next hf free => exact .inr ⟨⟨here, hs, by simp [hf]⟩, ⟨there, ht, free⟩, rfl⟩

/-! ## 3. Steps -/

/-- Whether a step can get a reply and leave a file system: it works, or it fails and harms no more
than its own file. -/
inductive Step (t : FileTree) (q : Files.Question) (reply : q.Reply) (u : FileTree) : Prop where
  | works (answers : answer q t = (reply, u))
  | fails (failed : q.Failed reply) (harm : t.SameBut q.own? u)

/-- Steps other than making a directory and moving a file change their own file at most. -/
theorem Step.sameBut {q : Files.Question} {reply : q.Reply} (h : t.Step q reply u)
    (make : ∀ p, q ≠ .makeDirectory p) (move : ∀ p p', q ≠ .rename p p') :
    t.SameBut q.own? u := by
  cases h with
  | fails _ harm => exact harm
  | works answers =>
    obtain rfl : (answer q t).2 = u := congrArg Prod.snd answers
    have written : ∀ p text, t.SameBut (some p) (t.write p text).2 := by
      intro p text
      rcases t.write_cases p text with ⟨e, refused⟩ | ⟨place, located, directory, written⟩
      · rw [refused]
        exact .refl _ t
      · rw [written]
        exact sameBut_put located directory (.text text)
    cases q with
    | create p => exact written p ""
    | write p text => exact written p text
    | makeDirectory p => exact absurd rfl (make p)
    | rename p p' => exact absurd rfl (move p p')
    | isPresent | isDirectory | read | sync | log => exact .refl _ t

/-- A text that was written without failure is in the file. -/
theorem Step.at?_of_write (h : t.Step (.write p text) (.ok ()) u) :
    u.at? p = some (.file (.text text)) := by
  cases h with
  | fails failed => nomatch failed.choose_spec
  | works answers =>
    rcases t.write_cases p text with ⟨e, refused⟩ | ⟨place, located, directory, -⟩
    · nomatch refused.symm.trans answers
    · obtain ⟨w, written, -, held⟩ := write_of_takes ⟨place, located, directory⟩ text
      obtain rfl : w = u := congrArg Prod.snd (written.symm.trans answers)
      exact held

/-- Storing without failure leaves everything as it is. -/
theorem Step.eq_of_sync (h : t.Step (.sync p) (.ok ()) u) : u = t := by
  cases h with
  | fails failed => nomatch failed.choose_spec
  | works answers => exact (congrArg Prod.snd answers).symm

/-- A file that was moved without failure is at the target. -/
theorem Step.at?_of_rename {content : FileContent}
    (h : t.Step (.rename source target) (.ok ()) u)
    (held : t.at? source = some (.file content)) : u.at? target = some (.file content) := by
  cases h with
  | fails failed => nomatch failed.choose_spec
  | works answers =>
    rcases t.rename_cases source target with ⟨e, refused⟩ | ⟨takes, takes', -⟩
    · nomatch refused.symm.trans answers
    · obtain ⟨w, moved, -, there⟩ := rename_of_takes takes takes' held
      obtain rfl : w = u := congrArg Prod.snd (moved.symm.trans answers)
      exact there

/-- A file that was not moved is harmed at most itself. -/
theorem Step.sameBut_of_rename {e : FileError}
    (h : t.Step (.rename source target) (.error e) u) : t.SameBut (some source) u := by
  cases h with
  | fails _ harm => exact harm
  | works answers =>
    rcases t.rename_cases source target with ⟨e', refused⟩ | ⟨-, -, moved⟩
    · obtain rfl : t = u := congrArg Prod.snd (refused.symm.trans answers)
      exact .refl _ t
    · exact nomatch moved.symm.trans (congrArg Prod.fst answers)

/-! ## 4. Directories that are made -/

/-- Whether there is what was there, and besides directories to which some paths lead, where nothing
was. -/
structure Made (dirs : List Path) (t u : FileTree) : Prop where
  start : u.start = t.start
  entries : ∀ place, u.entry? place = t.entry? place ∨
    (t.entry? place = none ∧ u.entry? place = some .directory ∧
      ∃ dir ∈ dirs, place = dir.place t.start)

variable {dirs : List Path}

theorem Made.refl (dirs : List Path) (t : FileTree) : Made dirs t t := ⟨rfl, fun _ => .inl rfl⟩

/-- Nothing is taken away while directories are made. -/
theorem Made.directory (h : Made dirs t u) (hd : t.entry? place = some .directory) :
    u.entry? place = some .directory := by
  rcases h.entries place with same | ⟨-, made, -⟩
  · rw [same, hd]
  · exact made

theorem Made.step {q : Files.Question} {reply : q.Reply} (h : Made dirs t u)
    (hs : u.Step q reply v) (own : q.own? = none) (make : ∀ p, q = .makeDirectory p → p ∈ dirs) :
    Made dirs t v := by
  have unharmed : u.SameBut none v → Made dirs t v := fun same => by
    refine ⟨same.start.trans h.start, fun place => ?_⟩
    rw [same.entries place fun _ hp => nomatch hp]
    exact h.entries place
  cases hs with
  | fails _ harm => exact unharmed (own ▸ harm)
  | works answers =>
    obtain rfl : (answer q u).2 = v := congrArg Prod.snd answers
    cases q with
    | makeDirectory p =>
      rcases u.makeDirectory_cases p with ⟨e, refused⟩ | ⟨place, located, absent, made⟩
      · simp only [answer, refused]
        exact h
      · simp only [answer, made]
        have root : place ≠ [] := by
          rintro rfl
          nomatch absent
        refine ⟨h.start, fun place' => ?_⟩
        rw [entry?_put root]
        split
        next same =>
          subst same
          refine .inr ⟨?_, rfl, p, make p rfl, h.start ▸ place_of_locate located⟩
          rcases h.entries place' with same | ⟨none, -, -⟩
          · rw [← same, absent]
          · exact none
        next => exact h.entries place'
    | isPresent | isDirectory | read | log => exact h
    | create | write | sync | rename => nomatch own

end FileTree

/-! ## 5. Making directories -/

/-- Whether work on files whose steps may fail keeps a property wherever it is cut off, and another
one holds of its result. -/
abbrev FileWork.Keeps {ε α : Type} (inv : List (Exchange Files.interface) → FileTree → Prop)
    (post : Except ε α → List (Exchange Files.interface) → FileTree → Prop) (w : FileWork ε α)
    (past : List (Exchange Files.interface)) (t : FileTree) : Prop :=
  Program.Keeps (I := Files.interface) FileTree.Step inv post w.run past t

namespace Files

open Program FileTree

/-- Whether steps with a property keep a property of the exchanges so far and the file system. -/
def Keep (P : Question → Prop) (inv : List (Exchange interface) → FileTree → Prop) : Prop :=
  ∀ past t q reply u, P q → inv past t → t.Step q reply u → inv (past ++ [⟨q, reply⟩]) u

/-- Whether a step looks at directories and makes some. -/
def Question.MakesIn (dirs : List Path) : Question → Prop
  | .isPresent _ => True
  | .isDirectory _ => True
  | .makeDirectory p => p ∈ dirs
  | _ => False

variable {dirs : List Path} {inv : List (Exchange interface) → FileTree → Prop}
  {past : List (Exchange interface)} {t : FileTree} {ε : Type}

theorem keeps_step {P : Question → Prop} (kept : Keep P inv) {q : Question} (hq : P q)
    (now : inv past t) :
    (question (I := interface) q).Keeps FileTree.Step inv (fun _ => inv) past t :=
  keeps_question now fun reply u first =>
    have next := kept past t q reply u hq now first
    ⟨next, next⟩

theorem keeps_climb (kept : Keep (Question.MakesIn dirs) inv) :
    ∀ {above missing : List Path} {past : List (Exchange interface)} {t : FileTree},
      above ⊆ dirs → missing ⊆ dirs → inv past t →
      FileWork.Keeps inv (fun r xs u => inv xs u ∧ ∀ l, r = .ok l → l ⊆ dirs)
        (climb above missing) past t
  | [], missing, past, t, _, hm, now => ⟨now, now, fun l hl => Except.ok.inj hl ▸ hm⟩
  | p :: above, missing, past, t, ha, hm, now => by
    obtain ⟨hp, ha⟩ := List.cons_subset.1 ha
    have found : ∀ {xs : List (Exchange interface)} {u : FileTree}, inv xs u →
        inv xs u ∧ inv xs u ∧ ∀ l, (Except.ok missing : Except FileError (List Path)) = .ok l →
          l ⊆ dirs := fun now => ⟨now, now, fun l hl => Except.ok.inj hl ▸ hm⟩
    rw [climb]
    split
    · exact found now
    · refine keeps_lift_bind ?_
      refine (keeps_step kept (q := .makeDirectory p) hp now).mono (fun _ _ => id) ?_
      intro r xs u _ now
      split
      · exact found now
      · exact keeps_climb kept ha (List.cons_subset.2 ⟨hp, hm⟩) now
      next e =>
        refine keeps_lift_bind ?_
        refine (keeps_step kept (q := .isDirectory p) trivial now).mono (fun _ _ => id) ?_
        intro is xs u _ now
        split
        · exact found now
        · exact ⟨now, now, fun l hl => nomatch hl⟩

theorem keeps_ensureDirectory (kept : Keep (Question.MakesIn dirs) inv) {p : Path} (hp : p ∈ dirs)
    (now : inv past t) : FileWork.Keeps inv (fun _ => inv) (ensureDirectory p) past t := by
  refine keeps_lift_bind ?_
  refine (keeps_step kept (q := .makeDirectory p) hp now).mono (fun _ _ => id) ?_
  intro r xs u _ now
  split
  · exact ⟨now, now⟩
  · refine keeps_lift_bind ?_
    refine (keeps_step kept (q := .isDirectory p) trivial now).mono (fun _ _ => id) ?_
    intro is xs u _ now
    split <;> exact ⟨now, now⟩

theorem keeps_ensureDirectories (kept : Keep (Question.MakesIn dirs) inv) :
    ∀ {missing : List Path} {past : List (Exchange interface)} {t : FileTree},
      missing ⊆ dirs → inv past t → FileWork.Keeps inv (fun _ => inv)
        (forIn (m := FileWork FileError) missing PUnit.unit fun p _ => do
          ensureDirectory p
          pure (ForInStep.yield PUnit.unit)) past t
  | [], _, _, _, now => ⟨now, now⟩
  | p :: missing, past, t, hm, now => by
    obtain ⟨hp, hm⟩ := List.cons_subset.1 hm
    rw [List.forIn_cons]
    refine keeps_run_bind (keeps_run_bind
      ((keeps_ensureDirectory kept hp now).mono (fun _ _ => id) ?_))
    rintro (e | _) xs u - now
    · exact now
    · exact ⟨now, keeps_ensureDirectories kept hm now⟩

/-- **Making directories keeps what its steps keep.** -/
theorem keeps_makeDirectories {p : Path} (kept : Keep (Question.MakesIn p.ancestors) inv)
    (now : inv past t) : FileWork.Keeps inv (fun _ => inv) (makeDirectories p) past t := by
  refine keeps_run_bind ((keeps_climb kept (List.Subset.refl _) (List.nil_subset _) now).mono
    (fun _ _ => id) ?_)
  rintro (e | missing) xs u - ⟨now, sub⟩
  · exact now
  · refine keeps_run_bind ((keeps_ensureDirectories kept (sub missing rfl) now).mono
      (fun _ _ => id) ?_)
    rintro (e | _) xs u - now
    · exact now
    · exact ⟨now, now⟩

end Files

end Converge
