import Converge.Proofs.Cluster.Paging
import Converge.Proofs.Data.Keyed
import Converge.Proofs.Dump
import Mathlib.Data.List.Chain
import Mathlib.Data.List.Dedup
import Mathlib.Data.List.Forall2
import Mathlib.Data.List.Perm.Subperm
import Mathlib.Logic.Relation
/-!
# Following cursors

The control plane says with each page where the next one is found, and nothing keeps it from
sending a listing round in a circle.  A `PageSource` serves a page or a failure for every cursor and
knows only finitely many of them; the pages that can be come to are those `OnWay`.

`Walk` lists the ways in which following cursors can go, with the cursors that are followed after
the first page.  None of them is followed twice, so one round more than there are cursors that pages
name is enough.

Main statement: `collectPages_follows_cursors`.
-/

namespace Converge

variable {α : Type}

/-- Whether the page at a cursor names the next one. -/
def Leads (serve : Option String → Except Failure (Page α)) (c d : Option String) : Prop :=
  ∃ page next, serve c = .ok page ∧ page.next = some next ∧ d = some next

/-- The ways in which following cursors can go: with how many rounds, which cursors were followed
before, and where it begins; then the cursors that are followed from there, and what it comes to,
if it comes to an end within the rounds. -/
inductive Walk (serve : Option String → Except Failure (Page α)) :
    Nat → List String → Option String → List String → Option (Except Failure (List α)) → Prop where
  /-- The rounds are used up. -/
  | cut {seen c} : Walk serve 0 seen c [] none
  | failed {limit seen c f} (h : serve c = .error f) :
      Walk serve (limit + 1) seen c [] (some (.error f))
  | ended {limit seen c page} (h : serve c = .ok page) (hn : page.next = none) :
      Walk serve (limit + 1) seen c [] (some (.ok page.items))
  | again {limit seen c page next} (h : serve c = .ok page) (hn : page.next = some next)
      (hm : next ∈ seen) : Walk serve (limit + 1) seen c [] (some (.ok page.items))
  | onward {limit seen c page next later r} (h : serve c = .ok page) (hn : page.next = some next)
      (hm : next ∉ seen) (w : Walk serve limit (next :: seen) (some next) later r) :
      Walk serve (limit + 1) seen c (next :: later) (r.map fun o => o.map (page.items ++ ·))

/-- Whether a page that is asked for is what is served, for as long as the replies are as `served`
says. -/
def Fetches (serve : Option String → Except Failure (Page α))
    (ask : Option String → Session (Page α)) (served : Event → Prop) : Prop :=
  ∀ cursor es out, (ask cursor).Course es out → (∀ e ∈ es, served e) → out = some (serve cursor)

variable {serve : Option String → Except Failure (Page α)}
  {ask : Option String → Session (Page α)} {served : Event → Prop}

/-- **Draining a listing is a walk**, by induction on the rounds; its events are those of the pages
that it asks for. -/
theorem walk_of_course (hask : Fetches serve ask served) :
    ∀ {limit : Nat} {seen : List String} {c : Option String} {es : List Event}
      {out : Option (Except Failure (List α))}, (collectFrom ask limit seen c).Course es out →
      (∀ e ∈ es, served e) → ∃ later parts, Walk serve limit seen c later out ∧
        es = parts.flatten ∧ List.Forall₂ (fun d as => (ask d).Course as (some (serve d)))
          ((c :: later.map some).take limit) parts
  | 0, seen, c, es, out, h, _ => by
    obtain ⟨rfl, rfl⟩ := Session.course_unfinished.1 h
    exact ⟨[], [], .cut, rfl, .nil⟩
  | limit + 1, seen, c, es, out, h, hs => by
    rcases Session.course_bind.1 h with ⟨as, bs, page, rfl, ha, hb⟩ | ⟨f, ha, rfl⟩ | ⟨ha, rfl⟩
    · have hs := List.forall_mem_append.1 hs
      have here := Option.some.inj (hask c as _ ha hs.1)
      rw [here] at ha
      split at hb
      next hn =>
        obtain ⟨rfl, rfl⟩ := Session.course_pure.1 hb
        exact ⟨[], [as], .ended here.symm hn, by simp, .cons ha (by simp)⟩
      next next hn =>
        split at hb
        next hm =>
          obtain ⟨rfl, rfl⟩ := Session.course_log_pure.1 hb
          exact ⟨[], [as], .again here.symm hn hm, by simp, .cons ha (by simp)⟩
        next hm =>
          have hb := Session.course_log_bind.1 hb
          -- what the pages from there on come to is what the whole comes to, their items put last
          have rest : ∃ cs o, bs = cs ∧ (collectFrom ask limit (next :: seen) (some next)).Course
              cs o ∧ out = o.map fun r => r.map (page.items ++ ·) := by
            rcases Session.course_bind.1 hb with ⟨cs, ds, rest, rfl, hr, hd⟩ | ⟨f, hr, rfl⟩ |
              ⟨hr, rfl⟩
            · obtain ⟨rfl, rfl⟩ := Session.course_pure.1 hd
              exact ⟨cs, _, List.append_nil cs, hr, rfl⟩
            · exact ⟨bs, _, rfl, hr, rfl⟩
            · exact ⟨bs, _, rfl, hr, rfl⟩
          obtain ⟨_, o, rfl, hr, rfl⟩ := rest
          obtain ⟨later, parts, walk, rfl, fetched⟩ := walk_of_course hask hr hs.2
          exact ⟨next :: later, as :: parts, .onward here.symm hn hm walk, rfl, .cons ha fetched⟩
    · have here := Option.some.inj (hask c es _ ha hs)
      exact ⟨[], [es], .failed here.symm, by simp, .cons (here ▸ ha) (by simp)⟩
    · nomatch hask c es _ ha hs

namespace Walk

variable {limit : Nat} {seen later : List String} {c : Option String}
  {r : Option (Except Failure (List α))}

/-! ## 1. What is followed -/

/-- Each page that is fetched after the first is the one that the page before it names. -/
theorem isChain (w : Walk serve limit seen c later r) :
    (c :: later.map some).IsChain (Leads serve) := by
  induction w with
  | cut | failed _ | ended _ _ | again _ _ _ => exact .singleton _
  | @onward _ _ _ page next _ _ h hn _ _ ih => exact .cons_cons ⟨page, next, h, hn, rfl⟩ ih

/-- No cursor is followed twice. -/
theorem fresh (w : Walk serve limit seen c later r) : later.Nodup ∧ ∀ d ∈ later, d ∉ seen := by
  induction w with
  | cut | failed _ | ended _ _ | again _ _ _ => exact ⟨.nil, fun _ => List.not_mem_nil.elim⟩
  | @onward _ _ _ _ next later _ _ _ hm _ ih =>
    obtain ⟨once, new⟩ := ih
    refine ⟨List.nodup_cons.2 ⟨fun h => new next h List.mem_cons_self, once⟩, ?_⟩
    exact List.forall_mem_cons.2 ⟨hm, fun d hd hs => new d hd (List.mem_cons_of_mem _ hs)⟩

/-- A walk that is cut off has used all its rounds. -/
theorem length_of_cut (w : Walk serve limit seen c later none) : later.length = limit := by
  generalize hr : (none : Option (Except Failure (List α))) = r at w
  induction w with
  | cut => rfl
  | failed _ | ended _ _ | again _ _ _ => nomatch hr
  | onward _ _ _ _ ih =>
    rw [List.length_cons, ih (Option.map_eq_none_iff.1 hr.symm).symm]

/-- A walk that fails ends at a page that fails, with its failure. -/
theorem exists_of_error {f : Failure} (w : Walk serve limit seen c later (some (.error f))) :
    ∃ d ∈ c :: later.map some, serve d = .error f := by
  generalize hr : some (Except.error f) = r at w
  induction w with
  | cut => nomatch hr
  | @failed _ _ c _ h =>
    obtain rfl := Except.error.inj (Option.some.inj hr)
    exact ⟨c, List.mem_cons_self, h⟩
  | ended _ _ | again _ _ _ => nomatch hr
  | @onward _ _ _ _ _ _ r _ _ _ _ ih =>
    obtain ⟨_ | _, rfl, ho⟩ := Option.map_eq_some_iff.1 hr.symm
    · obtain rfl := Except.error.inj ho
      obtain ⟨d, hd, h⟩ := ih rfl
      exact ⟨d, List.mem_cons_of_mem _ hd, h⟩
    · nomatch ho

/-- A walk that comes to items has the items of the pages that were fetched, in that order. -/
theorem exists_pages {items : List α} (w : Walk serve limit seen c later (some (.ok items))) :
    ∃ pages, List.Forall₂ (fun d p => serve d = .ok p) (c :: later.map some) pages ∧
      items = pages.flatMap (·.items) := by
  generalize hr : some (Except.ok items) = r at w
  induction w generalizing items with
  | cut | failed _ => nomatch hr
  | @ended _ _ _ page h _ | @again _ _ _ page _ h _ _ =>
    obtain rfl := Except.ok.inj (Option.some.inj hr)
    exact ⟨[page], .cons h .nil, by simp⟩
  | @onward _ _ _ page _ _ _ h _ _ _ ih =>
    obtain ⟨_ | rest, rfl, ho⟩ := Option.map_eq_some_iff.1 hr.symm
    · nomatch ho
    · obtain rfl := Except.ok.inj ho
      obtain ⟨pages, served, rfl⟩ := ih rfl
      exact ⟨page :: pages, .cons h served, rfl⟩

/-- Such a walk follows every cursor that its pages name. -/
theorem closed {items : List α} (w : Walk serve limit seen c later (some (.ok items))) :
    ∀ d ∈ c :: later.map some, ∀ e, Leads serve d e → ∃ n, e = some n ∧ (n ∈ seen ∨ n ∈ later) := by
  generalize hr : some (Except.ok items) = r at w
  -- a page that was fetched names what it is followed by
  have named {d e : Option String} {page : Page α} (h : serve d = .ok page)
      (lead : Leads serve d e) : ∃ n, e = some n ∧ page.next = some n := by
    obtain ⟨page', next, h', hn, rfl⟩ := lead
    obtain rfl := Except.ok.inj (h.symm.trans h')
    exact ⟨next, rfl, hn⟩
  induction w generalizing items with
  | cut | failed _ => nomatch hr
  | ended h hn =>
    rintro d hd e lead
    obtain rfl := List.mem_singleton.1 hd
    obtain ⟨n, rfl, hnext⟩ := named h lead
    rw [hn] at hnext
    nomatch hnext
  | again h hn hm =>
    rintro d hd e lead
    obtain rfl := List.mem_singleton.1 hd
    obtain ⟨n, rfl, hnext⟩ := named h lead
    obtain rfl := Option.some.inj (hn.symm.trans hnext)
    exact ⟨_, rfl, .inl hm⟩
  | @onward _ _ _ page next later r h hn _ _ ih =>
    obtain ⟨_ | rest, rfl, ho⟩ := Option.map_eq_some_iff.1 hr.symm
    · nomatch ho
    rintro d hd e lead
    rcases List.mem_cons.1 hd with rfl | hd
    · obtain ⟨n, rfl, hnext⟩ := named h lead
      obtain rfl := Option.some.inj (hn.symm.trans hnext)
      exact ⟨_, rfl, .inr List.mem_cons_self⟩
    · obtain ⟨n, rfl, hs | hl⟩ := ih rfl d hd e lead
      · rcases List.mem_cons.1 hs with rfl | hs
        · exact ⟨_, rfl, .inr List.mem_cons_self⟩
        · exact ⟨n, rfl, .inl hs⟩
      · exact ⟨n, rfl, .inr (List.mem_cons_of_mem _ hl)⟩

end Walk

/-! ## 2. Sources that know finitely many cursors -/

/-- A source of pages: what is served first, without a cursor, and what is served for each
cursor. -/
structure PageSource (α : Type) where
  serve : Option String → Except Failure (Page α)
  /-- The cursors that the source knows. -/
  known : List String
  refuses : ∀ c ∉ known, ∃ f, serve (some c) = .error f

namespace PageSource

/-- The cursor that is named by the page at a cursor. -/
def next? (s : PageSource α) (c : Option String) : Option String :=
  match s.serve c with
  | .ok page => page.next
  | .error _ => none

/-- The cursors that pages name, each once. -/
def cursors (s : PageSource α) : List String :=
  ((none :: s.known.map some).filterMap s.next?).dedup

/-- Whether a page can be come to from the first one. -/
def OnWay (s : PageSource α) : Option String → Prop := Relation.ReflTransGen (Leads s.serve) none

/-- What draining a source comes to that has fetched the first page and then the pages of `later`:
in all cases no cursor is fetched twice, there are no more of them than the source names, and each
is the one that the page fetched just before has named. -/
structure Drained (s : PageSource α) (later : List String) (r : Except Failure (List α)) :
    Prop where
  once : later.Nodup
  bounded : later.length ≤ s.cursors.length
  follows : (none :: later.map some).IsChain (Leads s.serve)
  /-- All pages were served; the items are theirs, and the last one names no cursor, or one that was
  fetched before. -/
  items : ∀ items, r = .ok items → ∃ pages last,
    List.Forall₂ (fun c p => s.serve c = .ok p) (none :: later.map some) pages ∧
    items = pages.flatMap (·.items) ∧ pages.getLast? = some last ∧
    (last.next = none ∨ ∃ c ∈ later, last.next = some c)
  /-- No page on the way is left out. -/
  complete : ∀ items, r = .ok items → ∀ c, s.OnWay c ↔ c ∈ none :: later.map some
  /-- It fails with the failure of a page on the way, and only then. -/
  fails : ∀ f, r = .error f ↔ ∃ c, s.OnWay c ∧ s.serve c = .error f

variable {s : PageSource α} {limit : Nat} {later : List String}

theorem mem_cursors {c : Option String} {n : String} (h : Leads s.serve c (some n)) :
    n ∈ s.cursors := by
  obtain ⟨page, next, hc, hn, he⟩ := h
  obtain rfl := Option.some.inj he
  have known : c ∈ none :: s.known.map some := by
    cases c with
    | none => exact List.mem_cons_self
    | some d =>
      refine List.mem_cons_of_mem _ (List.mem_map_of_mem ?_)
      by_contra unknown
      obtain ⟨f, hf⟩ := s.refuses d unknown
      nomatch hc.symm.trans hf
  refine List.mem_dedup.2 (List.mem_filterMap.2 ⟨c, known, ?_⟩)
  rw [next?, hc]
  exact hn

/-- A page names one cursor at most. -/
theorem leads_unique : Relator.RightUnique (Leads s.serve) := by
  rintro c _ _ ⟨page, next, h, hn, rfl⟩ ⟨page', next', h', hn', rfl⟩
  obtain rfl := Except.ok.inj (h.symm.trans h')
  exact hn.symm.trans hn'

/-- There is one failure on the way at most. -/
theorem failure_unique {c d : Option String} {f g : Failure} (hc : s.OnWay c) (hd : s.OnWay d)
    (hf : s.serve c = .error f) (hg : s.serve d = .error g) : f = g := by
  have stuck {c d : Option String} {f : Failure} (hf : s.serve c = .error f)
      (way : Relation.ReflTransGen (Leads s.serve) c d) : c = d := by
    rcases way.cases_head with rfl | ⟨_, ⟨page, _, hp, -, -⟩, -⟩
    · rfl
    · nomatch hf.symm.trans hp
  have same : c = d := by
    rcases Relation.ReflTransGen.total_of_right_unique leads_unique hc hd with way | way
    · exact stuck hf way
    · exact (stuck hg way).symm
  exact Except.error.inj (hf.symm.trans (same ▸ hg))

theorem onWay_of_mem {r : Option (Except Failure (List α))}
    (w : Walk s.serve limit [] none later r) {c : Option String}
    (h : c ∈ none :: later.map some) : s.OnWay c :=
  List.IsChain.induction s.OnWay _ w.isChain (fun _ _ lead way => way.tail lead)
    (fun _ => .refl) c h

theorem mem_of_onWay {items : List α} (w : Walk s.serve limit [] none later (some (.ok items)))
    {c : Option String} (h : s.OnWay c) : c ∈ none :: later.map some := by
  induction h with
  | refl => exact List.mem_cons_self
  | tail _ lead ih =>
    obtain ⟨n, rfl, hs | hl⟩ := w.closed _ ih _ lead
    · nomatch hs
    · exact List.mem_cons_of_mem _ (List.mem_map_of_mem hl)

/-- The cursors that are followed are among those that pages name. -/
theorem length_le_cursors {r : Option (Except Failure (List α))}
    (w : Walk s.serve limit [] none later r) : later.length ≤ s.cursors.length := by
  have named : ∀ c ∈ none :: later.map some, ∀ n, c = some n → n ∈ s.cursors := by
    refine List.IsChain.induction (fun c => ∀ n, c = some n → n ∈ s.cursors) _ w.isChain ?_ ?_
    · rintro c _ lead - n rfl
      exact mem_cursors lead
    · intro _ n h
      nomatch h
  refine (List.Nodup.subperm w.fresh.1 fun n hn => ?_).length_le
  exact named _ (List.mem_cons_of_mem _ (List.mem_map_of_mem hn)) n rfl

/-- The last of the pages that a walk to items has fetched names no cursor, or one that the walk
has followed. -/
theorem last_of_pages {items : List α} {pages : List (Page α)}
    (w : Walk s.serve limit [] none later (some (.ok items)))
    (served : List.Forall₂ (fun c p => s.serve c = .ok p) (none :: later.map some) pages) :
    ∃ last, pages.getLast? = some last ∧
      (last.next = none ∨ ∃ c ∈ later, last.next = some c) := by
  obtain ⟨last, hlast⟩ : ∃ last, pages.getLast? = some last := by
    cases served with
    | cons _ _ => exact ⟨_, List.getLast?_eq_some_getLast (List.cons_ne_nil _ _)⟩
  refine ⟨last, hlast, ?_⟩
  obtain ⟨c, hc, hp⟩ := exists_left_of_forall₂ served _ (List.mem_of_getLast? hlast)
  cases hn : last.next with
  | none => exact .inl rfl
  | some next =>
    obtain ⟨n, hn', h | h⟩ := w.closed c hc (some next) ⟨last, next, hp, hn, rfl⟩
    · nomatch h
    · exact .inr ⟨n, h, hn'⟩

/-- **A walk that is not cut off drains its source.** -/
theorem drained_of_walk {r : Except Failure (List α)}
    (w : Walk s.serve limit [] none later (some r)) : s.Drained later r where
  once := w.fresh.1
  bounded := length_le_cursors w
  follows := w.isChain
  items := by
    rintro items rfl
    obtain ⟨pages, served, rfl⟩ := w.exists_pages
    obtain ⟨last, hlast, stop⟩ := last_of_pages w served
    exact ⟨pages, last, served, rfl, hlast, stop⟩
  complete := by
    rintro items rfl c
    exact ⟨mem_of_onWay w, onWay_of_mem w⟩
  fails f := by
    constructor
    · rintro rfl
      obtain ⟨c, hc, h⟩ := w.exists_of_error
      exact ⟨c, onWay_of_mem w hc, h⟩
    · rintro ⟨c, way, h⟩
      cases r with
      | error g =>
        obtain ⟨d, hd, hg⟩ := w.exists_of_error
        rw [failure_unique way (onWay_of_mem w hd) h hg]
      | ok items =>
        obtain ⟨pages, served, -⟩ := w.exists_pages
        obtain ⟨page, -, hp⟩ := exists_right_of_forall₂ served _ (mem_of_onWay w way)
        nomatch h.symm.trans hp

end PageSource

/-! ## 3. Draining them -/

/-- **Draining a listing comes to an end and loses nothing**, whatever cursors its pages name, when
there are more rounds than such cursors.  The requests are those for the first page and then for
the pages of `later`, one after the other. -/
theorem collectPages_follows_cursors (s : PageSource α) {ask : Option String → Session (Page α)}
    {served : Event → Prop} (hask : Fetches s.serve ask served) {limit : Nat}
    (enough : s.cursors.length < limit) {es : List Event}
    {out : Option (Except Failure (List α))} (h : (collectPages limit ask).Course es out)
    (hs : ∀ e ∈ es, served e) :
    ∃ later parts r, out = some r ∧ es = parts.flatten ∧
      List.Forall₂ (fun c as => (ask c).Course as (some (s.serve c))) (none :: later.map some)
        parts ∧
      s.Drained later r := by
  obtain ⟨later, parts, walk, rfl, fetched⟩ := walk_of_course hask h hs
  have fits := PageSource.length_le_cursors walk
  have all : (none :: later.map some).take limit = none :: later.map some := by
    refine List.take_of_length_le ?_
    rw [List.length_cons, List.length_map]
    omega
  rw [all] at fetched
  cases out with
  | none =>
    have := walk.length_of_cut
    omega
  | some r => exact ⟨later, parts, r, rfl, rfl, fetched, PageSource.drained_of_walk walk⟩

namespace Circling

/-- The pages of a listing that leads to `a`, from there to `b` and from there to `a` again. -/
def pages : Option String → Except Failure (Page VersionSummary)
  | none => .ok ⟨[⟨1, "nginx:1", 0, 0⟩], some "a"⟩
  | some "a" => .ok ⟨[⟨3, "nginx:3", 0, 1⟩], some "b"⟩
  | some "b" => .ok ⟨[⟨2, "nginx:2", 0, 0⟩], some "a"⟩
  | some _ => .error (.notFound "page")

def source : PageSource VersionSummary where
  serve := pages
  known := ["a", "b"]
  refuses c hc := by
    refine ⟨.notFound "page", ?_⟩
    unfold pages
    split <;> simp_all

def replies : (c : Call) → Except Failure c.Reply
  | .listVersions _ cursor => pages cursor
  | _ => .error (.notFound "resource")

/-- Three rounds are enough to come to each of the three pages. -/
theorem drained_of_circle : source.cursors.length < 3 ∧
    (Observe.listVersions 3 (.ofNat 7)).value replies =
      some (.ok [⟨1, "nginx:1", 0, 0⟩, ⟨3, "nginx:3", 0, 1⟩, ⟨2, "nginx:2", 0, 0⟩]) ∧
    ∃ later parts r, (Observe.listVersions 3 (.ofNat 7)).value replies = some r ∧
      (Observe.listVersions 3 (.ofNat 7)).events (Question.answerBy replies) () = parts.flatten ∧
      List.Forall₂ (fun c as => (Session.call (.listVersions (.ofNat 7) c)).Course as
        (some (pages c))) (none :: later.map some) parts ∧
      source.Drained later r := by
  have asked : Fetches source.serve (fun c => Session.call (.listVersions (.ofNat 7) c))
      (·.RepliedBy replies) := by
    intro cursor es out h hs
    obtain ⟨reply, rfl, rfl⟩ := Session.course_call.1 h
    exact congrArg some (hs _ List.mem_cons_self rfl)
  have enough : source.cursors.length < 3 := by decide +kernel
  exact ⟨enough, by decide +kernel, collectPages_follows_cursors source asked enough
    (Session.course_of_run _ _ ()) (Session.repliedBy_events (fun _ _ _ => rfl) _ ())⟩

end Circling

end Converge
