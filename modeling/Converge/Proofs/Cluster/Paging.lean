import Converge.Cluster.Observe
import Converge.Proofs.Course
/-!
# Draining a listing

`Pages fetch cursor n items` says that the pages of a listing from a cursor on come to an end after
`n` further ones and hold `items` in their order.  A listing that comes to an end visits no cursor
twice, since each page is nearer to the end than the one before it; so it is never cut short, and
`collectFrom` returns all of it.  What is said of a listing may be said of one feature of its
entries only, such as the number of a version.

Main statements: `Pages.collected` and `Paging.collected`.
-/

namespace Converge

variable {α β : Type}

/-- A page with one feature of each of its items. -/
def Page.map (f : β → α) (p : Page β) : Page α := ⟨p.items.map f, p.next⟩

@[simp] theorem Page.map_id (p : Page α) : p.map id = p := by
  rw [Page.map, List.map_id]

/-- The items of the pages from a cursor on, and how many pages come after the first. -/
inductive Pages (fetch : Option String → Page α) : Option String → Nat → List α → Prop where
  | last {cursor} (h : (fetch cursor).next = none) : Pages fetch cursor 0 (fetch cursor).items
  | next {cursor following n items} (h : (fetch cursor).next = some following)
      (hr : Pages fetch (some following) n items) :
      Pages fetch cursor (n + 1) ((fetch cursor).items ++ items)

/-- A way of serving listings in pages: whatever is listed, its pages come to an end and hold each
item once. -/
structure Paging where
  page : {α : Type} → List α → Option String → Page α
  drains : ∀ {α : Type} (l : List α), ∃ n items, Pages (page l) none n items ∧ items.Perm l

/-- Everything on one page. -/
def Paging.single : Paging where
  page l _ := ⟨l, none⟩
  drains l := ⟨0, l, .last rfl, .refl l⟩

namespace Pages

variable {fetch : Option String → Page α} {cursor : Option String} {n m : Nat}
  {items others : List α}

/-- How many pages are left is determined by the cursor. -/
theorem count_unique (h : Pages fetch cursor n items) (h' : Pages fetch cursor m others) :
    n = m := by
  induction h generalizing m others with
  | last h =>
    cases h' with
    | last _ => rfl
    | next hn _ => rw [h] at hn; nomatch hn
  | next h _ ih =>
    cases h' with
    | last hn => rw [h] at hn; nomatch hn
    | next hn hr' =>
      obtain rfl := Option.some.inj (h.symm.trans hn)
      rw [ih hr']

/-- **A listing is drained.**  The induction is on the pages that are left; every cursor that was
visited has at least as many pages left as the present one. -/
theorem collected {f : β → α} {ask : Option String → Session (Page β)} {served : Event → Prop}
    (hask : ∀ cursor es page, (ask cursor).Course es (some (.ok page)) → (∀ e ∈ es, served e) →
      page.map f = fetch cursor)
    (hp : Pages fetch cursor n items) : ∀ {limit : Nat} {seen : List String} {es : List Event}
      {found : List β},
      (∀ c ∈ seen, ∃ k rest, n ≤ k ∧ Pages fetch (some c) k rest) →
      (collectFrom ask limit seen cursor).Course es (some (.ok found)) → (∀ e ∈ es, served e) →
      found.map f = items := by
  induction hp with
  | last h =>
    rintro (_ | limit) seen es found - hc hs
    · nomatch (Session.course_unfinished.1 hc).2
    obtain ⟨as, bs, page, rfl, ha, hb⟩ := Session.course_bind_ok.1 hc
    have same := hask _ _ _ ha fun e he => hs e (List.mem_append_left _ he)
    have hn : page.next = none := (congrArg Page.next same).trans h
    rw [hn] at hb
    obtain ⟨-, hr⟩ := Session.course_pure.1 hb
    obtain rfl := Except.ok.inj (Option.some.inj hr)
    exact congrArg Page.items same
  | @next cursor following n items h hr ih =>
    rintro (_ | limit) seen es found hseen hc hs
    · nomatch (Session.course_unfinished.1 hc).2
    have fresh : following ∉ seen := by
      intro hmem
      obtain ⟨k, rest, hk, hrest⟩ := hseen following hmem
      have := hr.count_unique hrest
      omega
    have visited : ∀ c ∈ following :: seen, ∃ k rest, n ≤ k ∧ Pages fetch (some c) k rest := by
      intro c hmem
      rcases List.mem_cons.1 hmem with rfl | hmem
      · exact ⟨n, items, Nat.le_refl n, hr⟩
      · obtain ⟨k, rest, hk, hrest⟩ := hseen c hmem
        exact ⟨k, rest, by omega, hrest⟩
    obtain ⟨as, bs, page, rfl, ha, hb⟩ := Session.course_bind_ok.1 hc
    have same := hask _ _ _ ha fun e he => hs e (List.mem_append_left _ he)
    have hn : page.next = some following := (congrArg Page.next same).trans h
    rw [hn] at hb
    dsimp only at hb
    rw [if_neg fresh] at hb
    obtain ⟨cs, ds, rest, rfl, hrest, hd⟩ :=
      Session.course_bind_ok.1 (Session.course_log_bind.1 hb)
    have others := ih visited hrest fun e he =>
      hs e (List.mem_append_right _ (List.mem_append_left _ he))
    obtain ⟨-, hr⟩ := Session.course_pure.1 hd
    obtain rfl := Except.ok.inj (Option.some.inj hr)
    rw [List.map_append, others, ← same]
    rfl

end Pages

/-- **What is collected from a listing that is served in pages is what is listed**, in some order
that depends on the listing alone. -/
theorem Paging.collected (paging : Paging) (l : List α) : ∃ items : List α, items.Perm l ∧
    ∀ {f : β → α} {ask : Option String → Session (Page β)} {served : Event → Prop},
      (∀ cursor es page, (ask cursor).Course es (some (.ok page)) → (∀ e ∈ es, served e) →
        page.map f = paging.page l cursor) →
      ∀ {limit : Nat} {es : List Event} {found : List β},
        (collectPages limit ask).Course es (some (.ok found)) → (∀ e ∈ es, served e) →
        found.map f = items := by
  obtain ⟨n, items, hp, hperm⟩ := paging.drains l
  exact ⟨items, hperm, fun hask _ _ _ h hs =>
    hp.collected hask (fun _ => List.not_mem_nil.elim) h hs⟩

/-- In particular the entries are those that are listed. -/
theorem Paging.collected_perm (paging : Paging) {l : List α}
    {ask : Option String → Session (Page α)} {served : Event → Prop}
    (hask : ∀ cursor es page, (ask cursor).Course es (some (.ok page)) → (∀ e ∈ es, served e) →
      page = paging.page l cursor)
    {limit : Nat} {es : List Event} {found : List α}
    (h : (collectPages limit ask).Course es (some (.ok found))) (hs : ∀ e ∈ es, served e) :
    found.Perm l := by
  obtain ⟨items, hperm, collected⟩ := paging.collected (β := α) l
  have same := collected (f := id)
    (fun cursor es page hc hp => by rw [Page.map_id, hask cursor es page hc hp]) h hs
  rw [List.map_id] at same
  exact same ▸ hperm

/-- However a listing is served, what is collected stands on its pages. -/
theorem mem_page_of_course_collectFrom {ask : Option String → Session (Page α)} {a : α} :
    ∀ {limit : Nat} {seen : List String} {cursor : Option String} {es : List Event}
      {found : List α}, (collectFrom ask limit seen cursor).Course es (some (.ok found)) →
      a ∈ found → ∃ at_ page as, (ask at_).Course as (some (.ok page)) ∧ as ⊆ es ∧ a ∈ page.items
  | 0, _, _, _, _, h, _ => nomatch (Session.course_unfinished.1 h).2
  | limit + 1, seen, cursor, es, found, h, ha => by
    obtain ⟨as, bs, page, rfl, hp, hb⟩ := Session.course_bind_ok.1 h
    have here (hm : a ∈ page.items) : ∃ at_ page as', (ask at_).Course as' (some (.ok page)) ∧
        as' ⊆ as ++ bs ∧ a ∈ page.items :=
      ⟨cursor, page, as, hp, List.subset_append_left as bs, hm⟩
    split at hb
    next =>
      obtain ⟨-, hr⟩ := Session.course_pure.1 hb
      exact here (Except.ok.inj (Option.some.inj hr) ▸ ha)
    next following _ =>
      split at hb
      next =>
        have hb := Session.course_log_bind.1 hb
        obtain ⟨-, hr⟩ := Session.course_pure.1 hb
        exact here (Except.ok.inj (Option.some.inj hr) ▸ ha)
      next =>
        obtain ⟨cs, ds, rest, rfl, hrest, hd⟩ :=
          Session.course_bind_ok.1 (Session.course_log_bind.1 hb)
        obtain ⟨-, hr⟩ := Session.course_pure.1 hd
        obtain rfl := Except.ok.inj (Option.some.inj hr)
        rcases List.mem_append.1 ha with ha | ha
        · exact here ha
        · obtain ⟨at_, page', as', hc, hsub, hm⟩ := mem_page_of_course_collectFrom hrest ha
          refine ⟨at_, page', as', hc, fun e he => ?_, hm⟩
          exact List.mem_append_right _ (List.mem_append_left _ (hsub he))

end Converge
