import Converge.Proofs.Course
/-!
# What a step of an apply can do

`ApplyContext.Acts c s p es out` lists everything that the step `s`, begun with the progress `p`,
can live through and come to: one constructor for each way in which the step can go, with the
guards that lead there, the requests and their replies, and the progress afterwards.  What is true
of every step is proved by going through these constructors and never by unfolding a step.

Looking for the owner of a load balancer and for the application that a version belongs to are
relations of their own (`Owns`, `Targets`).  Waiting until a resource is gone only reads
(`Deletion.reads_wait`), and so does draining a listing.

Main statement: `ApplyContext.acts_of_course`.
-/

namespace Converge

open Execution

/-! ## 1. Parts that only read -/

theorem reads_collectFrom {fetch : Option String → Session (Page α)}
    (hf : ∀ cursor, (fetch cursor).Reads) : ∀ limit seen cursor,
    (collectFrom fetch limit seen cursor).Reads
  | 0, _, _ => Session.reads_unfinished
  | limit + 1, seen, cursor => by
    unfold collectFrom
    refine Session.reads_bind (hf cursor) fun page => ?_
    cases page.next with
    | none => exact Session.reads_pure _
    | some next =>
      dsimp only
      split
      · exact Session.reads_log_bind (Session.reads_pure _)
      · refine Session.reads_log_bind (Session.reads_bind ?_ fun rest => Session.reads_pure _)
        exact reads_collectFrom hf limit _ _

theorem Observe.reads_listGroups (limit : Nat) (cluster : Uuid) :
    (Observe.listGroups limit cluster).Reads :=
  reads_collectFrom (fun _ => Session.reads_call rfl) limit [] none

theorem Observe.reads_latestVersion (limit : Nat) (application : Uuid) :
    (Observe.latestVersion limit application).Reads := by
  refine Session.reads_bind ?_ fun summaries => ?_
  · exact reads_collectFrom (fun _ => Session.reads_call rfl) limit [] none
  · split
    · exact Session.reads_bind (Session.reads_call rfl) fun _ => Session.reads_pure _
    · exact Session.reads_pure _

namespace Deletion

theorem reads_waitFrom {poll : PollSettings} {resourceType name : String} {start : Nat}
    {probe : Session α} (hp : probe.Reads) :
    ∀ limit, (waitFrom poll resourceType name start probe limit).Reads
  | 0 => Session.reads_unfinished
  | limit + 1 => by
    refine Session.reads_outcome_bind hp (fun _ => ?_) fun g => ?_
    · refine Session.reads_log_bind (Session.reads_ask_bind (fun _ => rfl) fun now => ?_)
      dsimp only
      split
      · exact Session.reads_log_bind (Session.reads_throw _)
      · exact Session.reads_ask_bind (fun _ => rfl) fun _ => reads_waitFrom hp limit
    · dsimp only
      split
      · exact .inr rfl
      · exact .inl (Session.reads_log_bind (Session.reads_log _ _))

/-- Waiting until a resource is gone changes nothing. -/
theorem reads_wait (limit : Nat) (poll : PollSettings) (resourceType name : String)
    {probe : Session α} (hp : probe.Reads) : (wait limit poll resourceType name probe).Reads :=
  Session.reads_ask_bind (fun _ => rfl) fun _ => reads_waitFrom hp limit

end Deletion

/-! ## 2. Everything a step can do -/

/-- The progress after something was added to the report. -/
def Progress.reported (p : Progress) (change : ExecutionResult → ExecutionResult) : Progress :=
  { p with result := change p.result }

/-- The progress after a group was created. -/
def Progress.withGroup (p : Progress) (name : String) (id : Uuid) : Progress :=
  { p with
    created := (name, id) :: p.created
    result := { p.result with createdGroups := p.result.createdGroups ++ [name] } }

/-- The progress after a version was written: the ledger knows what it carried. -/
def Progress.recorded (p : Progress) (name : String) (spec : ApplicationSpec) : Progress :=
  { p with
    ledger := (p.ledger.record name spec).1
    result := { p.result with
      ledgerModified := p.result.ledgerModified || (p.ledger.record name spec).2 } }

namespace ApplyContext

variable (c : ApplyContext)

/-- How the owner of a load balancer is found. -/
inductive Owns (a : BalancerAction) (p : Progress) :
    List Event → Option (Except Failure Uuid) → Prop where
  | created {id} (h : p.created.lookup a.groupName = some id) : Owns a p [] (some (.ok id))
  | planned {id} (hc : p.created.lookup a.groupName = none) (h : a.groupId = some id) :
      Owns a p [] (some (.ok id))
  | found {es groups g} (hc : p.created.lookup a.groupName = none) (hp : a.groupId = none)
      (h : (Observe.listGroups c.limit c.cluster.id).Course es (some (.ok groups)))
      (hg : groups.find? (·.name = a.groupName) = some g) : Owns a p es (some (.ok g.id))
  | missing {es groups} (hc : p.created.lookup a.groupName = none) (hp : a.groupId = none)
      (h : (Observe.listGroups c.limit c.cluster.id).Course es (some (.ok groups)))
      (hg : groups.find? (·.name = a.groupName) = none) :
      Owns a p es (some (.error (.apply (.missingIdentifier "create" "load balancer" a.name
        ("auto-scaling group " ++ a.groupName ++ " does not exist")))))
  | unlisted {es f} (hc : p.created.lookup a.groupName = none) (hp : a.groupId = none)
      (h : (Observe.listGroups c.limit c.cluster.id).Course es (some (.error f))) :
      Owns a p es (some (.error f))
  | unfinished {es} (hc : p.created.lookup a.groupName = none) (hp : a.groupId = none)
      (h : (Observe.listGroups c.limit c.cluster.id).Course es none) : Owns a p es none

/-- How the application that a version belongs to is found, with the version before it. -/
inductive Targets (a : ApplicationAction) (p : Progress) : List Event →
    Option (Except Failure (Uuid × Option ApplicationVersion) × Progress) → Prop where
  | created {id} (h : a.action = .create) :
      Targets a p [.request (.createApplication ⟨a.name, c.cluster.id⟩) (.ok id)]
        (some (.ok (id, none), p.reported fun r =>
          { r with createdApplications := r.createdApplications ++ [a.name] }))
  | refused {f} (h : a.action = .create) :
      Targets a p [.request (.createApplication ⟨a.name, c.cluster.id⟩) (.error f)]
        (some (.error f, p))
  | unidentified (h : a.action ≠ .create) (hi : a.applicationId = none) :
      Targets a p [] (some (.error (.apply (.missingIdentifier "update" "application" a.name
        noIdentifier)), p))
  | based {id es o} (h : a.action ≠ .create) (hi : a.applicationId = some id)
      (hb : (Observe.latestVersion c.limit id).Course es o) :
      Targets a p es (o.map fun r => (r.map fun base => (id, base), p))

/-- Everything that a step can live through and come to. -/
inductive Acts : ApplyStep → Progress → List Event →
    Option (Except Failure Unit × Progress) → Prop where
  | settingsMissing {p} (h : c.desired.cluster = none) :
      Acts .updateSettings p []
        (some (.error (.apply (.missingConfig "cluster settings" c.cluster.name)), p))
  | settings {p s} (h : c.desired.cluster = some s) (reply : Except Failure Unit) :
      Acts .updateSettings p [.request (.updateCluster c.cluster.id s.request) reply]
        (some (noted p (fun _ q => q.reported fun r => { r with clusterUpdated := true }) reply))
  | balancerUnidentified {a p} (h : a.groupId = none ∨ a.existingId = none) :
      Acts (.deleteBalancer a) p [] (some (.error (.apply
        (.missingIdentifier "delete" "load balancer" a.label noIdentifier)), p))
  | balancerRefused {a p owner id f} (ho : a.groupId = some owner) (hi : a.existingId = some id) :
      Acts (.deleteBalancer a) p
        [.request (.deleteBalancer c.cluster.id owner id) (.error f)] (some (.error f, p))
  | balancerDeleted {a p owner id es o} (ho : a.groupId = some owner)
      (hi : a.existingId = some id)
      (hw : (Deletion.wait c.limit c.poll "load balancer" a.name
        (Session.call (.getBalancer c.cluster.id owner id))).Course es o) :
      Acts (.deleteBalancer a) p
        (.request (.deleteBalancer c.cluster.id owner id) (.ok ()) :: es)
        (o.map (noted p fun _ q => q.reported fun r =>
          { r with deletedBalancers := r.deletedBalancers ++ [a.label] }))
  | groupUnidentified {a p} (h : a.existingId = none) :
      Acts (.deleteGroup a) p [] (some (.error (.apply
        (.missingIdentifier "delete" "auto-scaling group" a.name noIdentifier)), p))
  | groupRefused {a p id f} (hi : a.existingId = some id) :
      Acts (.deleteGroup a) p [.request (.deleteGroup c.cluster.id id) (.error f)]
        (some (.error f, p))
  | groupDeleted {a p id es o} (hi : a.existingId = some id)
      (hw : (Deletion.wait c.limit c.poll "auto-scaling group" a.name
        (Session.call (.getGroup c.cluster.id id))).Course es o) :
      Acts (.deleteGroup a) p (.request (.deleteGroup c.cluster.id id) (.ok ()) :: es)
        (o.map (noted p fun _ q => q.reported fun r =>
          { r with deletedGroups := r.deletedGroups ++ [a.name] }))
  | groupUnknown {a p} (h : c.desired.group? a.name = none) :
      Acts (.createGroup a) p []
        (some (.error (.apply (.missingConfig "auto-scaling group" a.name)), p))
  | groupCreated {a p g} (h : c.desired.group? a.name = some g) (reply : Except Failure Uuid) :
      Acts (.createGroup a) p [.request (.createGroup c.cluster.id g.request) reply]
        (some (noted p (fun id q => q.withGroup a.name id) reply))
  | balancerUnknown {a p} (h : c.desired.balancer? a.groupName a.name = none) :
      Acts (.createBalancer a) p []
        (some (.error (.apply (.missingConfig "load balancer" a.label)), p))
  | balancerOwnerless {a p b es o} (h : c.desired.balancer? a.groupName a.name = some b)
      (ho : c.Owns a p es o) (hn : ∀ id, o ≠ some (.ok id)) :
      Acts (.createBalancer a) p es (o.map fun r => (r.map fun _ => (), p))
  | balancerCreated {a p b es owner} (h : c.desired.balancer? a.groupName a.name = some b)
      (ho : c.Owns a p es (some (.ok owner))) (reply : Except Failure Uuid) :
      Acts (.createBalancer a) p
        (es ++ [.request (.createBalancer c.cluster.id owner b.request) reply])
        (some (noted p (fun _ q => q.reported fun r =>
          { r with createdBalancers := r.createdBalancers ++ [a.label] }) reply))
  | applicationUnknown {a p} (h : c.desired.application? a.name = none) :
      Acts (.application a) p []
        (some (.error (.apply (.missingConfig "application" a.name)), p))
  | applicationUntargeted {a p w es out} (h : c.desired.application? a.name = some w)
      (ht : c.Targets a p es out) (hn : ∀ t q, out ≠ some (.ok t, q)) :
      Acts (.application a) p es (out.map fun r => (r.1.map fun _ => (), r.2))
  | versionRefused {a p w es id base q f} (h : c.desired.application? a.name = some w)
      (ht : c.Targets a p es (some (.ok (id, base), q))) :
      Acts (.application a) p
        (es ++ [.request (.createVersion id (w.spec.request base)) (.error f)])
        (some (.error f, q))
  | versionKept {a p w es id base q version} (h : c.desired.application? a.name = some w)
      (ht : c.Targets a p es (some (.ok (id, base), q))) (hn : c.activate = false) :
      Acts (.application a) p
        (es ++ [.request (.createVersion id (w.spec.request base)) (.ok version)])
        (some (.ok (), (q.recorded a.name w.spec).reported fun r =>
          { r with versions := r.versions ++ [⟨a.name, version, c.activate⟩] }))
  | versionActivated {a p w es id base q version} (h : c.desired.application? a.name = some w)
      (ht : c.Targets a p es (some (.ok (id, base), q))) (hy : c.activate = true)
      (reply : Except Failure Unit) :
      Acts (.application a) p
        (es ++ [.request (.createVersion id (w.spec.request base)) (.ok version),
          .request (.updateApplication id ⟨some version⟩) reply])
        (some (noted (q.recorded a.name w.spec) (fun _ q => q.reported fun r =>
          { r with versions := r.versions ++ [⟨a.name, version, c.activate⟩] }) reply))

variable {c}

/-! ## 3. Every course of a step is listed -/

section

variable {p : Progress} {es : List Event}

theorem owns_of_course {a : BalancerAction} {out : Option (Except Failure Uuid × Progress)}
    (h : Execution.Course (c.owner a) p es out) :
    ∃ o, c.Owns a p es o ∧ out = o.map (·, p) := by
  have h := course_get_bind.1 h
  split at h
  next id hc =>
    obtain ⟨rfl, rfl⟩ := Execution.course_pure.1 h
    exact ⟨_, .created hc, rfl⟩
  next hc =>
    split at h
    next id hp =>
      obtain ⟨rfl, rfl⟩ := Execution.course_pure.1 h
      exact ⟨_, .planned hc hp, rfl⟩
    next hp =>
      rcases course_session_bind.1 h with ⟨as, bs, groups, rfl, hs, hr⟩ | ⟨g, hs, rfl⟩ | ⟨hs, rfl⟩
      · have hs := Session.course_log_bind.1 hs
        obtain ⟨rfl, rfl⟩ := course_need.1 hr
        rw [List.append_nil]
        cases hg : groups.find? (·.name = a.groupName) with
        | none => exact ⟨_, .missing hc hp hs hg, by simp⟩
        | some g => exact ⟨_, .found hc hp hs hg, by simp⟩
      · exact ⟨_, .unlisted hc hp (Session.course_log_bind.1 hs), rfl⟩
      · exact ⟨_, .unfinished hc hp (Session.course_log_bind.1 hs), rfl⟩

theorem targets_of_course {a : ApplicationAction}
    {out : Option (Except Failure (Uuid × Option ApplicationVersion) × Progress)}
    (h : Execution.Course (c.target a) p es out) : c.Targets a p es out := by
  unfold target at h
  split at h
  next ha =>
    rcases course_session_bind.1 h with ⟨as, bs, id, rfl, hs, hr⟩ | ⟨g, hs, rfl⟩ | ⟨hs, rfl⟩
    · obtain ⟨reply, rfl, hreply⟩ := Session.course_call.1 (Session.course_log_bind.1 hs)
      obtain rfl := Option.some.inj hreply
      obtain ⟨rfl, rfl⟩ := Execution.course_pure.1 hr
      exact .created ha
    · obtain ⟨reply, rfl, hreply⟩ := Session.course_call.1 (Session.course_log_bind.1 hs)
      obtain rfl := Option.some.inj hreply
      exact .refused ha
    · obtain ⟨reply, rfl, hreply⟩ := Session.course_call.1 (Session.course_log_bind.1 hs)
      nomatch hreply
  next ha =>
    rcases course_need_bind.1 h with ⟨id, hi, h⟩ | ⟨hi, rfl, rfl⟩
    · rcases course_session_bind.1 h with ⟨as, bs, base, rfl, hs, hr⟩ | ⟨g, hs, rfl⟩ | ⟨hs, rfl⟩
      · obtain ⟨rfl, rfl⟩ := Execution.course_pure.1 hr
        rw [List.append_nil]
        exact .based ha hi hs
      · exact .based ha hi hs
      · exact .based ha hi hs
    · exact .unidentified ha hi

/-- A request that is announced in the log. -/
theorem course_announced {text : String} {k : Call} {out : Option (Except Failure k.Reply)} :
    Session.Course (do Session.info text; Session.call k) es out ↔
      ∃ reply, es = [.request k reply] ∧ out = some reply :=
  Session.course_log_bind.trans Session.course_call

theorem acts_updateSettings {out : Option (Except Failure Unit × Progress)}
    (h : Execution.Course c.updateSettings p es out) : c.Acts .updateSettings p es out := by
  rcases course_need_bind.1 h with ⟨s, hs, h⟩ | ⟨hs, rfl, rfl⟩
  · obtain ⟨o, ho, rfl⟩ := course_session_note.1 h
    obtain ⟨reply, rfl, rfl⟩ := course_announced.1 ho
    exact .settings hs reply
  · exact .settingsMissing hs

theorem acts_deleteBalancer {a : BalancerAction} {out : Option (Except Failure Unit × Progress)}
    (h : Execution.Course (c.deleteBalancer a) p es out) :
    c.Acts (.deleteBalancer a) p es out := by
  rcases course_need_bind.1 h with ⟨owner, ho, h⟩ | ⟨ho, rfl, rfl⟩
  · rcases course_need_bind.1 h with ⟨id, hi, h⟩ | ⟨hi, rfl, rfl⟩
    · obtain ⟨o, hd, rfl⟩ := course_session_note.1 h
      rcases Session.course_call_bind.1 (Session.course_log_bind.1 hd) with
        ⟨-, rest, rfl, hw⟩ | ⟨f, rfl, rfl⟩
      · exact .balancerDeleted ho hi hw
      · exact .balancerRefused ho hi
    · exact .balancerUnidentified (.inr hi)
  · exact .balancerUnidentified (.inl ho)

theorem acts_deleteGroup {a : GroupAction} {out : Option (Except Failure Unit × Progress)}
    (h : Execution.Course (c.deleteGroup a) p es out) : c.Acts (.deleteGroup a) p es out := by
  rcases course_need_bind.1 h with ⟨id, hi, h⟩ | ⟨hi, rfl, rfl⟩
  · obtain ⟨o, hd, rfl⟩ := course_session_note.1 h
    rcases Session.course_call_bind.1 (Session.course_log_bind.1 hd) with
      ⟨-, rest, rfl, hw⟩ | ⟨f, rfl, rfl⟩
    · exact .groupDeleted hi hw
    · exact .groupRefused hi
  · exact .groupUnidentified hi

theorem acts_createGroup {a : GroupAction} {out : Option (Except Failure Unit × Progress)}
    (h : Execution.Course (c.createGroup a) p es out) : c.Acts (.createGroup a) p es out := by
  rcases course_need_bind.1 h with ⟨g, hg, h⟩ | ⟨hg, rfl, rfl⟩
  · obtain ⟨o, ho, rfl⟩ := course_session_note.1 h
    rcases Session.course_call_bind.1 (Session.course_log_bind.1 ho) with
      ⟨id, rest, rfl, hr⟩ | ⟨f, rfl, rfl⟩
    · obtain ⟨rfl, rfl⟩ := Session.course_log_pure.1 hr
      exact .groupCreated hg (.ok id)
    · exact .groupCreated hg (.error f)
  · exact .groupUnknown hg

theorem acts_createBalancer {a : BalancerAction} {out : Option (Except Failure Unit × Progress)}
    (h : Execution.Course (c.createBalancer a) p es out) :
    c.Acts (.createBalancer a) p es out := by
  rcases course_need_bind.1 h with ⟨b, hb, h⟩ | ⟨hb, rfl, rfl⟩
  · rcases Execution.course_bind.1 h with ⟨as, bs, owner, q, rfl, ho, h⟩ | ⟨g, q, ho, rfl⟩ |
      ⟨ho, rfl⟩
    · obtain ⟨_ | r, hown, hq⟩ := owns_of_course ho <;> cases hq
      obtain ⟨o, ho, rfl⟩ := course_session_note.1 h
      rcases Session.course_call_bind.1 (Session.course_log_bind.1 ho) with
        ⟨id, rest, rfl, hr⟩ | ⟨f, rfl, rfl⟩
      · obtain ⟨rfl, rfl⟩ := Session.course_log.1 hr
        exact .balancerCreated hb hown (.ok id)
      · exact .balancerCreated hb hown (.error f)
    · obtain ⟨_ | r, hown, hq⟩ := owns_of_course ho <;> cases hq
      exact .balancerOwnerless hb hown fun _ h => nomatch h
    · obtain ⟨_ | r, hown, hq⟩ := owns_of_course ho <;> cases hq
      exact .balancerOwnerless hb hown fun _ h => nomatch h
  · exact .balancerUnknown hb

theorem acts_application {a : ApplicationAction} {out : Option (Except Failure Unit × Progress)}
    (h : Execution.Course (c.application a) p es out) : c.Acts (.application a) p es out := by
  rcases course_need_bind.1 h with ⟨w, hw, h⟩ | ⟨hw, rfl, rfl⟩
  · rcases Execution.course_bind.1 h with ⟨as, bs, ⟨id, base⟩, q, rfl, ht, h⟩ | ⟨g, q, ht, rfl⟩ |
      ⟨ht, rfl⟩
    · have ht := targets_of_course ht
      rcases course_session_bind.1 h with ⟨cs, ds, version, rfl, hs, hn⟩ | ⟨g, hs, rfl⟩ |
        ⟨hs, rfl⟩
      · rcases Session.course_call_bind.1 hs with ⟨v, rest, rfl, hr⟩ | ⟨f, -, hf⟩
        · obtain ⟨rfl, hv⟩ := Session.course_log_pure.1 hr
          obtain rfl := Except.ok.inj (Option.some.inj hv)
          have hn := course_note_bind.1 hn
          dsimp only at hn
          split at hn
          next hy =>
            obtain ⟨o, ho, rfl⟩ := course_session_note.1 hn
            obtain ⟨reply, rfl, rfl⟩ := course_announced.1 ho
            exact .versionActivated hw ht hy reply
          next hy =>
            obtain ⟨rfl, rfl⟩ := course_note.1 hn
            exact .versionKept hw ht (by simpa using hy)
        · nomatch hf
      · rcases Session.course_call_bind.1 hs with ⟨v, rest, rfl, hr⟩ | ⟨f, rfl, hf⟩
        · obtain ⟨-, hv⟩ := Session.course_log_pure.1 hr
          nomatch hv
        · obtain rfl := Except.error.inj (Option.some.inj hf)
          exact .versionRefused hw ht
      · rcases Session.course_call_bind.1 hs with ⟨v, rest, rfl, hr⟩ | ⟨f, rfl, hf⟩
        · obtain ⟨-, hv⟩ := Session.course_log_pure.1 hr
          nomatch hv
        · nomatch hf
    · exact .applicationUntargeted hw (targets_of_course ht) fun _ _ h => nomatch h
    · exact .applicationUntargeted hw (targets_of_course ht) fun _ _ h => nomatch h
  · exact .applicationUnknown hw

/-- **Every course of a step is listed.** -/
theorem acts_of_course {s : ApplyStep} {out : Option (Except Failure Unit × Progress)}
    (h : Execution.Course (c.act s) p es out) : c.Acts s p es out := by
  cases s with
  | updateSettings => exact acts_updateSettings h
  | deleteBalancer a => exact acts_deleteBalancer h
  | deleteGroup a => exact acts_deleteGroup h
  | createGroup a => exact acts_createGroup h
  | createBalancer a => exact acts_createBalancer h
  | application a => exact acts_application h

end

end ApplyContext

end Converge
