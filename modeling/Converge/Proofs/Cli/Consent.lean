import Converge.Cli.Run
import Converge.Proofs.Cluster.Untouched
import Converge.Proofs.Config.Validation
/-!
# Nothing is changed without being asked for

Of all commands only `apply` and `activate` change anything, and `apply` only after the plan that it
made of a configuration that breaks no rule was approved of.  A change is found in what a command
lives through by going through its text: a part that changes nothing is passed over
(`Work.Untouched.later`), and what it came to is known of what comes after it.

Main statement: `changed_only_when_asked`.
-/

namespace Converge.Cli

/-! ## 1. What commands ask -/

/-- Whether a question changes a cluster or a stored ledger. -/
def Question.writes : Question → Bool
  | .session _ q => q.writes
  | _ => false

namespace Work

/-- Whether a command changes nothing, whatever it is replied. -/
structure Untouched (w : Work α) : Prop where
  asks : Program.Asks (I := interface) (fun q => q.writes = false) w.run

/-- The exchanges that a command can have, and what it comes to. -/
structure Dialogue (w : Work α) (xs : List (Exchange interface))
    (out : Option (Except Failure α)) : Prop where
  lived : Program.Dialogue (I := interface) w.run xs out

variable {α β : Type}

theorem untouched_pure (a : α) : Untouched (pure a) := ⟨trivial⟩

theorem untouched_throw (f : Failure) : Untouched (throw f : Work α) := ⟨trivial⟩

theorem untouched_ofExcept (r : Except Failure α) : (ofExcept r).Untouched :=
  ⟨trivial⟩

theorem untouched_bind {w : Work α} {f : α → Work β} (hw : w.Untouched)
    (hf : ∀ a, (f a).Untouched) : (w >>= f).Untouched :=
  ⟨Program.asks_run_bind hw.asks fun a => (hf a).asks⟩

theorem untouched_question {q : Question} (h : q.writes = false) :
    Program.Asks (I := interface) (fun q => q.writes = false) (Program.question q) :=
  Program.asks_question h

theorem untouched_ask {q : Question} (h : q.writes = false) : (ask q).Untouched :=
  ⟨⟨h, fun _ => trivial⟩⟩

theorem untouched_printLine (text : String) : (printLine text).Untouched := untouched_ask rfl

theorem untouched_log (level : Level) (text : String) : (log level text).Untouched :=
  untouched_ask rfl

theorem untouched_tell (text : String) : (tell text).Untouched := untouched_ask rfl

/-- Working on files changes no cluster and no ledger. -/
theorem untouched_files (w : FileWork Failure α) : (files w).Untouched :=
  ⟨Program.asks_translate (I := Files.interface)
    (fun q _ => untouched_question (q := .file q) rfl) (Program.asks_true w.run)⟩

/-- A session that changes nothing is held without changing anything. -/
theorem untouched_session {site : Site} {s : Session α} (h : s.Untouched) :
    (session site s).Untouched :=
  ⟨Program.asks_translate (I := Session.interface)
    (fun q hq => untouched_question (q := .session site q) hq) h⟩

theorem untouched_readLine : readLine.Untouched := by
  refine untouched_bind (untouched_ask rfl) fun r => ?_
  cases r with
  | ok line => exact untouched_pure line
  | error e => exact untouched_throw _

/-- What a command went through that succeeded in two parts. -/
theorem dialogue_bind_ok {w : Work α} {f : α → Work β} {xs : List (Exchange interface)} {b : β}
    (h : (w >>= f).Dialogue xs (some (.ok b))) : ∃ ys zs a, xs = ys ++ zs ∧
      w.Dialogue ys (some (.ok a)) ∧ (f a).Dialogue zs (some (.ok b)) := by
  rcases Program.dialogue_run_bind.1 h.lived with ⟨ys, zs, a, split, hw, hf⟩ | ⟨_, -, h⟩ | ⟨-, h⟩
  · exact ⟨ys, zs, a, split, ⟨hw⟩, ⟨hf⟩⟩
  · nomatch h
  · nomatch h

theorem dialogue_ask {q : Question} {xs : List (Exchange interface)}
    {out : Option (Except Failure q.Reply)} (h : (ask q).Dialogue xs out) :
    ∃ reply, xs = [⟨q, reply⟩] ∧ out = some (.ok reply) := by
  obtain ⟨reply, _, rfl, rfl, rfl⟩ := h.lived
  exact ⟨reply, rfl, rfl⟩

theorem dialogue_pure {a : α} {xs : List (Exchange interface)} {out : Option (Except Failure α)}
    (h : Dialogue (pure a) xs out) : xs = [] ∧ out = some (.ok a) := h.lived

theorem dialogue_ofExcept {r : Except Failure α} {xs : List (Exchange interface)}
    {out : Option (Except Failure α)} (h : (ofExcept r).Dialogue xs out) :
    xs = [] ∧ out = some r := h.lived

/-- A line that is read stands among the exchanges. -/
theorem mem_of_readLine {xs : List (Exchange interface)} {line : String}
    (h : readLine.Dialogue xs (some (.ok line))) : ⟨.readLine, .ok line⟩ ∈ xs := by
  obtain ⟨ys, zs, reply, rfl, asked, read⟩ := dialogue_bind_ok h
  obtain ⟨_, rfl, hr⟩ := dialogue_ask asked
  obtain rfl := Except.ok.inj (Option.some.inj hr)
  cases reply with
  | ok text =>
    obtain ⟨rfl, ht⟩ := dialogue_pure read
    obtain rfl := Except.ok.inj (Option.some.inj ht)
    exact .head _
  | error e => nomatch read.lived.2

/-- **A change is found after a part that changes nothing**, which has come to a result. -/
theorem Untouched.later {w : Work α} {f : α → Work β} (hw : w.Untouched)
    {before after : List (Exchange interface)} {x : Exchange interface}
    {out : Option (Except Failure β)} (hx : x.op.writes = true)
    (h : (w >>= f).Dialogue (before ++ x :: after) out) :
    ∃ ys zs a, before = ys ++ zs ∧ w.Dialogue ys (some (.ok a)) ∧
      (f a).Dialogue (zs ++ x :: after) out := by
  have outside {ys : List (Exchange interface)} {r : Option (Except Failure α)}
      (hd : w.Dialogue ys r) : x ∉ ys := fun mem =>
    Bool.false_ne_true ((Program.Asks.of_mem_dialogue hw.asks hd.lived mem).symm.trans hx)
  rcases Program.dialogue_run_bind.1 h.lived with ⟨ys, zs, a, split, hd, hf⟩ | ⟨f, hd, -⟩ | ⟨hd, -⟩
  · rcases located_of_append_eq split.symm with ⟨rest, rfl, -⟩ | ⟨front, rfl, rfl⟩
    · exact absurd (List.mem_append_right _ List.mem_cons_self) (outside ⟨hd⟩)
    · exact ⟨ys, front, a, rfl, ⟨hd⟩, ⟨hf⟩⟩
  · exact absurd (List.mem_append_right _ List.mem_cons_self) (outside ⟨hd⟩)
  · exact absurd (List.mem_append_right _ List.mem_cons_self) (outside ⟨hd⟩)

/-- There is no change in what changes nothing. -/
theorem Untouched.not_mem {w : Work α} (hw : w.Untouched)
    {before after : List (Exchange interface)} {x : Exchange interface}
    {out : Option (Except Failure α)} (h : w.Dialogue (before ++ x :: after) out) :
    x.op.writes = false :=
  Program.Asks.of_mem_dialogue hw.asks h.lived (List.mem_append_right _ List.mem_cons_self)

end Work

/-! ## 2. Parts that change nothing -/

namespace Run

open Work

theorem untouched_configPath (i : Invocation) : (configPath i).Untouched := by
  unfold configPath
  split
  · exact untouched_pure _
  · exact untouched_files _

theorem untouched_client (environment : Environment) (apiUrl : Option String) :
    (client environment apiUrl).Untouched := by
  refine untouched_bind (untouched_ofExcept _) fun credentials => ?_
  cases apiUrl with
  | some url => exact untouched_bind (untouched_log _ _) fun _ => untouched_pure _
  | none => exact untouched_pure _

theorem untouched_clusterName (config : ClusterConfig) : (clusterName config).Untouched := by
  unfold clusterName
  split
  · exact untouched_throw _
  · exact untouched_pure _

theorem untouched_confirm (prompt : String) : (confirm prompt).Untouched :=
  untouched_bind (untouched_tell _) fun _ =>
    untouched_bind untouched_readLine fun _ => untouched_pure _

variable (run : Run)

theorem untouched_validate (config : ClusterConfig) (warnings : Bool) :
    (run.validate config warnings).Untouched := by
  refine untouched_bind (untouched_log _ _) fun _ => ?_
  refine untouched_bind (untouched_printLine _) fun _ => ?_
  split
  · exact untouched_throw _
  · exact untouched_pure _

theorem untouched_plan (site : Site) (config : ClusterConfig) :
    (run.plan site config).Untouched := by
  refine untouched_bind (untouched_ofExcept _) fun _ => ?_
  refine untouched_bind (untouched_log _ _) fun _ => ?_
  refine untouched_bind (untouched_session (Reconcile.untouched_plan config)) fun plan => ?_
  exact untouched_bind (untouched_printLine _) fun _ => untouched_pure _

theorem untouched_versions (site : Site) (config : ClusterConfig) (app : String) :
    (run.versions site config app).Untouched := by
  refine untouched_bind (untouched_clusterName config) fun cluster => ?_
  exact untouched_bind (untouched_session (Versions.untouched_list cluster app)) fun _ =>
    untouched_printLine _

theorem untouched_diff (site : Site) (config : ClusterConfig) (app : String)
    (older newer : Option Int32) : (run.diff site config app older newer).Untouched := by
  refine untouched_bind (untouched_clusterName config) fun cluster => ?_
  exact untouched_bind (untouched_session (Versions.untouched_diff cluster app older newer))
    fun _ => untouched_printLine _

theorem untouched_dump (environment : Environment) (apiUrl : Option String) (cluster : String) :
    (run.dump environment apiUrl cluster).Untouched := by
  refine untouched_bind (untouched_files _) fun environment => ?_
  refine untouched_bind (untouched_client environment apiUrl) fun client => ?_
  exact untouched_bind (untouched_session (Dump.untouched_cluster cluster)) fun _ =>
    untouched_ask rfl

/-- Of the commands on a configured cluster only applying and activating change anything. -/
theorem untouched_onSite (site : Site) (config : ClusterConfig) {command : Command}
    (notApply : ∀ activate autoApprove, command ≠ .apply activate autoApprove)
    (notActivate : ∀ app target, command ≠ .activate app target) :
    (run.onSite site config command).Untouched := by
  cases command with
  | plan => exact untouched_bind (run.untouched_plan site config) fun _ => untouched_pure _
  | apply activate autoApprove => exact absurd rfl (notApply activate autoApprove)
  | versions app => exact run.untouched_versions site config app
  | diff app older newer => exact run.untouched_diff site config app older newer
  | activate app target => exact absurd rfl (notActivate app target)
  | validate | dump => exact untouched_pure _

/-! ## 3. Approval -/

/-- That a plan was made of a configuration that was loaded and breaks no rule, that the plan has
changes, and that they were approved of: beforehand, or by the answer to a question. -/
inductive Approved (run : Run) (autoApprove : Bool) : List (Exchange interface) → Prop where
  | intro {site : Site} {path : Path} {config : ClusterConfig} {plan : Plan}
      {start loading between planning asking : List (Exchange interface)}
      (loaded : (Work.files (ConfigFile.load path)).Dialogue loading (some (.ok config)))
      (valid : (config.check true).errors = [])
      (planned : (Work.session site (Reconcile.plan run.limit config)).Dialogue planning
        (some (.ok plan)))
      (changes : plan.hasChanges = true)
      (approved : autoApprove = true ∨ ∃ line, ⟨.readLine, .ok line⟩ ∈ asking ∧
        (trimBlank line = "y" ∨ trimBlank line = "Y")) :
      Approved run autoApprove (start ++ loading ++ between ++ planning ++ asking)

/-- An approval is an answer that says so. -/
theorem answered_of_confirm {prompt : String} {xs : List (Exchange interface)}
    (h : (confirm prompt).Dialogue xs (some (.ok true))) :
    ∃ line, ⟨.readLine, .ok line⟩ ∈ xs ∧ (trimBlank line = "y" ∨ trimBlank line = "Y") := by
  obtain ⟨ys, zs, _, rfl, -, h⟩ := dialogue_bind_ok h
  obtain ⟨zs, ws, line, rfl, read, h⟩ := dialogue_bind_ok h
  obtain ⟨rfl, yes⟩ := dialogue_pure h
  refine ⟨line, List.mem_append_right _ (List.mem_append_left _ (mem_of_readLine read)), ?_⟩
  simpa using (Except.ok.inj (Option.some.inj yes)).symm

/-- A plan is made of a configuration that breaks no rule. -/
theorem planned_of_plan {run : Run} {site : Site} {config : ClusterConfig} {plan : Plan}
    {xs : List (Exchange interface)} (h : (run.plan site config).Dialogue xs (some (.ok plan))) :
    (config.check true).errors = [] ∧ ∃ before planning shown, xs = before ++ planning ++ shown ∧
      (Work.session site (Reconcile.plan run.limit config)).Dialogue planning
        (some (.ok plan)) := by
  obtain ⟨_, _, report, rfl, checked, h₁⟩ := dialogue_bind_ok h
  obtain ⟨rfl, valid⟩ := dialogue_ofExcept checked
  obtain ⟨said, _, _, rfl, -, h₂⟩ := dialogue_bind_ok h₁
  obtain ⟨planning, _, plan', rfl, planned, h₃⟩ := dialogue_bind_ok h₂
  obtain ⟨shown, _, _, rfl, -, h₄⟩ := dialogue_bind_ok h₃
  obtain ⟨rfl, same⟩ := dialogue_pure h₄
  obtain rfl := Except.ok.inj (Option.some.inj same)
  refine ⟨ClusterConfig.errors_of_validate (Option.some.inj valid).symm, said, planning,
    shown ++ [], ?_, planned⟩
  rw [List.nil_append, List.append_assoc]

/-- What comes before a change when a plan is made and applied. -/
theorem approved_of_apply {run : Run} {site : Site} {config : ClusterConfig}
    {activate autoApprove : Bool} {before after : List (Exchange interface)} {x : Exchange interface}
    {out : Option (Except Failure Unit)} (hx : x.op.writes = true)
    (h : (run.apply site config activate autoApprove).Dialogue (before ++ x :: after) out) :
    (config.check true).errors = [] ∧ ∃ between planning asking plan,
      before = between ++ planning ++ asking ∧
      (Work.session site (Reconcile.plan run.limit config)).Dialogue planning
        (some (.ok plan)) ∧ plan.hasChanges = true ∧
      (autoApprove = true ∨ ∃ line, ⟨.readLine, .ok line⟩ ∈ asking ∧
        (trimBlank line = "y" ∨ trimBlank line = "Y")) := by
  obtain ⟨ys, zs, plan, rfl, made, h₁⟩ := (run.untouched_plan site config).later hx h
  obtain ⟨valid, said, planning, shown, rfl, planned⟩ := planned_of_plan made
  refine ⟨valid, said, planning, shown ++ zs, plan, (List.append_assoc ..), planned, ?_⟩
  cases changes : plan.hasChanges with
  | false =>
    rw [changes] at h₁
    exact absurd ((untouched_pure ()).not_mem h₁) (by simp [hx])
  | true =>
    rw [changes, if_pos rfl] at h₁
    refine ⟨rfl, ?_⟩
    cases autoApprove with
    | true => exact .inl rfl
    | false =>
      rw [if_neg Bool.false_ne_true] at h₁
      obtain ⟨asking, begun, approved, rfl, answered, h₂⟩ := (untouched_confirm _).later hx h₁
      cases approved with
      | false => exact absurd ((untouched_tell _).not_mem h₂) (by simp [hx])
      | true =>
        obtain ⟨line, read, yes⟩ := answered_of_confirm answered
        exact .inr ⟨line, List.mem_append_right _ (List.mem_append_left _ read), yes⟩

/-- What comes before a change when a configuration is loaded first. -/
theorem loaded_of_prepared {environment : Environment} {i : Invocation}
    {carry : Path → Environment → ClusterConfig → Work Unit}
    {before after : List (Exchange interface)} {x : Exchange interface}
    {out : Option (Except Failure Unit)} (hx : x.op.writes = true)
    (h : Dialogue (do
      let path ← configPath i
      let environment ← Work.files (EnvFile.load environment (EnvFile.pathFor path))
      Work.log .debug ("Loading configuration from: " ++ path.text)
      let config ← Work.files (ConfigFile.load path)
      carry path environment config) (before ++ x :: after) out) :
    ∃ start loading rest path environment config, before = start ++ loading ++ rest ∧
      (Work.files (ConfigFile.load path)).Dialogue loading (some (.ok config)) ∧
      (carry path environment config).Dialogue (rest ++ x :: after) out := by
  obtain ⟨finding, _, path, rfl, -, h₁⟩ := (untouched_configPath i).later hx h
  obtain ⟨filling, _, environment, rfl, -, h₂⟩ := (untouched_files _).later hx h₁
  obtain ⟨saying, _, _, rfl, -, h₃⟩ := (untouched_log _ _).later hx h₂
  obtain ⟨loading, rest, config, rfl, loaded, h₄⟩ := (untouched_files _).later hx h₃
  refine ⟨finding ++ filling ++ saying, loading, rest, path, environment, config, ?_, loaded, h₄⟩
  simp only [List.append_assoc]

/-- What comes before a change in a command. -/
theorem approved_of_invocation {run : Run} {environment : Environment} {i : Invocation}
    {before after : List (Exchange interface)} {x : Exchange interface}
    {out : Option (Except Failure Unit)} (hx : x.op.writes = true)
    (h : (run.invocation environment i).Dialogue (before ++ x :: after) out) :
    (∃ app target, i.command = .activate app target) ∨
    ∃ activate autoApprove, i.command = .apply activate autoApprove ∧
      run.Approved autoApprove before := by
  unfold invocation at h
  cases hc : i.command with
  | activate app target => exact .inl ⟨app, target, rfl⟩
  | dump cluster =>
    rw [hc] at h
    exact absurd ((run.untouched_dump environment i.apiUrl cluster).not_mem h) (by simp [hx])
  | validate warnings =>
    rw [hc] at h
    obtain ⟨_, _, _, _, _, config, -, -, h₁⟩ := loaded_of_prepared hx h
    exact absurd ((run.untouched_validate config warnings).not_mem h₁) (by simp [hx])
  | apply activate autoApprove =>
    rw [hc] at h
    obtain ⟨start, loading, _, path, environment, config, rfl, loaded, h₁⟩ :=
      loaded_of_prepared hx h
    obtain ⟨connecting, _, client, rfl, -, h₂⟩ := (untouched_client environment i.apiUrl).later hx h₁
    obtain ⟨valid, checking, planning, asking, plan, rfl, planned, changes, approved⟩ :=
      approved_of_apply hx h₂
    refine .inr ⟨activate, autoApprove, rfl, ?_⟩
    have split : start ++ loading ++ (connecting ++ (checking ++ planning ++ asking)) =
        start ++ loading ++ (connecting ++ checking) ++ planning ++ asking := by
      simp only [List.append_assoc]
    rw [split]
    exact .intro loaded valid planned changes approved
  | plan | versions | diff =>
    rw [hc] at h
    obtain ⟨_, _, _, path, environment, config, -, -, h₁⟩ := loaded_of_prepared hx h
    obtain ⟨_, _, client, -, -, h₂⟩ := (untouched_client environment i.apiUrl).later hx h₁
    refine absurd (Work.Untouched.not_mem ?_ h₂) (by simp [hx])
    exact run.untouched_onSite _ config (fun _ _ => nofun) fun _ _ => nofun

end Run

/-- **Nothing is changed without being asked for.**  Planning, listing and comparing versions and
writing a cluster down change nothing, whatever they are replied.  Activating a version requests one
change at most, after everything else, of a version that was listed; when it fails because something
was not found it has requested none, unless that is what the request itself was replied.  Of all
commands only `activate` and `apply` change anything, and `apply` only after a plan with changes was
made of a configuration that breaks no rule, and was approved of. -/
theorem changed_only_when_asked (limit : Nat) :
    (∀ desired, (Reconcile.plan limit desired).Untouched) ∧
    (∀ cluster application, (Versions.list limit cluster application).Untouched) ∧
    (∀ cluster application older newer,
      (Versions.diff limit cluster application older newer).Untouched) ∧
    (∀ cluster, (Dump.cluster limit cluster).Untouched) ∧
    (∀ cluster application version es out,
      (Versions.activate limit cluster application version).Course es out →
      Versions.Activates limit cluster application es out ∧
      ∀ r, out = some (.error (.resolve r)) → (∀ e ∈ es, e.reads) ∨
        ∃ earlier id v, es = earlier ++
          [.request (.updateApplication id ⟨some v⟩) (.error (.resolve r))]) ∧
    ∀ (output : Output) environment i before x after out,
      (Run.invocation ⟨output, limit⟩ environment i).Dialogue (before ++ x :: after) out →
      x.op.writes = true →
      (∃ app target, i.command = .activate app target) ∨
      ∃ activate autoApprove, i.command = .apply activate autoApprove ∧
        Run.Approved ⟨output, limit⟩ autoApprove before := by
  refine ⟨Reconcile.untouched_plan, Versions.untouched_list, Versions.untouched_diff,
    Dump.untouched_cluster, fun cluster application version es out h => ?_,
    fun output environment i before x after out h hx => Run.approved_of_invocation hx h⟩
  have activates := Versions.activates_of_course h
  refine ⟨activates, fun r hr => ?_⟩
  cases activates with
  | stopped reads failed => exact .inl reads
  | requested resolved listed reads mem reply =>
    obtain f | u := reply <;> cases hr
    exact .inr ⟨_, _, _, rfl⟩

namespace Answered

/-- A configuration with other settings than the live cluster. -/
def configuration : String := "clusterName: prod\ncluster:\n  servicePrincipalId: sp-2\n"

/-- A directory with the configuration and nothing else. -/
def onFile : (q : Files.Question) → q.Reply
  | .isPresent p => decide (p.text = "apprun.yaml")
  | .isDirectory _ => false
  | .read _ => .ok configuration
  | .makeDirectory _ | .create _ | .write _ _ | .sync _ | .rename _ _ => .ok ()
  | .log _ _ => ()

/-- A control plane with an empty cluster. -/
def replies : (c : Call) → Except Failure c.Reply
  | .listClusters _ => .ok ⟨[⟨.ofNat 1, "prod"⟩], none⟩
  | .getCluster _ => .ok ⟨.ofNat 1, "prod", "sp-1", false⟩
  | .listGroups _ _ => .ok ⟨[], none⟩
  | .listApplications _ _ => .ok ⟨[], none⟩
  | .updateCluster _ _ => .ok ()
  | _ => .error (.notFound "resource")

/-- Every question for a line is answered with approval. -/
def answer : (q : Question) → Unit → q.Reply × Unit
  | .file q, s => (onFile q, s)
  | .session _ q, s => q.answerBy replies s
  | .readLine, s => (.ok " Y\n", s)
  | .print _, s | .tell _, s | .log _ _, s => ((), s)

def run : Run := ⟨⟨.text, false⟩, 5⟩

def invocation : Invocation where
  config := some (Path.ofText "apprun.yaml")
  verbose := false
  output := .text
  logFormat := .text
  apiUrl := none
  command := .apply false false

def environment : Environment :=
  [("SAKURA_ACCESS_TOKEN", "a"), ("SAKURA_ACCESS_TOKEN_SECRET", "b")]

def applying : Work Unit := run.invocation environment invocation

def exchanges : List (Exchange interface) :=
  Program.transcript (I := interface) answer applying.run ()

/-- The settings are changed, and that was approved of before. -/
theorem approved_by_answer : ∃ before x after, exchanges = before ++ x :: after ∧
    x.op.writes = true ∧ run.Approved false before := by
  have changed : exchanges.any (·.op.writes) = true := by decide +kernel
  obtain ⟨x, mem, writes⟩ := List.any_eq_true.1 changed
  obtain ⟨before, after, split⟩ := List.append_of_mem mem
  have lived : applying.Dialogue exchanges _ :=
    ⟨Program.dialogue_transcript (I := interface) answer applying.run ()⟩
  rw [split] at lived
  refine ⟨before, x, after, split, writes, ?_⟩
  obtain ⟨app, target, h⟩ | ⟨activate, autoApprove, h, approved⟩ :=
    (changed_only_when_asked run.limit).2.2.2.2.2 run.output environment invocation before x after _
      lived writes
  · nomatch h
  · cases h
    exact approved

end Answered

end Converge.Cli
