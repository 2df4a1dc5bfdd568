import Converge.Proofs.Plan.Normal
/-!
# What a comparison reports

Two normal forms can differ in a field that is compared, in a field of a port that both have, and
in that one of them has a port and the other has not.  `NormalSpec.Difference` names each of these
differences, `Holds` says when there is one, and `line` is the line about it.  A comparison has one
line for each difference that there is, and no other line: going through the new side finds every
port that is added or has changed, going through the old side finds those that are gone, and no
port is found twice where the numbers are distinct.

The numbers for scaling are compared by the mode of the new side.  Sides that do not differ have the
same mode, so that this makes no difference to whether there is a difference.

Main statement: `compare_exact`.
-/

namespace Converge

/-! ## 1. What is compared -/

/-- What has a normal form: a desired spec or a live version. -/
inductive Described where
  | spec (s : ApplicationSpec)
  | version (v : ApplicationVersion)

namespace Described

def normal : Described → NormalSpec
  | .spec s => s.normal
  | .version v => v.normal

def ports : Described → List ExposedPort
  | .spec s => s.exposedPorts
  | .version v => v.exposedPorts

/-- Whether no target port is listed twice. -/
def PortsDistinct (d : Described) : Prop := (d.ports.map (·.targetPort)).Nodup

theorem exposedPorts_normal (d : Described) : d.normal.exposedPorts = normalPorts d.ports := by
  cases d <;> rfl

end Described

namespace NormalSpec

/-- What a field holds. -/
inductive Value where
  | size (n : Int64)
  | number (n : Int32)
  | optional (n : Option Int32)
  | flag (b : Bool)
  | text (s : String)
  deriving DecidableEq

/-- How it is shown. -/
def Value.shown : Value → String
  | .size n => toString n
  | .number n => toString n
  | .optional n => Change.shown n
  | .flag b => toString b
  | .text s => Change.shownText s

/-- The fields of a normal form, its ports apart. -/
inductive SpecField where
  | cpu
  | memory
  | scalingMode
  | fixedScale
  | minScale
  | maxScale
  | scaleInThreshold
  | scaleOutThreshold
  | image
  | cmd
  | registryUsername
  deriving DecidableEq

namespace SpecField

/-- The numbers for scaling. -/
def scale : List SpecField :=
  [.fixedScale, .minScale, .maxScale, .scaleInThreshold, .scaleOutThreshold]

/-- All fields, in the order in which they are compared. -/
def all : List SpecField :=
  [.cpu, .memory, .scalingMode] ++ scale ++ [.image, .cmd, .registryUsername]

def title : SpecField → String
  | .cpu => "CPU"
  | .memory => "Memory"
  | .scalingMode => "ScalingMode"
  | .fixedScale => "FixedScale"
  | .minScale => "MinScale"
  | .maxScale => "MaxScale"
  | .scaleInThreshold => "ScaleInThreshold"
  | .scaleOutThreshold => "ScaleOutThreshold"
  | .image => "Image"
  | .cmd => "Cmd"
  | .registryUsername => "RegistryUsername"

/-- What a normal form has in a field. -/
def value (s : NormalSpec) : SpecField → Value
  | .cpu => .size s.cpu
  | .memory => .size s.memory
  | .scalingMode => .text s.scalingMode
  | .fixedScale => .optional s.fixedScale
  | .minScale => .optional s.minScale
  | .maxScale => .optional s.maxScale
  | .scaleInThreshold => .optional s.scaleInThreshold
  | .scaleOutThreshold => .optional s.scaleOutThreshold
  | .image => .text s.image
  | .cmd => .text s.cmd
  | .registryUsername => .text s.registryUsername

/-- Whether a field is compared with a new side: the numbers for scaling by its mode, and the image
unless it is left out. -/
def isCompared (skipImage : Bool) (after : NormalSpec) : SpecField → Bool
  | .fixedScale => ScalingMode.ofWord? after.scalingMode = some .manual
  | .minScale | .maxScale | .scaleInThreshold | .scaleOutThreshold =>
    ScalingMode.ofWord? after.scalingMode = some .cpu
  | .image => !skipImage
  | _ => true

end SpecField

/-- The fields of a port, its number apart. -/
inductive PortField where
  | loadBalancerPort
  | useLetsEncrypt
  | hosts
  | healthCheckPath
  | healthCheckInterval
  | healthCheckTimeout
  deriving DecidableEq

namespace PortField

/-- All fields, in the order in which they are compared. -/
def all : List PortField :=
  [.loadBalancerPort, .useLetsEncrypt, .hosts, .healthCheckPath, .healthCheckInterval,
    .healthCheckTimeout]

def title : PortField → String
  | .loadBalancerPort => "LoadBalancerPort"
  | .useLetsEncrypt => "UseLetsEncrypt"
  | .hosts => "Hosts"
  | .healthCheckPath => "HealthCheckPath"
  | .healthCheckInterval => "HealthCheckInterval"
  | .healthCheckTimeout => "HealthCheckTimeout"

/-- How a field is called in a line, with the number of the port. -/
def fullTitle (n : Int32) (f : PortField) : String :=
  "ExposedPorts[" ++ toString n ++ "]." ++ f.title

/-- What a port has in a field. -/
def value (p : NormalPort) : PortField → Value
  | .loadBalancerPort => .optional p.loadBalancerPort
  | .useLetsEncrypt => .flag p.useLetsEncrypt
  | .hosts => .text p.hosts
  | .healthCheckPath => .text p.healthCheckPath
  | .healthCheckInterval => .number p.healthCheckInterval
  | .healthCheckTimeout => .number p.healthCheckTimeout

/-- How a field of the port with a number is shown. -/
def shownAt (s : NormalSpec) (n : Int32) (f : PortField) : String :=
  ((s.port? n).map fun p => (f.value p).shown).getD ""

theorem shownAt_of_port? {s : NormalSpec} {n : Int32} {p : NormalPort} (h : s.port? n = some p)
    (f : PortField) : f.shownAt s n = (f.value p).shown := by
  rw [shownAt, h]
  rfl

end PortField

/-- What two normal forms can differ in. -/
inductive Difference where
  | field (f : SpecField)
  /-- The new side has a port that the old one has not. -/
  | added (port : Int32)
  | changed (port : Int32) (f : PortField)
  /-- The old side has a port that the new one has not. -/
  | removed (port : Int32)
  deriving DecidableEq

namespace Difference

/-- Whether two normal forms do. -/
def Holds (skipImage : Bool) (before after : NormalSpec) : Difference → Prop
  | .field f => f.isCompared skipImage after ∧ f.value before ≠ f.value after
  | .added n => before.port? n = none ∧ after.port? n ≠ none
  | .changed n f => ∃ old new, before.port? n = some old ∧ after.port? n = some new ∧
      f.value old ≠ f.value new
  | .removed n => before.port? n ≠ none ∧ after.port? n = none

/-- The line about a difference. -/
def line (before after : NormalSpec) : Difference → String
  | .field f => Change.line f.title (f.value before).shown (f.value after).shown
  | .added n => "ExposedPort add: " ++ toString n
  | .changed n f => Change.line (f.fullTitle n) (f.shownAt before n) (f.shownAt after n)
  | .removed n => "ExposedPort remove: " ++ toString n

end Difference

/-- Whether two normal forms agree on all that is compared. -/
structure Agrees (skipImage : Bool) (before after : NormalSpec) : Prop where
  cpu : before.cpu = after.cpu
  memory : before.memory = after.memory
  scalingMode : before.scalingMode = after.scalingMode
  scale : SameScale before after
  image : skipImage = false → before.image = after.image
  cmd : before.cmd = after.cmd
  registryUsername : before.registryUsername = after.registryUsername
  ports : ∀ n, before.port? n = after.port? n

/-! ## 2. One line for each difference -/

section

variable {skipImage : Bool} {before after : NormalSpec}

/-- The fields that differ, in their order. -/
def fieldDifferences (skipImage : Bool) (before after : NormalSpec) : List SpecField :=
  SpecField.all.filter fun f => f.isCompared skipImage after && f.value before ≠ f.value after

/-- The fields of a port that differ, in their order. -/
def portDifferences (before after : NormalPort) : List PortField :=
  PortField.all.filter fun f => f.value before ≠ f.value after

/-- The differences about a port of the new side. -/
def newDifferences (before : NormalSpec) (p : NormalPort) : List Difference :=
  match before.port? p.targetPort with
  | none => [.added p.targetPort]
  | some old => (portDifferences old p).map (.changed p.targetPort)

theorem newDifferences_of_none {p : NormalPort} (h : before.port? p.targetPort = none) :
    newDifferences before p = [.added p.targetPort] := by
  rw [newDifferences, h]

theorem newDifferences_of_some {old p : NormalPort} (h : before.port? p.targetPort = some old) :
    newDifferences before p = (portDifferences old p).map (.changed p.targetPort) := by
  rw [newDifferences, h]

/-- The ports of the old side that are gone. -/
def gonePorts (before after : NormalSpec) : List NormalPort :=
  before.exposedPorts.filter fun p => (after.port? p.targetPort).isNone

/-- All differences, in the order of the lines about them. -/
def differences (skipImage : Bool) (before after : NormalSpec) : List Difference :=
  (fieldDifferences skipImage before after).map .field
    ++ after.exposedPorts.flatMap (newDifferences before)
    ++ (gonePorts before after).map fun p => .removed p.targetPort

/-- The line for a field that differs, whatever it holds. -/
def valueChange (title : String) (before after : Value) : List String :=
  if before = after then [] else [Change.line title before.shown after.shown]

/-- The lines for the fields of a list that differ. -/
theorem flatMap_valueChange {κ : Type} (title : κ → String) (compared : κ → Bool)
    (old new : κ → Value) (l : List κ) :
    (l.flatMap fun f => if compared f then valueChange (title f) (old f) (new f) else []) =
      (l.filter fun f => compared f && old f ≠ new f).map fun f =>
        Change.line (title f) (old f).shown (new f).shown := by
  rw [← flatMap_ite_singleton]
  refine List.flatMap_congr fun f _ => ?_
  unfold valueChange
  by_cases hc : compared f <;> by_cases hv : old f = new f <;> simp [hc, hv]

theorem scalar_size (title : String) (a b : Int64) :
    Change.scalar title a b = valueChange title (.size a) (.size b) := by
  simp [Change.scalar, valueChange, Value.shown]

theorem scalar_number (title : String) (a b : Int32) :
    Change.scalar title a b = valueChange title (.number a) (.number b) := by
  simp [Change.scalar, valueChange, Value.shown]

theorem scalar_flag (title : String) (a b : Bool) :
    Change.scalar title a b = valueChange title (.flag a) (.flag b) := by
  simp only [Change.scalar, valueChange, Value.shown, Value.flag.injEq]

theorem text_eq (title : String) (a b : String) :
    Change.text title a b = valueChange title (.text a) (.text b) := by
  simp [Change.text, valueChange, Value.shown]

theorem optional_eq (title : String) (a b : Option Int32) :
    Change.optional title a b = valueChange title (.optional a) (.optional b) := by
  simp [Change.optional, valueChange, Value.shown]

/-- The lines for a field, if it is compared and differs. -/
def SpecField.lines (skipImage : Bool) (before after : NormalSpec) (f : SpecField) : List String :=
  if f.isCompared skipImage after then valueChange f.title (f.value before) (f.value after) else []

theorem scaleChanges_eq (skipImage : Bool) :
    scaleChanges before after = SpecField.scale.flatMap (·.lines skipImage before after) := by
  simp only [SpecField.scale, List.flatMap_cons, List.flatMap_nil, SpecField.lines,
    SpecField.isCompared, decide_eq_true_eq, scaleChanges, optional_eq]
  rcases ScalingMode.ofWord? after.scalingMode with _ | _ | _ <;>
    simp [SpecField.title, SpecField.value]

theorem fieldChanges_eq : fieldChanges skipImage before after =
    ((fieldDifferences skipImage before after).map .field).map (Difference.line before after) := by
  rw [List.map_map]
  refine .trans ?_ (flatMap_valueChange SpecField.title (·.isCompared skipImage after)
    (·.value before) (·.value after) SpecField.all)
  change _ = SpecField.all.flatMap (·.lines skipImage before after)
  rw [fieldChanges, scaleChanges_eq skipImage, SpecField.all, List.flatMap_append,
    List.flatMap_append]
  cases skipImage <;>
    simp [scalar_size, text_eq, SpecField.lines, SpecField.isCompared, SpecField.title,
      SpecField.value]

theorem portChanges_eq (old new : NormalPort) : portChanges old new =
    (portDifferences old new).map fun f =>
      Change.line (f.fullTitle new.targetPort) (f.value old).shown (f.value new).shown := by
  have lines := flatMap_valueChange (PortField.fullTitle new.targetPort) (fun _ => true)
    (PortField.value old) (PortField.value new) PortField.all
  simp only [Bool.true_and, if_true] at lines
  refine .trans ?_ lines
  simp only [portChanges, scalar_number, scalar_flag, text_eq, optional_eq, PortField.all,
    List.flatMap_cons, List.flatMap_nil, List.append_nil, List.append_assoc]
  rfl

/-- Where the numbers of the ports are distinct, a port is found by its number. -/
theorem port?_eq_some_iff {s : NormalSpec} (hs : (s.exposedPorts.map (·.targetPort)).Nodup)
    {n : Int32} {p : NormalPort} :
    s.port? n = some p ↔ p ∈ s.exposedPorts ∧ p.targetPort = n :=
  find?_key_eq_some_iff hs

theorem port?_ne_none_iff {s : NormalSpec} {n : Int32} :
    s.port? n ≠ none ↔ ∃ p ∈ s.exposedPorts, p.targetPort = n := by
  simp [port?]

theorem allPortChanges_eq (ha : (after.exposedPorts.map (·.targetPort)).Nodup) :
    allPortChanges before after =
      (after.exposedPorts.flatMap (newDifferences before)).map (Difference.line before after)
        ++ ((gonePorts before after).map fun p => Difference.removed p.targetPort).map
          (Difference.line before after) := by
  rw [List.map_flatMap, List.map_map, allPortChanges]
  congr 1
  · refine List.flatMap_congr fun p hp => ?_
    have found : after.port? p.targetPort = some p := (port?_eq_some_iff ha).2 ⟨hp, rfl⟩
    cases hb : before.port? p.targetPort with
    | none =>
      rw [newDifferences_of_none hb]
      rfl
    | some old =>
      rw [newDifferences_of_some hb, List.map_map]
      refine (portChanges_eq old p).trans (List.map_congr_left fun f _ => ?_)
      rw [← PortField.shownAt_of_port? hb, ← PortField.shownAt_of_port? found]
      rfl
  · rw [gonePorts]
    refine .trans ?_ (flatMap_ite_singleton ..)
    refine List.flatMap_congr fun p _ => ?_
    cases after.port? p.targetPort <;> rfl

theorem lines_eq (ha : (after.exposedPorts.map (·.targetPort)).Nodup) :
    fieldChanges skipImage before after ++ allPortChanges before after =
      (differences skipImage before after).map (Difference.line before after) := by
  rw [fieldChanges_eq, allPortChanges_eq ha, differences, List.map_append, List.map_append,
    List.append_assoc]

/-- **The differences are those that there are.** -/
theorem mem_differences_iff (ha : (after.exposedPorts.map (·.targetPort)).Nodup)
    {d : Difference} : d ∈ differences skipImage before after ↔ d.Holds skipImage before after := by
  have allFields (f : SpecField) : f ∈ SpecField.all := by cases f <;> decide
  have allPortFields (f : PortField) : f ∈ PortField.all := by cases f <;> decide
  have fields {f : SpecField} : f ∈ fieldDifferences skipImage before after ↔
      f.isCompared skipImage after ∧ f.value before ≠ f.value after := by
    simp [fieldDifferences, allFields]
  have fresh {p : NormalPort} : d ∈ newDifferences before p ↔
      (before.port? p.targetPort = none ∧ d = .added p.targetPort) ∨
      ∃ old f, before.port? p.targetPort = some old ∧ f.value old ≠ f.value p ∧
        d = .changed p.targetPort f := by
    cases hb : before.port? p.targetPort with
    | none => simp [newDifferences_of_none hb]
    | some old =>
      simp only [newDifferences_of_some hb, portDifferences, List.mem_map, List.mem_filter,
        allPortFields, true_and, decide_eq_true_eq, reduceCtorEq, false_and, false_or,
        Option.some.injEq, exists_and_left, exists_eq_left']
      exact exists_congr fun f => and_congr_right fun _ => eq_comm
  have gone {p : NormalPort} : p ∈ gonePorts before after ↔
      p ∈ before.exposedPorts ∧ after.port? p.targetPort = none := by
    simp [gonePorts]
  rw [differences, List.mem_append, List.mem_append, List.mem_map, List.mem_flatMap, List.mem_map]
  constructor
  · rintro ((⟨f, hf, rfl⟩ | ⟨p, hp, hd⟩) | ⟨p, hp, rfl⟩)
    · exact fields.1 hf
    · have found : after.port? p.targetPort = some p := (port?_eq_some_iff ha).2 ⟨hp, rfl⟩
      rcases fresh.1 hd with ⟨hn, rfl⟩ | ⟨old, f, ho, hv, rfl⟩
      · exact ⟨hn, by simp [found]⟩
      · exact ⟨old, p, ho, found, hv⟩
    · obtain ⟨hb, hn⟩ := gone.1 hp
      exact ⟨port?_ne_none_iff.2 ⟨p, hb, rfl⟩, hn⟩
  · intro h
    cases d with
    | field f => exact .inl (.inl ⟨f, fields.2 h, rfl⟩)
    | added n =>
      obtain ⟨p, hp, rfl⟩ := port?_ne_none_iff.1 h.2
      exact .inl (.inr ⟨p, hp, fresh.2 (.inl ⟨h.1, rfl⟩)⟩)
    | changed n f =>
      obtain ⟨old, new, ho, hn, hv⟩ := h
      obtain ⟨hp, rfl⟩ := (port?_eq_some_iff ha).1 hn
      exact .inl (.inr ⟨new, hp, fresh.2 (.inr ⟨old, f, ho, hv, rfl⟩)⟩)
    | removed n =>
      obtain ⟨p, hp, rfl⟩ := port?_ne_none_iff.1 h.1
      exact .inr ⟨p, gone.2 ⟨hp, h.2⟩, rfl⟩

/-- The port that a difference is about. -/
def Difference.number? : Difference → Option Int32
  | .field _ => none
  | .added n | .changed n _ | .removed n => some n

theorem number?_of_mem_newDifferences {p : NormalPort} {d : Difference}
    (h : d ∈ newDifferences before p) : d.number? = some p.targetPort := by
  unfold newDifferences at h
  split at h
  · rw [List.mem_singleton.1 h]
    rfl
  · obtain ⟨f, -, rfl⟩ := List.mem_map.1 h
    rfl

/-- **No difference is found twice** where the numbers of the ports are distinct. -/
theorem nodup_differences (hb : (before.exposedPorts.map (·.targetPort)).Nodup)
    (ha : (after.exposedPorts.map (·.targetPort)).Nodup) :
    (differences skipImage before after).Nodup := by
  have fields : ((fieldDifferences skipImage before after).map Difference.field).Nodup :=
    List.Nodup.map (fun _ _ h => Difference.field.inj h) (.filter _ (by decide))
  have fresh : (after.exposedPorts.flatMap (newDifferences before)).Nodup := by
    refine List.nodup_flatMap.2 ⟨fun p _ => ?_, ?_⟩
    · unfold newDifferences
      split
      · exact List.nodup_singleton _
      · refine List.Nodup.map (fun _ _ h => ?_) (.filter _ (by decide))
        exact (Difference.changed.inj h).2
    · refine (List.pairwise_map.1 ha).imp fun hne d hd hd' => hne ?_
      have := number?_of_mem_newDifferences hd
      rw [number?_of_mem_newDifferences hd'] at this
      exact (Option.some.inj this).symm
  have gone : ((gonePorts before after).map fun p => Difference.removed p.targetPort).Nodup := by
    have kept : ((gonePorts before after).map (·.targetPort)).Nodup :=
      hb.sublist (List.filter_sublist.map _)
    have named := List.Nodup.map (f := Difference.removed) (fun _ _ h => Difference.removed.inj h)
      kept
    rwa [List.map_map] at named
  -- the parts are about different kinds of differences
  refine List.Nodup.append (List.Nodup.append fields fresh ?_) gone ?_
  · intro d hd hd'
    obtain ⟨f, -, rfl⟩ := List.mem_map.1 hd
    obtain ⟨p, -, hp⟩ := List.mem_flatMap.1 hd'
    nomatch number?_of_mem_newDifferences hp
  · intro d hd hd'
    obtain ⟨p, -, rfl⟩ := List.mem_map.1 hd'
    rcases List.mem_append.1 hd with hd | hd
    · obtain ⟨f, -, hf⟩ := List.mem_map.1 hd
      nomatch hf
    · obtain ⟨q, -, hq⟩ := List.mem_flatMap.1 hd
      unfold newDifferences at hq
      split at hq
      · nomatch List.mem_singleton.1 hq
      · obtain ⟨f, -, hf⟩ := List.mem_map.1 hq
        nomatch hf

end

/-! ## 3. Comparing as an equivalence -/

section

variable {skipImage : Bool} {before after : NormalSpec}

theorem compare_eq_ok_iff {lines : List String} : compare before after skipImage = .ok lines ↔
    (before.exposedPorts.map (·.targetPort)).Nodup ∧
    (after.exposedPorts.map (·.targetPort)).Nodup ∧
    lines = (differences skipImage before after).map (Difference.line before after) := by
  constructor
  · intro h
    obtain ⟨hb, ha⟩ := exists_compare_iff.1 ⟨_, h⟩
    rw [compare, refusal_eq_none_iff.2 hb, refusal_eq_none_iff.2 ha, lines_eq ha] at h
    exact ⟨hb, ha, (Except.ok.inj h).symm⟩
  · rintro ⟨hb, ha, rfl⟩
    rw [compare, refusal_eq_none_iff.2 hb, refusal_eq_none_iff.2 ha, lines_eq ha]

theorem compare_eq_error_iff : (∃ f, compare before after skipImage = .error f) ↔
    ¬ (before.exposedPorts.map (·.targetPort)).Nodup ∨
    ¬ (after.exposedPorts.map (·.targetPort)).Nodup := by
  have comparable : (∃ lines, compare before after skipImage = .ok lines) ↔
      (before.exposedPorts.map (·.targetPort)).Nodup ∧
      (after.exposedPorts.map (·.targetPort)).Nodup := exists_compare_iff
  rw [← not_and_or, ← comparable]
  cases compare before after skipImage <;> simp

/-- Ports are the same when no field of theirs differs. -/
theorem port_eq_of_values {p q : NormalPort} (number : p.targetPort = q.targetPort)
    (same : ∀ f : PortField, f.value p = f.value q) : p = q := by
  have balancer := Value.optional.inj (same .loadBalancerPort)
  have tls := Value.flag.inj (same .useLetsEncrypt)
  have hosts := Value.text.inj (same .hosts)
  have path := Value.text.inj (same .healthCheckPath)
  have interval := Value.number.inj (same .healthCheckInterval)
  have timeout := Value.number.inj (same .healthCheckTimeout)
  cases p
  cases q
  simp_all

theorem sameScale_iff : SameScale before after ↔
    ∀ f ∈ SpecField.scale, f.isCompared skipImage after → f.value before = f.value after := by
  simp only [SpecField.scale, List.forall_mem_cons, SpecField.isCompared, decide_eq_true_eq,
    SpecField.value, Value.optional.injEq, SameScale]
  rcases ScalingMode.ofWord? after.scalingMode with _ | _ | _ <;> simp

/-- Two normal forms agree when no difference holds between them. -/
theorem agrees_iff : Agrees skipImage before after ↔
    ∀ d : Difference, ¬ d.Holds skipImage before after := by
  constructor
  · intro h d hd
    cases d with
    | field f =>
      obtain ⟨hc, hv⟩ := hd
      cases f with
      | cpu => exact hv (congrArg Value.size h.cpu)
      | memory => exact hv (congrArg Value.size h.memory)
      | scalingMode => exact hv (congrArg Value.text h.scalingMode)
      | image => exact hv (congrArg Value.text (h.image (by simpa [SpecField.isCompared] using hc)))
      | cmd => exact hv (congrArg Value.text h.cmd)
      | registryUsername => exact hv (congrArg Value.text h.registryUsername)
      | _ => exact hv (sameScale_iff.1 h.scale _ (by decide) hc)
    | added n => exact hd.2 (h.ports n ▸ hd.1)
    | changed n f =>
      obtain ⟨old, new, ho, hn, hv⟩ := hd
      rw [h.ports n, hn] at ho
      exact hv (congrArg f.value (Option.some.inj ho).symm)
    | removed n => exact hd.1 (h.ports n ▸ hd.2)
  · intro h
    have same (f : SpecField) (hc : f.isCompared skipImage after) :
        f.value before = f.value after := by
      by_contra hv
      exact h (.field f) ⟨hc, hv⟩
    exact {
      cpu := Value.size.inj (same .cpu rfl)
      memory := Value.size.inj (same .memory rfl)
      scalingMode := Value.text.inj (same .scalingMode rfl)
      scale := sameScale_iff.2 fun f _ hc => same f hc
      image := fun hi => Value.text.inj (same .image (by rw [SpecField.isCompared, hi]; rfl))
      cmd := Value.text.inj (same .cmd rfl)
      registryUsername := Value.text.inj (same .registryUsername rfl)
      ports := fun n => by
        cases hb : before.port? n with
        | none =>
          cases ha : after.port? n with
          | none => rfl
          | some new => exact absurd ⟨hb, by simp [ha]⟩ (h (.added n))
        | some old =>
          cases ha : after.port? n with
          | none => exact absurd ⟨by simp [hb], ha⟩ (h (.removed n))
          | some new =>
            have number : old.targetPort = new.targetPort :=
              (find?_key_eq_some hb).2.trans (find?_key_eq_some ha).2.symm
            refine congrArg some (port_eq_of_values number fun f => ?_)
            by_contra hv
            exact h (.changed n f) ⟨old, new, hb, ha, hv⟩ }

/-- Nothing is found exactly where the sides agree. -/
theorem compare_eq_nil_iff_agrees : compare before after skipImage = .ok [] ↔
    (before.exposedPorts.map (·.targetPort)).Nodup ∧
    (after.exposedPorts.map (·.targetPort)).Nodup ∧ Agrees skipImage before after := by
  rw [compare_eq_ok_iff, agrees_iff]
  refine and_congr_right fun _ => and_congr_right fun ha => ?_
  rw [eq_comm, List.map_eq_nil_iff, List.eq_nil_iff_forall_not_mem]
  exact forall_congr' fun d => not_congr (mem_differences_iff ha)

/-- The numbers that are compared are those of one mode, where the modes are the same. -/
theorem SameScale.symm (h : SameScale before after) (same : before.scalingMode = after.scalingMode) :
    SameScale after before := by
  unfold SameScale at *
  rw [same]
  split at h
  · exact h.symm
  · obtain ⟨min, max, scaleIn, scaleOut⟩ := h
    exact ⟨min.symm, max.symm, scaleIn.symm, scaleOut.symm⟩
  · trivial

theorem SameScale.trans {last : NormalSpec} (h : SameScale before after)
    (h' : SameScale after last) (same : after.scalingMode = last.scalingMode) :
    SameScale before last := by
  unfold SameScale at *
  rw [same] at h
  revert h h'
  rcases ScalingMode.ofWord? last.scalingMode with _ | _ | _
  · exact fun _ _ => trivial
  · exact fun h h' => h.trans h'
  · rintro ⟨min, max, scaleIn, scaleOut⟩ ⟨min', max', scaleIn', scaleOut'⟩
    exact ⟨min.trans min', max.trans max', scaleIn.trans scaleIn', scaleOut.trans scaleOut'⟩

namespace Agrees

theorem refl (skipImage : Bool) (s : NormalSpec) : Agrees skipImage s s :=
  ⟨rfl, rfl, rfl, .refl s, fun _ => rfl, rfl, rfl, fun _ => rfl⟩

theorem symm (h : Agrees skipImage before after) : Agrees skipImage after before :=
  ⟨h.cpu.symm, h.memory.symm, h.scalingMode.symm, h.scale.symm h.scalingMode,
    fun hi => (h.image hi).symm, h.cmd.symm, h.registryUsername.symm, fun n => (h.ports n).symm⟩

theorem trans {last : NormalSpec} (h : Agrees skipImage before after)
    (h' : Agrees skipImage after last) : Agrees skipImage before last :=
  ⟨h.cpu.trans h'.cpu, h.memory.trans h'.memory, h.scalingMode.trans h'.scalingMode,
    h.scale.trans h'.scale h'.scalingMode, fun hi => (h.image hi).trans (h'.image hi),
    h.cmd.trans h'.cmd, h.registryUsername.trans h'.registryUsername,
    fun n => (h.ports n).trans (h'.ports n)⟩

end Agrees

end

end NormalSpec

/-! ## 4. Specs and versions -/

open NormalSpec

theorem Described.nodup_normal_iff {d : Described} :
    (d.normal.exposedPorts.map (·.targetPort)).Nodup ↔ d.PortsDistinct := by
  rw [d.exposedPorts_normal]
  exact nodup_normalPorts_iff

/-- **A comparison is exact.**  It fails exactly when a side lists a target port twice.  Otherwise it
has one line for each difference, and so it is empty exactly when the sides agree on all that is
compared.  Among specs and versions that list no port twice, this is an equivalence. -/
theorem compare_exact (skipImage : Bool) (before after : Described) :
    ((∃ f, before.normal.compare after.normal skipImage = .error f) ↔
      ¬ before.PortsDistinct ∨ ¬ after.PortsDistinct) ∧
    (∀ lines, before.normal.compare after.normal skipImage = .ok lines →
      ∃ ds : List Difference, ds.Nodup ∧
        (∀ d, d ∈ ds ↔ d.Holds skipImage before.normal after.normal) ∧
        lines = ds.map (Difference.line before.normal after.normal)) ∧
    (before.normal.compare after.normal skipImage = .ok [] ↔
      before.PortsDistinct ∧ after.PortsDistinct ∧
        Agrees skipImage before.normal after.normal) ∧
    Equivalence fun x y : { d : Described // d.PortsDistinct } =>
      x.1.normal.compare y.1.normal skipImage = .ok [] := by
  have unchanged (x y : { d : Described // d.PortsDistinct }) :
      x.1.normal.compare y.1.normal skipImage = .ok [] ↔
        Agrees skipImage x.1.normal y.1.normal := by
    rw [compare_eq_nil_iff_agrees, Described.nodup_normal_iff, Described.nodup_normal_iff]
    exact ⟨fun h => h.2.2, fun h => ⟨x.2, y.2, h⟩⟩
  refine ⟨?_, fun lines h => ?_, ?_, ?_⟩
  · rw [compare_eq_error_iff, Described.nodup_normal_iff, Described.nodup_normal_iff]
  · obtain ⟨hb, ha, rfl⟩ := compare_eq_ok_iff.1 h
    exact ⟨differences skipImage before.normal after.normal, nodup_differences hb ha,
      fun d => mem_differences_iff ha, rfl⟩
  · rw [compare_eq_nil_iff_agrees, Described.nodup_normal_iff, Described.nodup_normal_iff]
  · exact {
      refl := fun x => (unchanged x x).2 (.refl skipImage x.1.normal)
      symm := fun {x y} h => (unchanged y x).2 ((unchanged x y).1 h).symm
      trans := fun {x y z} h h' =>
        (unchanged x z).2 (((unchanged x y).1 h).trans ((unchanged y z).1 h')) }

namespace Compared

/-- A version with two ports. -/
def live : ApplicationVersion where
  version := 1
  cpu := 500
  memory := 1024
  scalingMode := "manual"
  fixedScale := some 1
  minScale := none
  maxScale := none
  scaleInThreshold := none
  scaleOutThreshold := none
  image := "web:1"
  cmd := []
  registryUsername := none
  exposedPorts := [⟨443, some 443, true, [], none⟩, ⟨80, none, false, [], none⟩]
  env := []

/-- A spec that scales by load, with one of the ports changed and the other gone. -/
def desired : ApplicationSpec where
  cpu := 500
  memory := 1024
  scalingMode := "cpu"
  fixedScale := some 2
  minScale := some 1
  maxScale := none
  scaleInThreshold := none
  scaleOutThreshold := none
  image := "web:2"
  cmd := []
  registryUsername := none
  registryPassword := none
  registryPasswordVersion := none
  exposedPorts := [⟨443, none, true, [], none⟩]
  env := []

def lines : List String :=
  ["ScalingMode: manual -> cpu", "MinScale: (unset) -> 1",
    "ExposedPorts[443].LoadBalancerPort: 443 -> (unset)", "ExposedPort remove: 80"]

/-- Four lines for four differences; the fixed number and the image are not compared. -/
theorem four_differences :
    (Described.version live).normal.compare (Described.spec desired).normal true = .ok lines ∧
    ∃ ds : List Difference, ds.Nodup ∧
      (∀ d, d ∈ ds ↔
        d.Holds true (Described.version live).normal (Described.spec desired).normal) ∧
      lines = ds.map
        (Difference.line (Described.version live).normal (Described.spec desired).normal) := by
  have sorted : normalPorts live.exposedPorts =
      [⟨80, none, false, "", "", 0, 0⟩, ⟨443, some 443, true, "", "", 0, 0⟩] := by
    simp [live, normalPorts, ExposedPort.normal, sortedNames, List.mergeSort]
  have before : (Described.version live).normal =
      { (Described.version { live with exposedPorts := [] }).normal with
        exposedPorts := normalPorts live.exposedPorts } := rfl
  have compared : (Described.version live).normal.compare (Described.spec desired).normal true =
      .ok lines := by
    rw [before, sorted]
    decide +kernel
  exact ⟨compared, (compare_exact true (.version live) (.spec desired)).2.1 _ compared⟩

end Compared

end Converge
