import Converge.Simulation.Basic
/-!
# Laying a spec over a version

The request for a new version is the spec laid over the version before: what the spec sets counts,
what it leaves open is inherited, and what does not belong to the scaling mode is dropped after
that.  Laid over the version that such a request has left, the spec inherits what it has inherited
before, so that the second request repeats the first.  Only a password that was awaited is kept from
then on, and so from the second request on nothing changes any more (`requestAfter_succ`).

Main statements: `request_over_stored` and `requestAfter_succ`.
-/

namespace Converge

namespace CreateVersionRequest

/-- No number belongs to another scaling mode than that of the request. -/
structure KeepsToMode (r : CreateVersionRequest) : Prop where
  manual : ScalingMode.ofWord? r.scalingMode = some .manual →
    r.minScale = none ∧ r.maxScale = none ∧
      r.scaleInThreshold = none ∧ r.scaleOutThreshold = none
  cpu : ScalingMode.ofWord? r.scalingMode = some .cpu → r.fixedScale = none

/-- Requests that agree in all else differ at most in what becomes of the password. -/
theorem eq_with_passwordAction {r s : CreateVersionRequest}
    (cpu : s.cpu = r.cpu) (memory : s.memory = r.memory) (mode : s.scalingMode = r.scalingMode)
    (fixed : s.fixedScale = r.fixedScale) (min : s.minScale = r.minScale)
    (max : s.maxScale = r.maxScale) (scaleIn : s.scaleInThreshold = r.scaleInThreshold)
    (scaleOut : s.scaleOutThreshold = r.scaleOutThreshold) (image : s.image = r.image)
    (cmd : s.cmd = r.cmd) (user : s.registryUsername = r.registryUsername)
    (password : s.registryPassword = r.registryPassword)
    (ports : s.exposedPorts = r.exposedPorts) (env : s.env = r.env) :
    s = { r with passwordAction := s.passwordAction } := by
  cases r
  cases s
  simp_all

end CreateVersionRequest

theorem EnvVar.inherited_of_plain {e : EnvVar} (h : e.secret = false) : e.inherited = e := by
  obtain ⟨key, value, secret⟩ := e
  obtain rfl : secret = false := h
  rfl

/-- A variable that was passed on is passed on as it is. -/
theorem EnvVar.inherited_inherited (e : EnvVar) : e.inherited.inherited = e.inherited := by
  cases h : e.secret with
  | false => rw [inherited_of_plain h, inherited_of_plain h]
  | true => simp [inherited, h]

namespace ApplicationSpec

variable {spec : ApplicationSpec} {base : Option ApplicationVersion}

/-! ## 1. What is inherited -/

theorem inheritNumber_of_ne_zero {desired : Int64} {ofBase : ApplicationVersion → Int64}
    (h : desired ≠ 0) : inheritNumber base desired ofBase = desired := if_pos h

theorem inheritScale_of_isSome {desired : Option Int32}
    {ofBase : ApplicationVersion → Option Int32} (h : desired.isSome) :
    inheritScale base desired ofBase = desired := by
  obtain ⟨n, rfl⟩ := Option.isSome_iff_exists.1 h
  rfl

/-- A number is what the spec says unless the spec is silent and the version before is not. -/
theorem inheritScale_eq_iff {base : ApplicationVersion} {desired : Option Int32}
    {ofBase : ApplicationVersion → Option Int32} :
    inheritScale (some base) desired ofBase = desired ↔ (desired = none → ofBase base = none) := by
  cases desired <;> simp [inheritScale]

theorem inheritList_of_ne_nil {desired : List α} {ofBase : ApplicationVersion → List α}
    (h : desired ≠ []) : inheritList base desired ofBase = desired := by
  cases desired with
  | nil => exact absurd rfl h
  | cons a rest => rfl

theorem scalingMode_of_scaling {mode : ScalingMode} (h : spec.scaling = some mode) :
    spec.scalingMode.isEmpty = false := by
  cases he : spec.scalingMode.isEmpty with
  | false => rfl
  | true =>
    have : spec.scalingMode = "" := String.isEmpty_iff.1 he
    rw [scaling, this] at h
    have known : ScalingMode.ofWord? "" = none := by decide
    rw [known] at h
    nomatch h

theorem inheritMode_of_scaling {mode : ScalingMode} (h : spec.scaling = some mode)
    (base : Option ApplicationVersion) : spec.inheritMode base = spec.scalingMode := by
  rw [inheritMode, scalingMode_of_scaling h]
  rfl

/-- A user name is compared as the empty text when there is none. -/
theorem getD_userName (name : Option String) : (userName name).getD "" = name.getD "" := by
  obtain _ | u := name
  · rfl
  · cases hu : u.isEmpty with
    | false => simp [userName, Option.filter, hu]
    | true => simp [userName, Option.filter, String.isEmpty_iff.1 hu]

theorem userName_getD_eq_empty {name : Option String} :
    (userName name).getD "" = "" ↔ userName name = none := by
  obtain _ | u := name
  · simp [userName]
  · cases hu : u.isEmpty with
    | false =>
      have : u ≠ "" := fun h => by simp [h] at hu
      simp [userName, Option.filter, hu, this]
    | true => simp [userName, Option.filter, hu]

/-- A user name that is not empty stays as it is. -/
theorem userName_or_userName (name other : Option String) :
    userName ((userName name).or (userName other)) = (userName name).or (userName other) := by
  have again (name : Option String) : userName (userName name) = userName name := by
    simp [userName, Option.filter_filter]
  have kept := again name
  cases h : userName name with
  | none => exact again other
  | some u =>
    rw [h] at kept
    exact kept

/-- The variables of a spec that has any are sent as they are. -/
theorem env_request (h : spec.env ≠ []) : (spec.request base).env = spec.env.map (·.sent) := by
  refine inheritList_of_ne_nil ?_
  rwa [ne_eq, List.map_eq_nil_iff]

/-- The variables of the version before are passed on to a spec that has none. -/
theorem env_request_of_eq_nil (h : spec.env = []) :
    (spec.request base).env = (base.map fun b => b.env.map (·.inherited)).getD [] := by
  simp [request, inheritList, h]

/-- What is inherited of a secret has no value. -/
theorem value_of_inherited (h : spec.env = []) {e : EnvVar} (he : e ∈ (spec.request base).env)
    (secret : e.secret) : e.value = none := by
  rw [env_request_of_eq_nil h] at he
  cases base with
  | none => nomatch he
  | some b =>
    obtain ⟨v, -, rfl⟩ := List.mem_map.1 he
    exact if_pos secret

/-- The password that is sent is the one that the spec has, if any. -/
theorem registryPassword_request : (spec.request base).registryPassword = spec.registryPassword := by
  show (if spec.passwordAction base = .new then spec.registryPassword else none) = _
  cases h : spec.registryPassword with
  | none => exact ite_self _
  | some password =>
    have new : spec.passwordAction base = .new := if_pos (by rw [h]; rfl)
    rw [if_pos new]

/-! ## 2. What is inherited once more -/

section

variable {before : ApplicationVersion}

theorem inheritNumber_again {desired : Int64} {ofBase : ApplicationVersion → Int64}
    (kept : ofBase before = inheritNumber base desired ofBase) :
    inheritNumber (some before) desired ofBase = inheritNumber base desired ofBase := by
  by_cases h : desired = 0
  · rw [← kept, h]
    rfl
  · rw [inheritNumber_of_ne_zero h, inheritNumber_of_ne_zero h]

theorem inheritList_again {desired : List α} {ofBase : ApplicationVersion → List α}
    (kept : desired = [] → ofBase before = inheritList base desired ofBase) :
    inheritList (some before) desired ofBase = inheritList base desired ofBase := by
  by_cases h : desired = []
  · rw [← kept h, h]
    rfl
  · rw [inheritList_of_ne_nil h, inheritList_of_ne_nil h]

theorem inheritMode_again (kept : before.scalingMode = spec.inheritMode base) :
    spec.inheritMode (some before) = spec.inheritMode base := by
  by_cases h : spec.scalingMode.isEmpty
  · rw [← kept]
    exact if_pos h
  · exact (if_neg h).trans (if_neg h).symm

/-- A number that does not belong to a scaling mode is dropped again with the mode, which is the same,
and inherited again with any other. -/
theorem inheritScale_again {foreign : ScalingMode} {desired : Option Int32}
    {ofBase : ApplicationVersion → Option Int32}
    (mode : spec.inheritMode (some before) = spec.inheritMode base)
    (kept : ofBase before = if ScalingMode.ofWord? (spec.inheritMode base) = some foreign then none
      else inheritScale base desired ofBase) :
    (if ScalingMode.ofWord? (spec.inheritMode (some before)) = some foreign then none
      else inheritScale (some before) desired ofBase) =
      if ScalingMode.ofWord? (spec.inheritMode base) = some foreign then none
      else inheritScale base desired ofBase := by
  rw [mode]
  by_cases h : ScalingMode.ofWord? (spec.inheritMode base) = some foreign
  · rw [if_pos h, if_pos h]
  · rw [if_neg h] at kept
    rw [if_neg h, if_neg h, inheritScale, Option.bind_some, kept]
    cases desired <;> rfl

end

variable (spec base)

/-- What is inherited of the variables is what is shown of those that were inherited. -/
theorem env_again (number : Int32) (h : spec.env.map (·.sent) = []) :
    (Simulation.stored number (spec.request base)).env.map (·.inherited) =
      (spec.request base).env := by
  have shown : (Simulation.stored number (spec.request base)).env =
      (spec.request base).env.map (·.inherited) := rfl
  rw [shown, env_request_of_eq_nil (List.map_eq_nil_iff.1 h)]
  cases base with
  | none => rfl
  | some b => simp [Function.comp_def, EnvVar.inherited_inherited]

/-- The user that is sent is a user of the version that is left. -/
theorem userName_stored (number : Int32) :
    userName (Simulation.stored number (spec.request base)).registryUsername =
      (userName spec.registryUsername).or (userName (base.bind (·.registryUsername))) :=
  userName_or_userName _ _

/-- After a version was written, no password is awaited any more: one is sent with the spec, or the
user of the version has one. -/
theorem passwordAction_over_stored (number : Int32) :
    spec.passwordAction (some (Simulation.stored number (spec.request base))) =
      if spec.registryPassword.isSome then .new
      else if ((userName spec.registryUsername).or
        (userName (base.bind (·.registryUsername)))).isSome then .keep
      else .remove := by
  have user : userName ((some (Simulation.stored number (spec.request base))).bind
      (·.registryUsername)) = _ := userName_stored spec base number
  rw [passwordAction, user]
  by_cases hp : spec.registryPassword.isSome
  · rw [if_pos hp, if_pos hp]
  · rw [if_neg hp, if_neg hp]
    cases userName spec.registryUsername <;> rfl

/-! ## 3. The request that follows -/

/-- What does not belong to the scaling mode is dropped, be it from the spec or inherited. -/
theorem keepsToMode_request : (spec.request base).KeepsToMode where
  manual manual := ⟨if_pos manual, if_pos manual, if_pos manual, if_pos manual⟩
  cpu cpu := if_pos cpu

/-- Over the version that a request has left, the request is the same, what becomes of the password
apart. -/
theorem request_over_stored_eq (number : Int32) :
    spec.request (some (Simulation.stored number (spec.request base))) =
      { spec.request base with
        passwordAction :=
          spec.passwordAction (some (Simulation.stored number (spec.request base))) } := by
  have user := userName_stored spec base number
  have env := env_again spec base number
  -- Only what the version shows of the request counts from here on.
  generalize hs : Simulation.stored number (spec.request base) = before at user env
  have mode : spec.inheritMode (some before) = spec.inheritMode base :=
    inheritMode_again (by subst hs; rfl)
  refine CreateVersionRequest.eq_with_passwordAction ?cpu ?memory mode ?fixed ?min ?max ?scaleIn
    ?scaleOut ?image ?cmd ?user ?password ?ports ?env
  case cpu => exact inheritNumber_again (by subst hs; rfl)
  case memory => exact inheritNumber_again (by subst hs; rfl)
  case fixed => exact inheritScale_again mode (by subst hs; rfl)
  case min => exact inheritScale_again mode (by subst hs; rfl)
  case max => exact inheritScale_again mode (by subst hs; rfl)
  case scaleIn => exact inheritScale_again mode (by subst hs; rfl)
  case scaleOut => exact inheritScale_again mode (by subst hs; rfl)
  case image => subst hs; rfl
  case cmd => exact inheritList_again fun _ => by subst hs; rfl
  case user =>
    show (userName spec.registryUsername).or (userName before.registryUsername) =
      (userName spec.registryUsername).or (userName (base.bind (·.registryUsername)))
    rw [user, ← Option.or_assoc, Option.or_self]
  case password => rw [registryPassword_request, registryPassword_request]
  case ports => exact inheritList_again fun _ => by subst hs; rfl
  case env => exact inheritList_again env

/-- What becomes of the password changes at most once: a password that was awaited is kept. -/
theorem passwordAction_again (number : Int32) :
    spec.passwordAction (some (Simulation.stored number (spec.request base))) =
        spec.passwordAction base ∨
      spec.passwordAction base = .new ∧ spec.registryPassword = none ∧
        spec.passwordAction (some (Simulation.stored number (spec.request base))) = .keep := by
  rw [passwordAction_over_stored, passwordAction]
  cases spec.registryPassword with
  | some password => exact .inl rfl
  | none =>
    cases userName (base.bind (·.registryUsername)) with
    | some before => cases userName spec.registryUsername <;> exact .inl rfl
    | none =>
      cases userName spec.registryUsername with
      | some now => exact .inr ⟨rfl, rfl, rfl⟩
      | none => exact .inl rfl

/-- **Laying a spec over a version is stable**: over the version that the request has left, whatever
its number, the request is the same, except that a password that was awaited without being sent is
kept.  The request holds no number that does not belong to its scaling mode, and what it holds of
the variables of the version before has no secret value. -/
theorem request_over_stored (number : Int32) :
    let r := spec.request base
    let again := spec.request (some (Simulation.stored number r))
    again = { r with passwordAction := again.passwordAction } ∧
    (again.passwordAction = r.passwordAction ∨
      r.passwordAction = .new ∧ r.registryPassword = none ∧ again.passwordAction = .keep) ∧
    r.KeepsToMode ∧
    (if spec.env = [] then ∀ e ∈ r.env, e.secret → e.value = none
      else r.env = spec.env.map (·.sent)) := by
  refine ⟨request_over_stored_eq spec base number, ?password, keepsToMode_request spec base, ?env⟩
  case password =>
    rw [registryPassword_request]
    exact passwordAction_again spec base number
  case env =>
    split
    · exact fun e he secret => value_of_inherited ‹_› he secret
    · exact env_request ‹_›

/-! ## 4. One request after another -/

/-- The request that is made when the spec was applied a number of times before, each time over the
version that was left by the time before. -/
def requestAfter (numbers : Nat → Int32) : Nat → CreateVersionRequest
  | 0 => spec.request base
  | times + 1 => spec.request (some (Simulation.stored (numbers times) (requestAfter numbers times)))

/-- The request over a version that a request has left is made again over what it leaves. -/
theorem request_over_stored_twice (number next : Int32) :
    spec.request (some (Simulation.stored next
        (spec.request (some (Simulation.stored number (spec.request base)))))) =
      spec.request (some (Simulation.stored number (spec.request base))) := by
  have same := request_over_stored_eq spec (some (Simulation.stored number (spec.request base))) next
  have action : spec.passwordAction (some (Simulation.stored next
      (spec.request (some (Simulation.stored number (spec.request base)))))) =
      spec.passwordAction (some (Simulation.stored number (spec.request base))) := by
    refine (passwordAction_again spec _ next).resolve_right ?_
    rintro ⟨new, unsent, -⟩
    rw [passwordAction_over_stored, unsent, if_neg nofun] at new
    split at new <;> nomatch new
  rw [same, action]
  rfl

/-- From the second time on every request is the same. -/
theorem requestAfter_succ (numbers : Nat → Int32) (times : Nat) :
    requestAfter spec base numbers (times + 1) = requestAfter spec base numbers 1 := by
  induction times with
  | zero => rfl
  | succ times again =>
    show spec.request (some (Simulation.stored (numbers (times + 1))
      (requestAfter spec base numbers (times + 1)))) = _
    rw [again]
    exact request_over_stored_twice spec base (numbers 0) (numbers (times + 1))

end ApplicationSpec

end Converge
