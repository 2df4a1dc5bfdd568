import Converge.Proofs.Config.Rules
/-!
# What a valid configuration guarantees

A configuration without a violation is as documented.  Statements about plans and applies want the
rules in the form in which they are made use of: which names are distinct, and what every spec has.
`ClusterConfig.Sound` and `ApplicationSpec.Sound` gather those that the rest of the theory uses.

Main statement: `ClusterConfig.sound_of_isValid`.
-/

namespace Converge

/-- What a valid spec guarantees. -/
structure ApplicationSpec.Sound (s : ApplicationSpec) : Prop where
  cpu : s.cpu ≠ 0
  memory : s.memory ≠ 0
  /-- The scaling mode is known and its numbers are given. -/
  scaling : (s.scaling = some .manual ∧ s.fixedScale.isSome) ∨
    (s.scaling = some .cpu ∧ s.minScale.isSome ∧ s.maxScale.isSome)
  ports : s.exposedPorts ≠ []
  /-- No two ports have the same number. -/
  portNumbers : (s.exposedPorts.map (·.targetPort)).Nodup
  /-- Every secret variable has a version. -/
  secrets : ∀ e ∈ s.env, e.secret → e.secretVersion.isSome

/-- What a valid configuration guarantees. -/
structure ClusterConfig.Sound (c : ClusterConfig) : Prop where
  groupNames : (c.groups.map (·.name)).Nodup
  /-- No two load balancers have the same name under one owner. -/
  balancerNames : (c.balancers.map fun b => (b.groupName, b.name)).Nodup
  applicationNames : (c.applications.map (·.name)).Nodup
  specs : ∀ a ∈ c.applications, a.spec.Sound

/-- A documented spec is sound: its numbers are not too small, and its scaling mode is known. -/
theorem ApplicationSpec.Documented.sound {s : ApplicationSpec} (h : s.Documented) : s.Sound where
  cpu hz := absurd (hz ▸ h.cpu.1) (by decide)
  memory hz := absurd (hz ▸ h.memory.1) (by decide)
  scaling := by
    rcases h.scaling with ⟨mode, fixed⟩ | ⟨mode, min, max, -⟩
    · exact .inl ⟨by rw [ApplicationSpec.scaling, mode]; rfl, by rw [fixed]; rfl⟩
    · exact .inr ⟨by rw [ApplicationSpec.scaling, mode]; rfl, by rw [min]; rfl, by rw [max]; rfl⟩
  ports := h.exposed
  portNumbers := h.portNumbers
  secrets := h.secrets

/-- **A valid configuration guarantees the rules.** -/
theorem ClusterConfig.sound_of_isValid {c : ClusterConfig} {latestTag : Bool}
    (h : (c.check latestTag).isValid) : c.Sound := by
  have h : Validation.errors c = [] := by simpa [Report.isValid, ClusterConfig.check] using h
  have documented := Validation.errors_eq_nil_iff.1 h
  exact ⟨documented.groupNames, documented.balancerNames, documented.applicationNames,
    fun a ha => (documented.applications a ha).spec.sound⟩

/-- A report without a failure has no errors. -/
theorem ClusterConfig.errors_of_validate {c : ClusterConfig} {latestTag : Bool} {r : Report}
    (h : c.validate latestTag = .ok r) : (c.check latestTag).errors = [] := by
  unfold ClusterConfig.validate at h
  cases hf : (c.check latestTag).failure? with
  | none => simpa [Report.failure?] using hf
  | some f =>
    simp only [hf, reduceCtorEq] at h

end Converge
