import Mathlib.Data.List.Sort
import Converge.Proofs.Plan.Comparison
/-!
# Ports and host names in another order

The ports of a spec or version may be written in any order, and so may the host names of each port:
what is made of the normal form is the same.  Host names are sorted, and sorting forgets the order
that was there before.  Ports are sorted by their numbers.  That forgets the order where the numbers
are distinct; where they are not, ports with the same number keep theirs, but then only the numbers
count, for the failure of a comparison and for the lines that describe a spec.

Main statement: `compare_rearranged`.
-/

namespace Converge

/-! ## 1. Other orders -/

/-- Whether a port is another one with its host names in some other order. -/
def ExposedPort.Rearranged (p q : ExposedPort) : Prop :=
  ∃ hosts, p.host.Perm hosts ∧ q = { p with host := hosts }

namespace Described

def withPorts (ports : List ExposedPort) : Described → Described
  | .spec s => .spec { s with exposedPorts := ports }
  | .version v => .version { v with exposedPorts := ports }

/-- Whether a spec or version is another one with its ports, and the host names of each port, in
some other order. -/
def Rearranged (x y : Described) : Prop :=
  ∃ moved ports, x.ports.Perm moved ∧ List.Forall₂ ExposedPort.Rearranged moved ports ∧
    y = x.withPorts ports

/-- The ports are all that changes. -/
theorem normal_withPorts (x : Described) (ports : List ExposedPort) :
    (x.withPorts ports).normal = { x.normal with exposedPorts := normalPorts ports } := by
  cases x <;> rfl

end Described

/-! ## 2. What sorting forgets -/

theorem sortedNames_pairwise (names : List String) : (sortedNames names).Pairwise (· ≤ ·) := by
  refine (List.pairwise_mergeSort (fun a b c => ?_) (fun a b => ?_) names).imp of_decide_eq_true
  · simpa only [decide_eq_true_eq] using String.le_trans
  · simpa only [Bool.or_eq_true, decide_eq_true_eq] using String.le_total a b

/-- Names in order are the same whatever the order before. -/
theorem sortedNames_eq_of_perm {l m : List String} (h : l.Perm m) :
    sortedNames l = sortedNames m := by
  have perm : (sortedNames l).Perm (sortedNames m) :=
    (List.mergeSort_perm ..).trans (h.trans (List.mergeSort_perm ..).symm)
  exact perm.eq_of_pairwise (fun _ _ _ _ => String.le_antisymm) (sortedNames_pairwise l)
    (sortedNames_pairwise m)

theorem ExposedPort.Rearranged.normal_eq {p q : ExposedPort} (h : p.Rearranged q) :
    p.normal = q.normal := by
  obtain ⟨hosts, perm, rfl⟩ := h
  rw [ExposedPort.normal, sortedNames_eq_of_perm perm]
  rfl

theorem normalPorts_pairwise (ports : List ExposedPort) :
    (normalPorts ports).Pairwise fun a b => a.targetPort ≤ b.targetPort := by
  refine (List.pairwise_mergeSort (fun a b c => ?_) (fun a b => ?_) _).imp of_decide_eq_true
  · simpa only [decide_eq_true_eq] using Int32.le_trans
  · simpa only [Bool.or_eq_true, decide_eq_true_eq] using
      Int32.le_total a.targetPort b.targetPort

section

variable {l m n : List ExposedPort}

/-- The same ports stand in the normal forms. -/
theorem normalPorts_perm (perm : l.Perm m) (same : List.Forall₂ ExposedPort.Rearranged m n) :
    (normalPorts l).Perm (normalPorts n) := by
  have forms : m.map ExposedPort.normal = n.map ExposedPort.normal :=
    map_eq_of_forall₂ same fun _ _ => ExposedPort.Rearranged.normal_eq
  have moved : (l.map ExposedPort.normal).Perm (n.map ExposedPort.normal) :=
    forms ▸ perm.map ExposedPort.normal
  exact (List.mergeSort_perm ..).trans (moved.trans (List.mergeSort_perm ..).symm)

/-- Their numbers stand in the same order. -/
theorem numbers_eq_of_perm (perm : (normalPorts l).Perm (normalPorts m)) :
    (normalPorts l).map (·.targetPort) = (normalPorts m).map (·.targetPort) :=
  (perm.map (·.targetPort)).eq_of_pairwise (fun _ _ _ _ => Int32.le_antisymm)
    (List.pairwise_map.2 (normalPorts_pairwise l)) (List.pairwise_map.2 (normalPorts_pairwise m))

/-- Where the numbers are distinct, so do the ports. -/
theorem normalPorts_eq_of_perm (perm : (normalPorts l).Perm (normalPorts m))
    (distinct : ((normalPorts l).map (·.targetPort)).Nodup) : normalPorts l = normalPorts m := by
  refine perm.eq_of_pairwise (fun p q hp hq hpq hqp => ?_) (normalPorts_pairwise l)
    (normalPorts_pairwise m)
  exact List.inj_on_of_nodup_map distinct hp (perm.mem_iff.2 hq) (Int32.le_antisymm hpq hqp)

end

/-! ## 3. What is made of the normal form -/

namespace NormalSpec

variable {s : NormalSpec} {ports : List NormalPort}

/-- Only the numbers of the ports count for the failure of a comparison. -/
theorem refusal_congr (h : s.exposedPorts.map (·.targetPort) = ports.map (·.targetPort))
    (side : String) : ({ s with exposedPorts := ports } : NormalSpec).refusal side =
      s.refusal side := by
  rw [refusal, refusal, repeatedPort, repeatedPort, h]

/-- Only the numbers of the ports count for a description. -/
theorem describe_congr (h : s.exposedPorts.map (·.targetPort) = ports.map (·.targetPort)) :
    ({ s with exposedPorts := ports } : NormalSpec).describe = s.describe := by
  have shown := congrArg (List.map toString) h
  rw [List.map_map, List.map_map] at shown
  have empty : s.exposedPorts.isEmpty = ports.isEmpty := by
    simpa only [List.isEmpty_map] using congrArg List.isEmpty h
  unfold describe
  dsimp only
  rw [empty]
  congr 4
  exact congrArg (", ".intercalate ·) shown.symm

end NormalSpec

/-- What stays of the normal form when the ports are rearranged. -/
structure NormalSpec.SameUpToPorts (s t : NormalSpec) : Prop where
  refusal : ∀ side, t.refusal side = s.refusal side
  describe : t.describe = s.describe
  eq : (∀ side, s.refusal side = none) → t = s

theorem Described.Rearranged.same {x y : Described} (h : x.Rearranged y) :
    x.normal.SameUpToPorts y.normal := by
  obtain ⟨moved, ports, perm, same, rfl⟩ := h
  have forms : (normalPorts x.ports).Perm (normalPorts ports) := normalPorts_perm perm same
  have numbers := numbers_eq_of_perm forms
  rw [← x.exposedPorts_normal] at numbers
  rw [x.normal_withPorts]
  refine ⟨NormalSpec.refusal_congr numbers, NormalSpec.describe_congr numbers, fun hr => ?_⟩
  have distinct := NormalSpec.refusal_eq_none_iff.1 (hr "")
  rw [x.exposedPorts_normal] at distinct
  rw [← normalPorts_eq_of_perm forms distinct, ← x.exposedPorts_normal]

/-- **The order in which ports and host names are written does not matter**: a comparison comes to
the same lines in the same order or to the same failure, and a description to the same lines. -/
theorem compare_rearranged {x x' y y' : Described} (hx : x.Rearranged x') (hy : y.Rearranged y')
    (skipImage : Bool) :
    x'.normal.compare y'.normal skipImage = x.normal.compare y.normal skipImage ∧
      x'.normal.describe = x.normal.describe := by
  refine ⟨?_, hx.same.describe⟩
  have comparable {z z' : Described} (h : z.Rearranged z') {side : String}
      (hr : z.normal.refusal side = none) : z'.normal = z.normal :=
    h.same.eq fun _ => NormalSpec.refusal_eq_none_iff.2 (NormalSpec.refusal_eq_none_iff.1 hr)
  rw [NormalSpec.compare, NormalSpec.compare, hx.same.refusal, hy.same.refusal]
  cases hb : x.normal.refusal "current" with
  | some f => rfl
  | none =>
    cases ha : y.normal.refusal "desired" with
    | some f => rfl
    | none => rw [comparable hx hb, comparable hy ha]

namespace Compared

/-- The desired spec with other ports. -/
def withHosts (ports : List (Int32 × List String)) : Described :=
  .spec { desired with exposedPorts := ports.map fun (n, hosts) => ⟨n, none, true, hosts, none⟩ }

/-- A port that is listed twice, with its ports and host names turned round. -/
theorem turned_round :
    let x := withHosts [(80, ["b", "a"]), (443, []), (80, [])]
    let y := withHosts [(80, []), (443, []), (80, ["a", "b"])]
    x.Rearranged y ∧
      y.normal.compare (Described.version live).normal false =
        x.normal.compare (Described.version live).normal false ∧
      y.normal.describe = x.normal.describe := by
  have ports : (withHosts [(80, ["b", "a"]), (443, []), (80, [])]).Rearranged
      (withHosts [(80, []), (443, []), (80, ["a", "b"])]) :=
    ⟨(withHosts [(80, []), (443, []), (80, ["b", "a"])]).ports, _, by decide,
      .cons ⟨[], .nil, rfl⟩ (.cons ⟨[], .nil, rfl⟩ (.cons ⟨["a", "b"], .swap .., rfl⟩ .nil)), rfl⟩
  have same : (Described.version live).Rearranged (.version live) :=
    ⟨live.exposedPorts, live.exposedPorts, .rfl,
      .cons ⟨[], .nil, rfl⟩ (.cons ⟨[], .nil, rfl⟩ .nil), rfl⟩
  exact ⟨ports, compare_rearranged ports same false⟩

end Compared

end Converge
