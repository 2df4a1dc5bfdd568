import Converge.Config.Document
import Converge.Proofs.Yaml.RoundTrip
/-!
# A configuration is read back from its text

A configuration that is written as YAML is read back as the same configuration, whatever its texts
and numbers are and whatever is missing from it.  Every record of a configuration takes part in
this with one statement, in the order in which the records contain each other.

Main statement: `config_survives_yaml`.
-/

namespace Converge

open Yaml

theorem ClusterSettings.survives : Survives ClusterSettings.codec :=
  .record
    (.and (.ifAny _ .text nofun) <|
     .and (.required _ .text) .none)
    (by decide) fun _ => rfl

theorem IpRange.survives (name : String) : Survives (IpRange.codec name) :=
  .record
    (.and (.required _ .text) <|
     .and (.required _ .text) .none)
    (by decide) fun _ => rfl

theorem GroupInterface.survives (name rangeName : String) :
    Survives (GroupInterface.codec name rangeName) :=
  .record
    (.and (.required _ .int16) <|
     .and (.required _ .text) <|
     .and (.withDefault _ _ .bool) <|
     .and (.withDefault _ _ (.list (IpRange.survives rangeName))) <|
     .and (.ifAny _ .int16 nofun) <|
     .and (.ifAny _ .text nofun) <|
     .and (.ifAny _ .text nofun) .none)
    (by decide) fun _ => rfl

theorem GroupConfig.survives : Survives GroupConfig.codec :=
  .record
    (.and (.required _ .text) <|
     .and (.required _ .text) <|
     .and (.required _ .text) <|
     .and (.required _ .int32) <|
     .and (.required _ .int32) <|
     .and (.withDefault _ _ (.list .text)) <|
     .and (.withDefault _ _ (.list (GroupInterface.survives ..))) .none)
    (by decide) fun _ => rfl

theorem BalancerInterface.survives (name rangeName : String) :
    Survives (BalancerInterface.codec name rangeName) :=
  .record
    (.and (.required _ .int16) <|
     .and (.required _ .text) <|
     .and (.withDefault _ _ (.list (IpRange.survives rangeName))) <|
     .and (.ifAny _ .int16 nofun) <|
     .and (.ifAny _ .text nofun) <|
     .and (.ifAny _ .text nofun) <|
     .and (.ifAny _ .int16 nofun) <|
     .and (.ifAny _ .text nofun) .none)
    (by decide) fun _ => rfl

theorem BalancerConfig.survives : Survives BalancerConfig.codec :=
  .record
    (.and (.required _ .text) <|
     .and (.required _ .text) <|
     .and (.required _ .text) <|
     .and (.withDefault _ _ (.list .text)) <|
     .and (.withDefault _ _ (.list (BalancerInterface.survives ..))) .none)
    (by decide) fun _ => rfl

theorem HealthCheck.survives (name : String) : Survives (HealthCheck.codec name) :=
  .record
    (.and (.required _ .text) <|
     .and (.required _ .int32) <|
     .and (.required _ .int32) .none)
    (by decide) fun _ => rfl

theorem ExposedPort.survives : Survives ExposedPort.configCodec :=
  .record
    (.and (.required _ .int32) <|
     .and (.ifAny _ .int32 nofun) <|
     .and (.withDefault _ _ .bool) <|
     .and (.unlessEmpty _ .text) <|
     .and (.ifAny _ (HealthCheck.survives _) nofun) .none)
    (by decide) fun _ => rfl

theorem EnvEntry.survives : Survives EnvEntry.codec :=
  .record
    (.and (.required _ .text) <|
     .and (.ifAny _ .text nofun) <|
     .and (.withDefault _ _ .bool) <|
     .and (.ifAny _ .int64 nofun) .none)
    (by decide) fun _ => rfl

theorem ApplicationSpec.survives : Survives ApplicationSpec.codec :=
  .record
    (.and (.required _ .int64) <|
     .and (.required _ .int64) <|
     .and (.withDefault _ _ .text) <|
     .and (.ifAny _ .int32 nofun) <|
     .and (.ifAny _ .int32 nofun) <|
     .and (.ifAny _ .int32 nofun) <|
     .and (.ifAny _ .int32 nofun) <|
     .and (.ifAny _ .int32 nofun) <|
     .and (.withDefault _ _ .text) <|
     .and (.unlessEmpty _ .text) <|
     .and (.ifAny _ .text nofun) <|
     .and (.ifAny _ .text nofun) <|
     .and (.ifAny _ .int64 nofun) <|
     .and (.withDefault _ _ (.list ExposedPort.survives)) <|
     .and (.unlessEmpty _ EnvEntry.survives) .none)
    (by decide) fun _ => rfl

theorem ApplicationConfig.survives : Survives ApplicationConfig.codec :=
  .record
    (.and (.required _ .text) <|
     .and (.required _ ApplicationSpec.survives) .none)
    (by decide) fun _ => rfl

theorem ClusterConfig.survives : Survives ClusterConfig.codec :=
  .record
    (.and (.withDefault _ _ .text) <|
     .and (.ifAny _ ClusterSettings.survives nofun) <|
     .and (.unlessEmpty _ GroupConfig.survives) <|
     .and (.unlessEmpty _ BalancerConfig.survives) <|
     .and (.withDefault _ _ (.list ApplicationConfig.survives)) .none)
    (by decide) fun _ => rfl

/-- **A configuration that was written is read back as it was**, wherever the text comes from. -/
theorem config_survives_yaml (c : ClusterConfig) (source : Option String) :
    ClusterConfig.ofYaml c.toYaml source = .ok c := by
  have read := decode_print ClusterConfig.survives.faithful (a := c) rfl
    (ClusterConfig.survives.narrow c) (ClusterConfig.survives.keyed c)
  unfold ClusterConfig.ofYaml ClusterConfig.toYaml
  rw [read]

end Converge
