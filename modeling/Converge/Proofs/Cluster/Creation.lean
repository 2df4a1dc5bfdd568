import Converge.Proofs.Config.RoundTrip
import Converge.Proofs.Data.Echo
import Converge.Proofs.Json.RoundTrip
import Converge.Simulation.Basic
/-!
# What is created is read back

The request that creates a resource and the resource that is read back are different records: the
resource has an identifier of its own, most of its fields may be missing, and the request has fields
that are never shown.  They agree all the same.  The body of a request, with the identifier added to
it, is read as the resource that has this identifier and the fields of the request.

Each kind of resource takes part in this with one statement, `reads_back`, which goes through the
fields of the request in their order and says for each how the resource reads it.

Main statement: `created_reads_back`.
-/

namespace Converge

/-! ## 1. Identifiers -/

namespace Uuid

theorem hexValue_hexDigit : ∀ d : Fin 16, hexValue (hexDigit d.val) = some d := by decide

theorem hexDigit_ne : ∀ d : Fin 16, hexDigit d.val ≠ '\x7b' ∧ hexDigit d.val ≠ 'u' := by decide

theorem mapM_hexValue : ∀ ds : List (Fin 16),
    (ds.map fun d => hexDigit d.val).mapM hexValue = some ds
  | [] => rfl
  | d :: ds => by simp [hexValue_hexDigit, mapM_hexValue ds]

theorem mapM_hexValue_hyphen : ∀ (cs rest : List Char), (cs ++ '-' :: rest).mapM hexValue = none
  | [], rest => rfl
  | c :: cs, rest => by
    rw [List.cons_append, List.mapM_cons, mapM_hexValue_hyphen cs rest]
    cases hexValue c <;> rfl

theorem ofDigits?_hexDigit (u : Uuid) :
    ofDigits? (u.digits.map fun d => hexDigit d.val) = some u := by
  rw [ofDigits?, mapM_hexValue]
  exact dif_pos u.size

/-- Digits with hyphens between the groups. -/
def grouped (cs : List Char) : List Char :=
  cs.take 8 ++ '-' :: (cs.drop 8).take 4 ++ '-' :: (cs.drop 12).take 4
    ++ '-' :: (cs.drop 16).take 4 ++ '-' :: cs.drop 20

theorem ofDigits?_grouped (cs : List Char) : ofDigits? (grouped cs) = none := by
  simp only [grouped, List.append_assoc, List.cons_append, ofDigits?, mapM_hexValue_hyphen]

/-- Groups are read as the digits in them. -/
theorem ofGroups?_grouped {cs : List Char} (size : cs.length = 32) :
    ofGroups? (grouped cs) = ofDigits? cs := by
  have rejoined (n : Nat) : (cs.drop n).take 4 ++ cs.drop (n + 4) = cs.drop n := by
    rw [← List.drop_drop]
    exact List.take_append_drop 4 (cs.drop n)
  have whole : cs.take 8 ++ ((cs.drop 8).take 4 ++ ((cs.drop 12).take 4 ++
      ((cs.drop 16).take 4 ++ cs.drop 20))) = cs := by
    rw [rejoined 16, rejoined 12, rejoined 8, List.take_append_drop]
  conv_rhs => rw [← whole]
  simp [ofGroups?, grouped, size, List.drop_append, List.drop_of_length_le]

/-- A text that begins with neither a brace nor the name of a resource is read as digits or
groups. -/
theorem ofText?_of_cons {c : Char} (cs : List Char) (brace : c ≠ '\x7b') (name : c ≠ 'u') :
    ofText? (String.ofList (c :: cs)) = (ofDigits? (c :: cs)).or (ofGroups? (c :: cs)) := by
  unfold ofText?
  rw [String.toList_ofList]
  dsimp only
  split
  next h => exact absurd (List.cons.inj h).1 brace
  next h => exact absurd (List.cons.inj h).1 name
  next => rfl

/-- An identifier is read back from its text. -/
theorem ofText?_text (u : Uuid) : ofText? u.text = some u := by
  have text : u.text = String.ofList (grouped (u.digits.map fun d => hexDigit d.val)) := rfl
  have size : (u.digits.map fun d => hexDigit d.val).length = 32 := by
    rw [List.length_map, u.size]
  have digits := ofDigits?_hexDigit u
  cases hd : u.digits with
  | nil => exact absurd (hd ▸ u.size) (by decide)
  | cons d ds =>
    obtain ⟨brace, name⟩ := hexDigit_ne d
    rw [hd, List.map_cons] at text size digits
    obtain ⟨rest, hrest⟩ : ∃ rest, grouped (hexDigit d.val :: ds.map fun d => hexDigit d.val) =
        hexDigit d.val :: rest := ⟨_, rfl⟩
    rw [text, hrest, ofText?_of_cons rest brace name, ← hrest, ofDigits?_grouped, Option.none_or,
      ofGroups?_grouped size, digits]

theorem faithful_codec : codec.Faithful := by
  intro u node h
  have read := Codec.faithful_textAs "a formatted UUID string" u.text node h
  simp [codec, read, ofText?_text]

end Uuid

/-! ## 2. Fields of requests and of resources -/

open Yaml

namespace Field

variable {key : String} {c : Codec α}

theorem echoes_required (h : Survives c) : (required key c).Echoes (required key c) :=
  ⟨rfl, h.faithful, fun _ hidden => nomatch hidden⟩

theorem echoes_withDefault {a : α} (h : Survives c) :
    (required key c).Echoes (withDefault key c a) :=
  ⟨rfl, h.faithful, fun _ hidden => nomatch hidden⟩

theorem echoes_orNull (h : Survives c) (present : c.Present) :
    (orNullInPlace key c).Echoes (orNull key c) :=
  ⟨rfl, h.faithful.optional present, fun _ hidden => nomatch hidden⟩

theorem echoes_ifAny (h : Survives c) (present : c.Present) :
    (ifAnyInPlace key c).Echoes (orNull key c) := by
  refine ⟨rfl, h.faithful.optional present, fun a hidden => ?_⟩
  rw [Option.isNone_iff_eq_none.1 hidden]
  rfl

end Field

theorem Yaml.FieldSurvives.orNull {c : Codec α} (key : String) (h : Survives c)
    (present : c.Present) : FieldSurvives (Field.orNull key c) key :=
  ⟨rfl, ⟨h.faithful.optional present, fun _ hidden => nomatch hidden⟩, h.narrow.optional,
    h.keyed.optional⟩

theorem ExposedPort.survives_live : Survives ExposedPort.liveCodec :=
  .record
    (.and (.required _ .int32) <|
     .and (.orNull _ .int32 nofun) <|
     .and (.withDefault _ _ .bool) <|
     .and (.withDefault _ _ (.list .text)) <|
     .and (.orNull _ (HealthCheck.survives _) nofun) .none)
    (by decide) fun _ => rfl

theorem EnvVar.survives : Survives EnvVar.codec :=
  .record
    (.and (.required _ .text) <|
     .and (.orNull _ .text nofun) <|
     .and (.withDefault _ _ .bool) .none)
    (by decide) fun _ => rfl

/-! ## 3. Requests and resources -/

/-- Whether every document that holds a value is read as `a`, the text of the value included. -/
structure Codec.Reads (c : Codec α) (w : Value) (a : α) : Prop where
  document : ∀ d : Document, d.root.Holds w → d.sound → c.decode d = .ok a
  text : Json.decode c (Json.pretty w ++ "\n") = .ok a

theorem Codec.Reads.of_read {c : Codec α} {w : Value} {a : α} (narrow : w.Narrow)
    (h : ∀ node, node.Holds w → c.read node = pure a) : c.Reads w a := by
  have document : ∀ d : Document, d.root.Holds w → d.sound → c.decode d = .ok a := by
    intro d hold sound
    rw [Codec.decode, h d.root hold]
    exact if_pos sound
  exact ⟨document, document _ (Json.document_pretty narrow).1 (Json.document_pretty narrow).2⟩

section

open Codec Converge.Field Fields

theorem CreateGroupRequest.narrow_codec : CreateGroupRequest.codec.Narrow :=
  .record
    (.and narrow_text <|
     .and narrow_text <|
     .and narrow_text <|
     .and narrow_int32 <|
     .and narrow_int32 <|
     .and narrow_text.list <|
     .and (GroupInterface.survives _ _).narrow.list narrow_none)

theorem CreateGroupRequest.reads_back (r : CreateGroupRequest) (id : Uuid) {w : Value}
    (hw : Value.Extended "autoScalingGroupId" (Uuid.codec.write id)
      (CreateGroupRequest.codec.write r) w) :
    Group.codec.Reads w (Simulation.storedGroup id r) := by
  refine .of_read (hw.narrow trivial (narrow_codec r)) fun node hn => ?_
  exact read_extended (f := .required "autoScalingGroupId" Uuid.codec)
    (.and (echoes_required .text) <|
     .and (echoes_withDefault .text) <|
     .and (echoes_withDefault .text) <|
     .and (echoes_withDefault .int32) <|
     .and (echoes_withDefault .int32) <|
     .and (echoes_withDefault (.list .text)) <|
     .and (echoes_withDefault (.list (GroupInterface.survives ..))) .none)
    (by decide) (Uuid.faithful_codec id) hw hn

theorem CreateBalancerRequest.narrow_codec : CreateBalancerRequest.codec.Narrow :=
  .record
    (.and narrow_text <|
     .and narrow_text <|
     .and narrow_text.list <|
     .and (BalancerInterface.survives _ _).narrow.list narrow_none)

theorem CreateBalancerRequest.reads_back (r : CreateBalancerRequest) (id : Uuid) {w : Value}
    (hw : Value.Extended "loadBalancerId" (Uuid.codec.write id)
      (CreateBalancerRequest.codec.write r) w) :
    Balancer.codec.Reads w (Simulation.storedBalancer id r) := by
  refine .of_read (hw.narrow trivial (narrow_codec r)) fun node hn => ?_
  exact read_extended (f := .required "loadBalancerId" Uuid.codec)
    (.and (echoes_required .text) <|
     .and (echoes_withDefault .text) <|
     .and (echoes_withDefault (.list .text)) <|
     .and (echoes_withDefault (.list (BalancerInterface.survives ..))) .none)
    (by decide) (Uuid.faithful_codec id) hw hn

/-- The version that a request describes, with a number. -/
def CreateVersionRequest.numbered (r : CreateVersionRequest) (number : Int32) :
    ApplicationVersion where
  version := number
  cpu := r.cpu
  memory := r.memory
  scalingMode := r.scalingMode
  fixedScale := r.fixedScale
  minScale := r.minScale
  maxScale := r.maxScale
  scaleInThreshold := r.scaleInThreshold
  scaleOutThreshold := r.scaleOutThreshold
  image := r.image
  cmd := r.cmd
  registryUsername := r.registryUsername
  exposedPorts := r.exposedPorts
  env := r.env

theorem CreateVersionRequest.narrow_codec : CreateVersionRequest.codec.Narrow :=
  .record
    (.and narrow_int64 <|
     .and narrow_int64 <|
     .and narrow_text <|
     .and narrow_int32.optional <|
     .and narrow_int32.optional <|
     .and narrow_int32.optional <|
     .and narrow_int32.optional <|
     .and narrow_int32.optional <|
     .and narrow_text <|
     .and narrow_text.list <|
     .and narrow_text.optional <|
     .and narrow_text.optional <|
     .and (fun _ => trivial) <|
     .and ExposedPort.survives_live.narrow.list <|
     .and EnvVar.survives.narrow.list narrow_none)

theorem CreateVersionRequest.reads_back (r : CreateVersionRequest) (number : Int32) {w : Value}
    (hw : Value.Extended "version" (int32.write number) (CreateVersionRequest.codec.write r) w) :
    ApplicationVersion.codec.Reads w (r.numbered number) := by
  refine .of_read (hw.narrow (narrow_int32 number) (narrow_codec r)) fun node hn => ?_
  -- The password and what becomes of it are sent and never shown.
  exact read_extended (f := .required "version" int32)
    (.and (echoes_withDefault .int64) <|
     .and (echoes_withDefault .int64) <|
     .and (echoes_withDefault .text) <|
     .and (echoes_ifAny .int32 nofun) <|
     .and (echoes_ifAny .int32 nofun) <|
     .and (echoes_ifAny .int32 nofun) <|
     .and (echoes_ifAny .int32 nofun) <|
     .and (echoes_ifAny .int32 nofun) <|
     .and (echoes_withDefault .text) <|
     .and (echoes_withDefault (.list .text)) <|
     .and (echoes_orNull .text nofun) <|
     .skip <|
     .skip <|
     .and (echoes_withDefault (.list ExposedPort.survives_live)) <|
     .and (echoes_withDefault (.list EnvVar.survives)) .none)
    (by decide) (faithful_int32 number) hw hn

end

/-- **What is sent to create a resource is what reading it back decodes to.**  Where the number of
the version, or the identifier of the group or load balancer, is added to the body of the request,
in any place among its entries, what is read is the resource with that number or identifier and
exactly the fields of the request. -/
theorem created_reads_back :
    (∀ (r : CreateVersionRequest) (number : Int32) (w : Value),
      Value.Extended "version" (Codec.int32.write number) (CreateVersionRequest.codec.write r) w →
      ApplicationVersion.codec.Reads w (r.numbered number)) ∧
    (∀ (r : CreateGroupRequest) (id : Uuid) (w : Value),
      Value.Extended "autoScalingGroupId" (Uuid.codec.write id) (CreateGroupRequest.codec.write r)
        w →
      Group.codec.Reads w (Simulation.storedGroup id r)) ∧
    (∀ (r : CreateBalancerRequest) (id : Uuid) (w : Value),
      Value.Extended "loadBalancerId" (Uuid.codec.write id) (CreateBalancerRequest.codec.write r)
        w →
      Balancer.codec.Reads w (Simulation.storedBalancer id r)) :=
  ⟨fun r number _ => r.reads_back number, fun r id _ => r.reads_back id,
    fun r id _ => r.reads_back id⟩

/-! A version with a secret, a health check and options that are left out, whose entries are shown
in the opposite order; a group with an interface; and a load balancer without any. -/

namespace Shown

def version : CreateVersionRequest where
  cpu := 500
  memory := 1024
  scalingMode := "manual"
  fixedScale := some 2
  minScale := none
  maxScale := none
  scaleInThreshold := none
  scaleOutThreshold := none
  image := "nginx:1.27"
  cmd := []
  registryUsername := none
  registryPassword := some "hunter2"
  passwordAction := .new
  exposedPorts := [⟨80, none, false, ["a.example", ""], some ⟨"/", 10, 3⟩⟩]
  env := [⟨"KEY", some "s3cr3t", true⟩, ⟨"KEY", none, false⟩]

/-- The entries of the request for the version. -/
def entries : List (String × Value) :=
  [("cpu", .int 500), ("memory", .int 1024), ("scalingMode", .text "manual"),
    ("fixedScale", .int 2), ("image", .text "nginx:1.27"), ("cmd", .list []),
    ("registryUsername", .null), ("registryPassword", .text "hunter2"),
    ("registryPasswordAction", .text "new"),
    ("exposedPorts", .list [.table [("targetPort", .int 80), ("loadBalancerPort", .null),
      ("useLetsEncrypt", .bool false), ("host", .texts ["a.example", ""]),
      ("healthCheck", .table [("path", .text "/"), ("intervalSeconds", .int 10),
        ("timeoutSeconds", .int 3)])]]),
    ("env", .list [
      .table [("key", .text "KEY"), ("value", .text "s3cr3t"), ("secret", .bool true)],
      .table [("key", .text "KEY"), ("value", .null), ("secret", .bool false)]])]

def group : CreateGroupRequest :=
  ⟨"web", "is1a", "cloud/1core", 1, 3, [], [⟨0, "shared", true, [⟨"a", "b"⟩], none, some "", none⟩]⟩

def balancer : CreateBalancerRequest := ⟨"front", "cloud/small", ["133.242.0.3"], []⟩

theorem three_read_back :
    ApplicationVersion.codec.Reads (.table (("version", .int 7) :: entries).reverse)
        (version.numbered 7) ∧
      (∃ w, Value.Extended "autoScalingGroupId" (Uuid.codec.write (.ofNat 1))
          (CreateGroupRequest.codec.write group) w ∧
        Group.codec.Reads w (Simulation.storedGroup (.ofNat 1) group)) ∧
      ∃ w, Value.Extended "loadBalancerId" (Uuid.codec.write (.ofNat 2))
          (CreateBalancerRequest.codec.write balancer) w ∧
        Balancer.codec.Reads w (Simulation.storedBalancer (.ofNat 2) balancer) := by
  have written : CreateVersionRequest.codec.write version = .table entries := by rfl
  refine ⟨created_reads_back.1 version 7 _ ?_, ?_, ?_⟩
  · rw [written]
    exact .table (List.reverse_perm _)
  · exact ⟨_, .table (.refl _), created_reads_back.2.1 group (.ofNat 1) _ (.table (.refl _))⟩
  · exact ⟨_, .table (.refl _), created_reads_back.2.2 balancer (.ofNat 2) _ (.table (.refl _))⟩

end Shown

end Converge
