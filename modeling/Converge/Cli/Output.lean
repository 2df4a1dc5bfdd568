import Converge.Apply.Result
import Converge.Cli.Style
import Converge.Cli.Table
import Converge.Config.Document
import Converge.Config.Validation
import Converge.Json.Printer
import Converge.Plan.Basic
import Converge.Versions.Basic
/-!
# What the command line shows

Every result is shown in one of two forms: as text for people, with tables and colours, or as
JSON for scripts.
-/

namespace Converge.Cli

/-- The form of a result or a log. -/
inductive OutputFormat where
  | text
  | json
  deriving DecidableEq, Repr, Inhabited

/-- The word for a form. -/
def OutputFormat.word : OutputFormat → String
  | .text => "text"
  | .json => "json"

/-- How results are shown. -/
structure Output where
  format : OutputFormat
  /-- Whether colours can be seen. -/
  coloured : Bool
  deriving DecidableEq, Repr, Inhabited

namespace Output

/-- Text in a style. -/
def paint (o : Output) (s : Style) (text : String) : String := s.paint o.coloured text

def bold (o : Output) (text : String) : String := o.paint .bold text
def dimmed (o : Output) (text : String) : String := o.paint .dimmed text
def red (o : Output) (text : String) : String := o.paint .red text
def green (o : Output) (text : String) : String := o.paint .green text
def yellow (o : Output) (text : String) : String := o.paint .yellow text

/-- A line. -/
def line (text : String) : String := text ++ "\n"

/-- At most so many characters of a text; three dots stand for what is cut off. -/
def shorten (limit : Nat) (s : String) : String :=
  if s.length ≤ limit then s else String.ofList (s.toList.take (limit - 3)) ++ "..."

/-- A result in the form that is asked for. -/
def choose (o : Output) (json : Value) (text : String) : String :=
  match o.format with
  | .json => Json.pretty json
  | .text => text

/-! ## 1. Plans -/

/-- An action with its sign. -/
def action (o : Output) : ActionType → String
  | .create => o.green "+create"
  | .update => o.yellow "~update"
  | .recreate => o.red "-/+recreate"
  | .delete => o.red "-delete"
  | .skip => o.dimmed "?skip"
  | .noop => o.dimmed "noop"

/-- An action of a plan with what it is about. -/
structure Entry where
  action : ActionType
  kind : String
  resource : String
  changes : List String

/-- The actions of a plan, those on the cluster first. -/
def entries (p : Plan) : List Entry :=
  ⟨p.clusterAction.action, "cluster", p.cluster.name, p.clusterAction.changes⟩
    :: p.groupActions.map (fun g => ⟨g.action, "auto-scaling group", g.name, g.changes⟩)
    ++ p.balancerActions.map (fun b => ⟨b.action, "load balancer", b.label, b.changes⟩)
    ++ p.applicationActions.map (fun a => ⟨a.action, "application", a.name, a.changes⟩)

/-- The actions of a plan as a table. -/
def entryTable (o : Output) (es : List Entry) : String :=
  Table.text (["Action", "Kind", "Resource", "Changes"] :: es.map fun e =>
    [o.action e.action, e.kind, shorten 40 e.resource, toString e.changes.length])

/-- The changes that an action makes. -/
def entryChanges (o : Output) (e : Entry) : String :=
  if e.changes.isEmpty then ""
  else
    line ("\n" ++ o.action e.action ++ " " ++ e.kind ++ " " ++ o.bold e.resource)
      ++ String.join (e.changes.map fun c => line ("    " ++ c))

/-- How many actions of each kind a plan has. -/
def planCounts (o : Output) (p : Plan) : String :=
  "\nPlan: " ++ o.green (toString (p.count .create)) ++ " to create, "
    ++ o.yellow (toString (p.count .update)) ++ " to update, "
    ++ o.red (toString (p.count .recreate)) ++ " to recreate, "
    ++ o.dimmed (toString (p.count .skip)) ++ " skipped"

/-- A plan as text. -/
def planText (o : Output) (p : Plan) : String :=
  let changed := (entries p).filter fun e => e.action ≠ .noop
  line ("\nPlan for cluster " ++ o.bold p.cluster.name ++ "\n")
    ++ (if changed.isEmpty then
        line (o.green "✓" ++ " No changes required - cluster is up to date.")
      else
        line (o.entryTable changed) ++ String.join (changed.map o.entryChanges)
          ++ line (o.planCounts p))
    ++ (if p.warnings.isEmpty then ""
      else
        line ("\n" ++ o.yellow "⚠" ++ " Warnings:")
          ++ String.join (p.warnings.map fun w => line ("   - " ++ w)))

/-- A plan. -/
def plan (o : Output) (p : Plan) : String := o.choose (Plan.codec.write p) (o.planText p)

/-- What an apply has done. -/
def execution (o : Output) (r : ExecutionResult) : String :=
  o.choose (ExecutionResult.codec.write r) (line (o.green "✓" ++ " " ++ r.text))

/-! ## 2. Versions -/

/-- A list of versions as text. -/
def versionsText (o : Output) (l : VersionList) : String :=
  if l.versions.isEmpty then line l.text
  else
    let rows := l.versions.map fun v =>
      [if v.isActive then "*" else "", toString v.version, v.created.plainText,
        shorten 48 v.image, toString v.activeNodes]
    let active := match l.activeVersion with
      | some v => o.green (toString v)
      | none => o.dimmed "none"
    "\nVersions of " ++ o.bold l.applicationName ++ "\n\n"
      ++ line (Table.text (["", "Version", "Created", "Image", "Nodes"] :: rows))
      ++ line ("\nActive version: " ++ active)

/-- A list of versions. -/
def versions (o : Output) (l : VersionList) : String :=
  o.choose (VersionList.codec.write l) (o.versionsText l)

/-- A comparison of two versions as text. -/
def versionDiffText (o : Output) (d : VersionDiff) : String :=
  "\n" ++ o.bold d.applicationName ++ ": version " ++ toString d.before ++ " -> "
    ++ toString d.after ++ "\n\n"
    ++ (if d.changes.isEmpty then line (o.green "✓" ++ " No differences") else "")
    ++ String.join (d.changes.map fun c => line ("   " ++ o.yellow "~" ++ " " ++ c))
    ++ (if d.hasSecretEnv then
        line ("\n" ++ o.yellow "⚠" ++ " Secret environment variable values cannot be compared")
      else "")
    ++ (if d.hasRegistryPassword then
        line (o.yellow "⚠" ++ " Registry passwords cannot be compared")
      else "")

/-- A comparison of two versions. -/
def versionDiff (o : Output) (d : VersionDiff) : String :=
  o.choose (VersionDiff.codec.write d) (o.versionDiffText d)

/-- An activated version. -/
def activation (o : Output) (application : String) (version : Int32) : String :=
  o.choose
    (.table [("activatedVersion", Codec.int32.write version), ("application", .text application)])
    (line (o.green "✓" ++ " Activated " ++ application ++ " version " ++ toString version))

/-! ## 3. Configurations -/

/-- The outcome of a check as JSON. -/
def reportValue (r : Report) : Value :=
  .table [
    ("errors", .list (r.errors.map fun e =>
      .table [("field", .text e.field), ("message", .text e.message)])),
    ("valid", .bool r.isValid),
    ("warnings", .texts r.warnings)]

/-- The outcome of a check as text. -/
def reportText (o : Output) (r : Report) (showWarnings : Bool) : String :=
  (if r.isValid then line (o.green "✓" ++ " Configuration is valid")
    else
      line (o.red "✗" ++ " Configuration has " ++ toString r.errors.length ++ " error(s)"))
    ++ String.join (r.errors.map fun e => line ("   - " ++ o.bold e.field ++ ": " ++ e.message))
    ++ (if showWarnings then
        String.join (r.warnings.map fun w => line ("   " ++ o.yellow "⚠" ++ " " ++ w))
      else if r.warnings.isEmpty then ""
      else
        line ("   " ++ toString r.warnings.length
          ++ " warning(s), use --warnings to show them"))

/-- The outcome of a check. -/
def report (o : Output) (r : Report) (showWarnings : Bool) : String :=
  o.choose (reportValue r) (o.reportText r showWarnings)

/-- A configuration; as text it is a configuration file. -/
def config (o : Output) (c : ClusterConfig) : String :=
  o.choose (ClusterConfig.codec.write c) c.toYaml

/-- The failure of a command. -/
def failure (o : Output) (message : String) : String :=
  o.choose (.table [("message", .text message), ("status", .text "error")])
    (o.red "✗" ++ " " ++ message)

end Output

end Converge.Cli
