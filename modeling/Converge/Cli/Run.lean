import Converge.Cli.Scan
import Converge.Cli.Work
import Converge.Config.Discovery
import Converge.Config.EnvFile
import Converge.Dump
import Converge.Ledger.File
import Converge.Reconcile
import Converge.Versions.Query
/-!
# Carrying out commands

Each command loads what it needs, does its work, and shows the result.  Only two commands change
anything: `apply`, once the configuration broke no rule, the plan has changes and they were
approved of, and `activate`.
-/

namespace Converge.Cli

/-- What all commands of a run share. -/
structure Run where
  output : Output
  /-- The limit on the rounds of each loop. -/
  limit : Nat
  deriving DecidableEq, Repr, Inhabited

namespace Run

/-! ## 1. Preparations -/

/-- Where the configuration is. -/
def configPath (i : Invocation) : Work Path :=
  match i.config with
  | some path => pure path
  | none => Work.files (ConfigFile.find (Path.ofText "."))

/-- A client of the control plane. -/
def client (environment : Environment) (apiUrl : Option String) : Work Http.Client := do
  let credentials ← Work.ofExcept (Credentials.ofEnvironment environment.get?)
  let client := Http.Client.ofCredentials credentials
  match apiUrl with
  | some url =>
    Work.log .warn ("Using API base URL override: " ++ url)
    pure (client.withBase url)
  | none => pure client

/-- The name of the configured cluster, which has to be there. -/
def clusterName (config : ClusterConfig) : Work String :=
  if config.clusterName.isEmpty then throw (.invalid "clusterName is required" "clusterName")
  else pure config.clusterName

/-- Asks for approval. -/
def confirm (prompt : String) : Work Bool := do
  Work.tell (prompt ++ " [y/N]: ")
  let answer := trimBlank (← Work.readLine)
  pure (answer = "y" || answer = "Y")

/-! ## 2. Commands -/

variable (run : Run)

/-- Checks a configuration. -/
def validate (config : ClusterConfig) (warnings : Bool) : Work Unit := do
  Work.log .info ("Validating configuration for cluster: " ++ config.clusterName)
  let report := config.check true
  Work.printLine (run.output.report report warnings)
  match report.failure? with
  | some f => throw f
  | none => pure ()

/-- Makes and shows the plan for a configuration that breaks no rule. -/
def plan (site : Site) (config : ClusterConfig) : Work Plan := do
  let _ ← Work.ofExcept (config.validate true)
  Work.log .debug "Configuration validation passed"
  let plan ← Work.session site (Reconcile.plan run.limit config)
  Work.printLine (run.output.plan plan)
  pure plan

/-- Makes a plan and applies it. -/
def apply (site : Site) (config : ClusterConfig) (activate autoApprove : Bool) : Work Unit := do
  let plan ← run.plan site config
  if plan.hasChanges then
    if ← (if autoApprove then pure true else confirm "Do you want to apply this plan?") then
      let options : ApplyOptions := ⟨.standard, activate, run.limit⟩
      let result ← Work.session site (Reconcile.apply options config plan)
      Work.printLine (run.output.execution result)
    else Work.tell "Apply cancelled.\n"

/-- Lists the versions of an application. -/
def versions (site : Site) (config : ClusterConfig) (app : String) : Work Unit := do
  let cluster ← clusterName config
  let list ← Work.session site (Versions.list run.limit cluster app)
  Work.printLine (run.output.versions list)

/-- Compares two versions of an application. -/
def diff (site : Site) (config : ClusterConfig) (app : String) (before after : Option Int32) :
    Work Unit := do
  let cluster ← clusterName config
  let diff ← Work.session site (Versions.diff run.limit cluster app before after)
  Work.printLine (run.output.versionDiff diff)

/-- Activates a version of an application. -/
def activate (site : Site) (config : ClusterConfig) (app : String) (target : Option Int32) :
    Work Unit := do
  let cluster ← clusterName config
  let version ← Work.session site (Versions.activate run.limit cluster app target)
  Work.printLine (run.output.activation app version)

/-- Shows a live cluster as a configuration. -/
def dump (environment : Environment) (apiUrl : Option String) (cluster : String) :
    Work Unit := do
  let environment ← Work.files (EnvFile.load environment EnvFile.fileName)
  let client ← client environment apiUrl
  let config ← Work.session ⟨client, none⟩ (Dump.cluster run.limit cluster)
  Work.print (run.output.config config)

/-! ## 3. Invocations -/

/-- Carries out a command on the configured cluster. -/
def onSite (site : Site) (config : ClusterConfig) : Command → Work Unit
  | .plan => do let _ ← run.plan site config
  | .apply activate autoApprove => run.apply site config activate autoApprove
  | .versions app => run.versions site config app
  | .diff app before after => run.diff site config app before after
  | .activate app target => run.activate site config app target
  | .validate _ | .dump _ => pure ()

/-- Carries out an invocation. -/
def invocation (environment : Environment) (i : Invocation) : Work Unit := do
  match i.command with
  | .dump cluster => run.dump environment i.apiUrl cluster
  | command =>
    let path ← configPath i
    let environment ← Work.files (EnvFile.load environment (EnvFile.pathFor path))
    Work.log .debug ("Loading configuration from: " ++ path.text)
    let config ← Work.files (ConfigFile.load path)
    match command with
    | .validate warnings => run.validate config warnings
    | command =>
      let client ← client environment i.apiUrl
      run.onSite ⟨client, some (LedgerFile.pathFor path)⟩ config command

/-- Carries out an invocation, tells of its failure, and comes to the code to exit with. -/
def toExit (environment : Environment) (i : Invocation) : Program interface UInt8 := do
  match ← (run.invocation environment i).run with
  | .ok () => pure 0
  | .error f =>
    Program.question (I := interface) (.tell (run.output.failure f.message ++ "\n"))
    pure 1

end Run

end Converge.Cli
