import Converge.Plan.Normal
import Converge.Cluster.Request
import Converge.Ledger.Basic
/-!
# Differences between the desired and the live cluster

For each kind of resource, the lines that say how the live one differs from the desired one.
Interfaces are matched by their index.  Secrets are judged by the ledger: a secret differs when
its version is not the one that was last sent.
-/

namespace Converge

/-- Names between brackets. -/
def bracketed (names : List String) : String := "[" ++ ", ".intercalate names ++ "]"

namespace Diff

/-! ## 1. Infrastructure -/

/-- The line for name servers that differ, in order. -/
def nameServers (live desired : List String) : List String :=
  if live = desired then []
  else [Change.line "NameServers" (bracketed live) (bracketed desired)]

/-- The lines for interfaces: the desired ones are looked up by their index among the live ones,
unless already their numbers differ. -/
def interfaces (index : α → Int16) (changes : α → α → List String) (live desired : List α) :
    List String :=
  if live.length = desired.length then
    desired.flatMap fun wanted =>
      match live.find? fun i => index i = index wanted with
      | some i => changes i wanted
      | none => ["Interface[" ++ toString (index wanted) ++ "]: new interface"]
  else
    [Change.line "Interfaces count" (toString live.length) (toString desired.length)]

/-- The name of a field of an interface. -/
def interfaceField (index : Int16) (name : String) : String :=
  "Interface[" ++ toString index ++ "]." ++ name

/-- The line for address ranges that differ. -/
def ipPool (index : Int16) (live desired : List IpRange) : List String :=
  if desired = live then [] else [interfaceField index "IpPool" ++ ": changed"]

/-- The lines for an interface of a group. -/
def groupInterface (live desired : GroupInterface) : List String :=
  let field := interfaceField desired.interfaceIndex
  Change.text (field "Upstream") live.network desired.network
  ++ Change.scalar (field "ConnectsToLB") live.connectsToLb desired.connectsToLb
  ++ Change.optional (field "NetmaskLen") live.netmaskLen desired.netmaskLen
  ++ Change.optional (field "DefaultGateway") live.defaultGateway desired.defaultGateway
  ++ Change.optional (field "PacketFilterID") live.packetFilterId desired.packetFilterId
  ++ ipPool desired.interfaceIndex live.ipPool desired.ipPool

/-- The lines for a group. -/
def group (live : Group) (desired : GroupConfig) : List String :=
  Change.text "Zone" live.zone desired.zone
  ++ Change.text "WorkerServiceClassPath" live.workerServiceClassPath
    desired.workerServiceClassPath
  ++ Change.scalar "MinNodes" live.minNodes desired.minNodes
  ++ Change.scalar "MaxNodes" live.maxNodes desired.maxNodes
  ++ nameServers live.nameServers desired.nameServers
  ++ interfaces GroupInterface.interfaceIndex groupInterface live.interfaces desired.interfaces

/-- The lines for an interface of a load balancer. -/
def balancerInterface (live desired : BalancerInterface) : List String :=
  let field := interfaceField desired.interfaceIndex
  Change.text (field "Upstream") live.network desired.network
  ++ Change.optional (field "NetmaskLen") live.netmaskLen desired.netmaskLen
  ++ Change.optional (field "DefaultGateway") live.defaultGateway desired.defaultGateway
  ++ Change.optional (field "Vip") live.vip desired.vip
  ++ Change.optional (field "VirtualRouterID") live.virtualRouterId desired.virtualRouterId
  ++ Change.optional (field "PacketFilterID") live.packetFilterId desired.packetFilterId
  ++ ipPool desired.interfaceIndex live.ipPool desired.ipPool

/-- The lines for a load balancer. -/
def balancer (live : Balancer) (desired : BalancerConfig) : List String :=
  Change.text "ServiceClassPath" live.serviceClassPath desired.serviceClassPath
  ++ nameServers live.nameServers desired.nameServers
  ++ interfaces BalancerInterface.interfaceIndex balancerInterface live.interfaces
    desired.interfaces

/-- The lines that name servers and interfaces add to a description. -/
def networkLines (servers : List String) (interfaces : Nat) : List String :=
  (if servers.isEmpty then [] else ["NameServers: " ++ bracketed servers])
  ++ ["Interfaces: " ++ toString interfaces ++ " configured"]

/-- A group that is about to be created, in lines. -/
def describeGroup (g : GroupConfig) : List String :=
  ["Zone: " ++ g.zone, "WorkerServiceClassPath: " ++ g.workerServiceClassPath,
    "MinNodes: " ++ toString g.minNodes ++ ", MaxNodes: " ++ toString g.maxNodes]
  ++ networkLines g.nameServers g.interfaces.length

/-- A load balancer that is about to be created, in lines. -/
def describeBalancer (b : BalancerConfig) : List String :=
  ["AutoScalingGroup: " ++ b.groupName, "ServiceClassPath: " ++ b.serviceClassPath]
  ++ networkLines b.nameServers b.interfaces.length

/-- The lines for the cluster's settings.  An address that is set cannot be compared. -/
def cluster (live : ClusterDetail) (desired : ClusterSettings) : List String :=
  (match live.hasLetsEncryptEmail, desired.letsEncryptEmail with
    | false, some email => ["LetsEncryptEmail: (unset) -> " ++ email]
    | true, none => ["LetsEncryptEmail: (set) -> (unset)"]
    | true, some email =>
      ["LetsEncryptEmail: (set) -> " ++ email ++ " (value comparison not possible)"]
    | false, none => [])
  ++ (if live.servicePrincipalId = desired.servicePrincipalId then []
    else [Change.line "ServicePrincipalID" live.servicePrincipalId desired.servicePrincipalId])

/-! ## 2. Environments -/

/-- The line for a variable that is new. -/
def envAdd (e : EnvEntry) : String :=
  if e.secret then "Env add: " ++ e.key ++ " (secret)"
  else
    match e.value with
    | some value => "Env add: " ++ e.key ++ "=" ++ value
    | none => "Env add: " ++ e.key

/-- The line for a variable that goes. -/
def envRemove (e : EnvVar) : String :=
  if e.secret then "Env remove: " ++ e.key ++ " (secret)" else "Env remove: " ++ e.key

/-- The line for a plain variable with another value. -/
def envUpdate (key before after : String) : String :=
  "Env update: " ++ key ++ "=" ++ before ++ " -> " ++ after

/-- The last variable with a key. -/
def lastWithKey (env : List EnvVar) (key : String) : Option EnvVar :=
  env.reverse.find? (·.key = key)

/-- The lines for a secret: its version is compared with the one in the ledger. -/
def secretChange (ledger : SecretLedger) (app : String) (e : EnvEntry) : List String :=
  match e.secretVersion with
  | none => []
  | some version =>
    match ledger.env? app e.key with
    | none => ["Env update: " ++ e.key ++ " (secret, version: new -> " ++ toString version ++ ")"]
    | some stored =>
      if stored = version then []
      else ["Env update: " ++ e.key ++ " (secret, version: " ++ toString stored ++ " -> "
        ++ toString version ++ ")"]

/-- The lines for a desired variable. -/
def envChange (ledger : SecretLedger) (app : String) (live : List EnvVar) (wanted : EnvEntry) :
    List String :=
  match lastWithKey live wanted.key with
  | none => [envAdd wanted]
  | some current =>
    if wanted.secret then secretChange ledger app wanted
    else if current.secret then
      ["Env update: " ++ wanted.key ++ "=(secret) -> " ++ wanted.value.getD ""]
    else if current.value = wanted.value then []
    else [envUpdate wanted.key (current.value.getD "") (wanted.value.getD "")]

/-- The lines for an environment: what is wanted in order, then what goes in order. -/
def env (app : String) (live : List EnvVar) (desired : List EnvEntry) (ledger : SecretLedger) :
    List String :=
  desired.flatMap (envChange ledger app live)
  ++ live.flatMap fun current =>
    if desired.any (·.key = current.key) then [] else [envRemove current]

/-- The line for the registry password: its version is compared with the one in the ledger. -/
def password (app : String) (desired : Option Int64) (ledger : SecretLedger) : Option String :=
  match ledger.password? app, desired with
  | none, some version => some ("RegistryPasswordVersion: (new) -> " ++ toString version)
  | some stored, some version =>
    if stored = version then none
    else some ("RegistryPasswordVersion: " ++ toString stored ++ " -> " ++ toString version)
  | some stored, none =>
    some ("RegistryPasswordVersion: " ++ toString stored ++ " -> (removed)")
  | none, none => none

/-- What is said in the log about a password version that was left out. -/
def passwordNotice (app : String) (desired : Option Int64) (ledger : SecretLedger) :
    List String :=
  match ledger.password? app, desired with
  | some stored, none =>
    ["Application " ++ app ++ ": registryPasswordVersion omitted but version " ++ toString stored
      ++ " was applied; it will be removed from the ledger"]
  | _, _ => []

/-- The lines for a variable of a later version; what is secret on either side is skipped. -/
def versionEnvChange (before : List EnvVar) (after : EnvVar) : List String :=
  match lastWithKey before after.key with
  | none =>
    if after.secret then ["Env add: " ++ after.key ++ " (secret)"]
    else ["Env add: " ++ after.key ++ "=" ++ after.value.getD ""]
  | some old =>
    if old.secret || after.secret || old.value = after.value then []
    else [envUpdate after.key (old.value.getD "") (after.value.getD "")]

/-- The lines for the environments of two versions. -/
def versionEnv (before after : List EnvVar) : List String :=
  after.flatMap (versionEnvChange before)
  ++ before.flatMap fun old => if after.any (·.key = old.key) then [] else [envRemove old]

/-- Whether either of two environments has a secret. -/
def anySecret (before after : List EnvVar) : Bool := (before ++ after).any (·.secret)

/-! ## 3. Applications -/

/-- An application that is about to be created, in lines. -/
def describeApplication (app : String) (desired : ApplicationSpec) (ledger : SecretLedger) :
    List String :=
  desired.normal.describe ++ desired.env.map envAdd
  ++ (password app desired.registryPasswordVersion ledger).toList

/-- The lines for an application.  The image is that of the version before and not compared. -/
def application (app : String) (live : ApplicationVersion) (desired : ApplicationSpec)
    (ledger : SecretLedger) : Except Failure (List String) :=
  match live.normal.compare desired.normal true with
  | .error f => .error f
  | .ok changes =>
    .ok (changes ++ env app live.env desired.env ledger
      ++ (password app desired.registryPasswordVersion ledger).toList)

end Diff

end Converge
