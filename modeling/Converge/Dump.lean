import Converge.Cluster.Observe
/-!
# Writing down a live cluster

The configuration that describes a live cluster as it is.  Secrets are never part of it, and an
application whose latest version cannot be read is left out.
-/

namespace Converge

/-- The configuration of a live group. -/
def Group.config (g : Group) : GroupConfig :=
  ⟨g.name, g.zone, g.workerServiceClassPath, g.minNodes, g.maxNodes, g.nameServers, g.interfaces⟩

/-- The configuration of a live load balancer under its owner. -/
def Balancer.config (owner : String) (b : Balancer) : BalancerConfig :=
  ⟨b.name, owner, b.serviceClassPath, b.nameServers, b.interfaces⟩

/-- The configuration of a variable, without the value of a secret. -/
def EnvVar.config (e : EnvVar) : EnvEntry :=
  ⟨e.key, if e.secret then none else e.value, e.secret, none⟩

/-- The spec that describes a version, without its password. -/
def ApplicationVersion.spec (v : ApplicationVersion) : ApplicationSpec where
  cpu := v.cpu
  memory := v.memory
  scalingMode := v.scalingMode
  fixedScale := v.fixedScale
  minScale := v.minScale
  maxScale := v.maxScale
  scaleInThreshold := v.scaleInThreshold
  scaleOutThreshold := v.scaleOutThreshold
  image := v.image
  cmd := v.cmd
  registryUsername := v.registryUsername.filter fun u => !u.isEmpty
  registryPassword := none
  registryPasswordVersion := none
  exposedPorts := v.exposedPorts
  env := v.env.map (·.config)

namespace Dump

variable (limit : Nat)

/-- The configurations of the load balancers of some groups. -/
def balancers (cluster : Uuid) (groups : List Group) : Session (List BalancerConfig) := do
  let found ← groups.mapM fun g => do
    let bs ← Observe.listBalancers limit cluster g.id
    pure (bs.map (Balancer.config g.name))
  pure found.flatten

/-- The configuration of an application, if its latest version can be read. -/
def application (a : Application) : Session (Option ApplicationConfig) := do
  match ← Session.outcome (Observe.latestVersion limit a.id) with
  | .ok (some v) => pure (some ⟨a.name, v.spec⟩)
  | .ok none =>
    Session.warn ("Skipping application " ++ a.name ++ ": no versions exist")
    pure none
  | .error f =>
    Session.warn ("Skipping application " ++ a.name ++ ": " ++ f.message)
    pure none

/-- The configuration of the cluster with a name. -/
def cluster (name : String) : Session ClusterConfig := do
  Session.info ("Dumping configuration of cluster " ++ name)
  let identity ← Observe.resolveCluster limit name
  let detail ← Session.call (.getCluster identity.id)
  let groups ← Observe.listGroups limit identity.id
  let balancers ← balancers limit identity.id groups
  let applications ← Observe.listApplications limit identity.id
  let configs ← applications.mapM (application limit)
  pure ⟨identity.name, some ⟨none, detail.servicePrincipalId⟩, groups.map (·.config), balancers,
    configs.filterMap id⟩

end Dump

end Converge
