import Converge.Session
/-!
# A simulated control plane

A control plane in memory: it keeps clusters, groups, load balancers, applications and versions,
answers every request from them, and changes them as it is asked to.  Deletions can be made to
linger, so that a resource stays readable for a number of reads after it was deleted, and requests
can be made to fail.  It serves for trying sessions out, and for statements about what they leave
behind.
-/

namespace Converge

/-- Values under identifiers. -/
abbrev ById (α : Type) := List (Uuid × α)

namespace ById

/-- The value under an identifier. -/
def get? (m : ById α) (id : Uuid) : Option α := m.lookup id

/-- Changes the value under an identifier, starting from `a` where there is none. -/
def alter (m : ById α) (id : Uuid) (a : α) (change : α → α) : ById α :=
  match m with
  | [] => [(id, change a)]
  | (k, v) :: rest => if k = id then (k, change v) :: rest else (k, v) :: alter rest id a change

/-- Takes an identifier out. -/
def erase (m : ById α) (id : Uuid) : ById α := m.filter fun e => e.1 ≠ id

end ById

/-- Requests that are made to fail. -/
structure Outage where
  /-- The key of the requests, or the beginning of their keys when it ends in a star. -/
  pattern : String
  failure : Failure
  /-- How many requests are let through before. -/
  skip : Nat
  /-- How many requests fail; all of them without a number. -/
  times : Option Nat
  deriving DecidableEq, Repr, Inhabited

/-- The state of a simulated control plane. -/
structure Simulation where
  pageSize : Nat
  /-- How many reads a deleted resource survives. -/
  linger : Nat
  clusters : List ClusterSummary
  details : List ClusterDetail
  groups : List Group
  /-- By the identifier of the owner. -/
  balancers : ById (List Balancer)
  applications : List Application
  versions : ById (List ApplicationVersion)
  /-- Listings that stand in for the versions of an application. -/
  summaries : ById (List VersionSummary)
  /-- Deleted resources with the reads that are left to them. -/
  pending : ById Nat
  /-- How many identifiers were given out. -/
  issued : Nat
  outages : List Outage
  deriving Repr, Inhabited

namespace Simulation

/-! ## 1. Keys of requests -/

/-- A cursor in a key. -/
def cursorText (cursor : Option String) : String := cursor.getD "-"

/-- The key of a request: what it asks for and which resource it names. -/
def key : Call → String
  | .listClusters cursor => "list_clusters:" ++ cursorText cursor
  | .getCluster c => "get_cluster:" ++ c.text
  | .updateCluster c _ => "update_cluster:" ++ c.text
  | .listGroups c cursor => "list_asgs:" ++ c.text ++ ":" ++ cursorText cursor
  | .getGroup c g => "get_asg:" ++ c.text ++ ":" ++ g.text
  | .createGroup c r => "create_asg:" ++ c.text ++ ":" ++ r.name
  | .deleteGroup c g => "delete_asg:" ++ c.text ++ ":" ++ g.text
  | .listBalancers c g cursor =>
    "list_lbs:" ++ c.text ++ ":" ++ g.text ++ ":" ++ cursorText cursor
  | .getBalancer c g b => "get_lb:" ++ c.text ++ ":" ++ g.text ++ ":" ++ b.text
  | .createBalancer c g r => "create_lb:" ++ c.text ++ ":" ++ g.text ++ ":" ++ r.name
  | .deleteBalancer c g b => "delete_lb:" ++ c.text ++ ":" ++ g.text ++ ":" ++ b.text
  | .listApplications c cursor => "list_apps:" ++ c.text ++ ":" ++ cursorText cursor
  | .createApplication r => "create_app:" ++ r.name
  | .updateApplication a _ => "update_app:" ++ a.text
  | .listVersions a cursor => "list_versions:" ++ a.text ++ ":" ++ cursorText cursor
  | .getVersion a n => "get_version:" ++ a.text ++ ":" ++ toString n
  | .createVersion a _ => "create_version:" ++ a.text

/-! ## 2. Outages -/

/-- Whether an outage is about a request. -/
def Outage.hits (o : Outage) (key : String) : Bool :=
  if o.pattern.endsWith "*" then o.pattern.toList.dropLast.isPrefixOf key.toList
  else o.pattern = key

/-- The failure that a request meets, and the outages that are left. -/
def strike (key : String) : List Outage → Option Failure × List Outage
  | [] => (none, [])
  | o :: rest =>
    if Outage.hits o key && o.times ≠ some 0 then
      if 0 < o.skip then
        let (f, rest) := strike key rest
        (f, { o with skip := o.skip - 1 } :: rest)
      else (some o.failure, { o with times := o.times.map (· - 1) } :: rest)
    else
      let (f, rest) := strike key rest
      (f, o :: rest)

/-! ## 3. Listings -/

/-- The number that a cursor spells. -/
def position (cursor : Option String) : Nat := (cursor.bind (·.toNat?)).getD 0

/-- The page of a listing that starts at a cursor. -/
def page (size : Nat) (items : List α) (cursor : Option String) : Page α :=
  let start := min (position cursor) items.length
  let stop := min (start + size) items.length
  ⟨(items.drop start).take size, if stop < items.length then some (toString stop) else none⟩

/-- The resources that are not about to go. -/
def present (s : Simulation) (id : α → Uuid) (items : List α) : List α :=
  items.filter fun a => (s.pending.get? (id a)).isNone

/-- The load balancers of a group. -/
def balancersOf (s : Simulation) (group : Uuid) : List Balancer :=
  (s.balancers.get? group).getD []

/-- The versions of an application. -/
def versionsOf (s : Simulation) (application : Uuid) : List ApplicationVersion :=
  (s.versions.get? application).getD []

/-- A version in a listing. -/
def summary (v : ApplicationVersion) : VersionSummary :=
  ⟨v.version, v.image, 1700000000 + v.version.toInt64, 0⟩

/-- The listed versions of an application. -/
def summariesOf (s : Simulation) (application : Uuid) : List VersionSummary :=
  match s.summaries.get? application with
  | some listed => listed
  | none => (s.versionsOf application).map summary

/-! ## 4. Changes -/

/-- A new identifier. -/
def issue (s : Simulation) : Uuid × Simulation :=
  (Uuid.ofNat (0xf0000000000000000000000000000000 + s.issued + 1), { s with issued := s.issued + 1 })

/-- Removes a group together with its load balancers. -/
def removeGroup (s : Simulation) (id : Uuid) : Simulation :=
  { s with
    groups := s.groups.filter fun g => g.id ≠ id
    balancers := s.balancers.erase id
    pending := s.pending.erase id }

/-- Removes a load balancer. -/
def removeBalancer (s : Simulation) (owner id : Uuid) : Simulation :=
  { s with
    balancers := s.balancers.map fun (k, bs) =>
      (k, if k = owner then bs.filter fun b => b.id ≠ id else bs)
    pending := s.pending.erase id }

/-- Marks a resource as deleted, with the reads that are left to it. -/
def mark (s : Simulation) (id : Uuid) : Simulation :=
  { s with pending := s.pending.alter id 0 fun _ => s.linger }

/-- The version that a request describes, as it is stored. -/
def stored (number : Int32) (r : CreateVersionRequest) : ApplicationVersion where
  version := number
  cpu := r.cpu
  memory := r.memory
  scalingMode := r.scalingMode
  fixedScale := r.fixedScale
  minScale := r.minScale
  maxScale := r.maxScale
  scaleInThreshold := r.scaleInThreshold
  scaleOutThreshold := r.scaleOutThreshold
  image := r.image
  cmd := r.cmd
  registryUsername := r.registryUsername
  exposedPorts := r.exposedPorts
  env := r.env.map (·.inherited)

/-- The group that a request describes. -/
def storedGroup (id : Uuid) (r : CreateGroupRequest) : Group :=
  ⟨id, r.name, r.zone, r.workerServiceClassPath, r.minNodes, r.maxNodes, r.nameServers,
    r.interfaces⟩

/-- The load balancer that a request describes. -/
def storedBalancer (id : Uuid) (r : CreateBalancerRequest) : Balancer :=
  ⟨id, r.name, r.serviceClassPath, r.nameServers, r.interfaces⟩

/-- The number of the next version. -/
def nextNumber (versions : List ApplicationVersion) : Int32 :=
  ((versions.map (·.version)).max?.getD 0) + 1

/-- Something that has to be there. -/
def orNotFound (what : String) : Option α → Except Failure α
  | some a => .ok a
  | none => .error (.notFound what)

/-- One read of a resource that may be about to go: it is removed once no reads are left. -/
def read (s : Simulation) (id : Uuid) (remove : Simulation → Simulation)
    (look : Simulation → Except Failure α) : Except Failure α × Simulation :=
  match s.pending.get? id with
  | none => (look s, s)
  | some 0 => let s := remove s; (look s, s)
  | some (n + 1) => (look s, { s with pending := s.pending.alter id n fun _ => n })

/-- Does what a request asks for. -/
def effect (s : Simulation) : (c : Call) → Except Failure c.Reply × Simulation
  | .listClusters cursor => (.ok (page s.pageSize s.clusters cursor), s)
  | .getCluster c => (orNotFound "cluster not found" (s.details.find? (·.id = c)), s)
  | .updateCluster c r =>
    if s.details.any (·.id = c) then
      (.ok (), { s with details := s.details.map fun d =>
        if d.id = c then
          { d with servicePrincipalId := r.servicePrincipalId,
                   hasLetsEncryptEmail := r.letsEncryptEmail.isSome }
        else d })
    else (.error (.notFound "cluster not found"), s)
  | .listGroups _ cursor => (.ok (page s.pageSize (s.present (·.id) s.groups) cursor), s)
  | .getGroup _ g =>
    s.read g (·.removeGroup g) fun s =>
      orNotFound "auto-scaling group not found" (s.groups.find? (·.id = g))
  | .createGroup _ r =>
    let (id, s) := s.issue
    (.ok id, { s with groups := s.groups ++ [storedGroup id r] })
  | .deleteGroup _ g => (.ok (), if s.linger = 0 then s.removeGroup g else s.mark g)
  | .listBalancers _ g cursor =>
    (.ok (page s.pageSize
      ((s.present (·.id) (s.balancersOf g)).map fun b => ⟨b.id, b.name⟩) cursor), s)
  | .getBalancer _ g b =>
    s.read b (·.removeBalancer g b) fun s =>
      orNotFound "load balancer not found" ((s.balancersOf g).find? (·.id = b))
  | .createBalancer _ g r =>
    let (id, s) := s.issue
    (.ok id, { s with balancers := s.balancers.alter g [] (· ++ [storedBalancer id r]) })
  | .deleteBalancer _ g b => (.ok (), if s.linger = 0 then s.removeBalancer g b else s.mark b)
  | .listApplications c cursor =>
    (.ok (page s.pageSize (s.applications.filter (·.clusterId = c)) cursor), s)
  | .createApplication r =>
    let (id, s) := s.issue
    (.ok id, { s with applications := s.applications ++ [⟨id, r.name, r.clusterId, none⟩] })
  | .updateApplication a r =>
    if s.applications.any (·.id = a) then
      (.ok (), { s with applications := s.applications.map fun app =>
        if app.id = a then { app with activeVersion := r.activeVersion } else app })
    else (.error (.notFound "application not found"), s)
  | .listVersions a cursor => (.ok (page s.pageSize (s.summariesOf a) cursor), s)
  | .getVersion a n =>
    (orNotFound "version not found" ((s.versionsOf a).find? (·.version = n)), s)
  | .createVersion a r =>
    let number := nextNumber (s.versionsOf a)
    (.ok number, { s with versions := s.versions.alter a [] (· ++ [stored number r]) })

/-- Answers a request: it may be struck by an outage, and has no effect then. -/
def answer (s : Simulation) (c : Call) : Except Failure c.Reply × Simulation :=
  match strike (key c) s.outages with
  | (some f, left) => (.error f, { s with outages := left })
  | (none, left) => { s with outages := left }.effect c

end Simulation

end Converge
