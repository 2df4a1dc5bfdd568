import Converge.Cluster.Live
import Converge.Session
/-!
# Observing a cluster

Listings come in pages; `collectPages` drains them.  The rest finds resources by their names and
takes the snapshot that plans are made from.
-/

namespace Converge

/-- The pages from a cursor on.  Each cursor is followed once; one that was followed before ends
the listing. -/
def collectFrom (fetch : Option String → Session (Page α)) :
    Nat → List String → Option String → Session (List α)
  | 0, _, _ => Session.unfinished
  | limit + 1, seen, cursor => do
    let page ← fetch cursor
    match page.next with
    | none => pure page.items
    | some next =>
      if next ∈ seen then
        Session.warn ("Cursor " ++ next ++ " was already visited, stopping pagination")
        pure page.items
      else
        Session.debug ("Fetching next page (cursor " ++ next ++ ")")
        let rest ← collectFrom fetch limit (next :: seen) (some next)
        pure (page.items ++ rest)

/-- All items of a listing, in at most `limit` pages. -/
def collectPages (limit : Nat) (fetch : Option String → Session (Page α)) : Session (List α) :=
  collectFrom fetch limit [] none

namespace Observe

variable (limit : Nat)

/-- The cluster with a name. -/
def resolveCluster (name : String) : Session ClusterIdentity := do
  let clusters ← collectPages limit fun cursor => Session.call (.listClusters cursor)
  match clusters.find? (·.name = name) with
  | some c => pure ⟨c.name, c.id⟩
  | none => throw (.resolve (.clusterNotFound name))

/-- Every group of a cluster. -/
def listGroups (cluster : Uuid) : Session (List Group) :=
  collectPages limit fun cursor => Session.call (.listGroups cluster cursor)

/-- Every load balancer of a group, in full. -/
def listBalancers (cluster group : Uuid) : Session (List Balancer) := do
  let summaries ← collectPages limit fun cursor =>
    Session.call (.listBalancers cluster group cursor)
  summaries.mapM fun s => Session.call (.getBalancer cluster group s.id)

/-- Every application of a cluster. -/
def listApplications (cluster : Uuid) : Session (List Application) :=
  collectPages limit fun cursor => Session.call (.listApplications cluster cursor)

/-- The application with a name. -/
def findApplication (cluster : Uuid) (name : String) : Session Application := do
  let applications ← listApplications limit cluster
  match applications.find? (·.name = name) with
  | some a => pure a
  | none => throw (.resolve (.applicationNotFound name))

/-- Every version of an application. -/
def listVersions (application : Uuid) : Session (List VersionSummary) :=
  collectPages limit fun cursor => Session.call (.listVersions application cursor)

end Observe

/-- The greatest of some numbers. -/
def greatest (numbers : List Int32) : Option Int32 :=
  match numbers with
  | [] => none
  | n :: rest => some (rest.foldl (fun m k => if m ≤ k then k else m) n)

namespace Observe

variable (limit : Nat)

/-- The version of an application with the highest number. -/
def latestVersion (application : Uuid) : Session (Option ApplicationVersion) := do
  let summaries ← listVersions limit application
  match greatest (summaries.map (·.version)) with
  | some number => some <$> Session.call (.getVersion application number)
  | none => pure none

/-- The load balancers of each group, by the name of the group. -/
def balancersByGroup (cluster : Uuid) (groups : List Group) :
    Session (SortedMap (List Balancer)) :=
  groups.foldlM (fun found g => do
    let bs ← listBalancers limit cluster g.id
    pure (found.insert g.name bs)) .empty

/-- Applications with their latest versions. -/
def withLatest (applications : List Application) : Session (List LiveApplication) :=
  applications.mapM fun a => do
    let latest ← latestVersion limit a.id
    pure ⟨a, latest⟩

/-- Everything that lives in the cluster with a name. -/
def cluster (name : String) : Session LiveState := do
  Session.info ("Observing cluster: " ++ name)
  let identity ← resolveCluster limit name
  let detail ← Session.call (.getCluster identity.id)
  let groups ← listGroups limit identity.id
  let balancers ← balancersByGroup limit identity.id groups
  let applications ← listApplications limit identity.id
  let applications ← withLatest limit applications
  let balancerCount := (balancers.entries.flatMap (·.2)).length
  Session.debug ("Observed " ++ toString groups.length ++ " auto-scaling groups, "
    ++ toString balancerCount ++ " load balancers, " ++ toString applications.length
    ++ " applications")
  pure ⟨identity, detail, groups, balancers, applications⟩

end Observe

end Converge
