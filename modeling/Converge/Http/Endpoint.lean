import Converge.Http.Message
import Converge.Json.Reader
import Converge.Session
/-!
# The control plane's interface

How each request of a session is written as a request to the control plane, and how its answer
is read.  Listings come in pages; a page says where the next one starts by a text or a number.
-/

namespace Converge

/-! ## 1. Where and how -/

namespace Call

/-- How a request is made. -/
def method : Call → Http.Method
  | .updateCluster _ _ => .put
  | .createGroup _ _ | .createBalancer _ _ _ | .createApplication _ | .createVersion _ _ => .post
  | .deleteGroup _ _ | .deleteBalancer _ _ _ => .delete
  | .updateApplication _ _ => .patch
  | _ => .get

/-- The path of a cluster's groups. -/
def groupsPath (cluster : Uuid) : String :=
  "/clusters/" ++ cluster.text ++ "/auto_scaling_groups"

/-- The path of a group's load balancers. -/
def balancersPath (cluster group : Uuid) : String :=
  groupsPath cluster ++ "/" ++ group.text ++ "/load_balancers"

/-- The path of an application's versions. -/
def versionsPath (application : Uuid) : String :=
  "/applications/" ++ application.text ++ "/versions"

/-- The path of what a request is about. -/
def path : Call → String
  | .listClusters _ => "/clusters"
  | .getCluster cluster | .updateCluster cluster _ => "/clusters/" ++ cluster.text
  | .listGroups cluster _ | .createGroup cluster _ => groupsPath cluster
  | .getGroup cluster group | .deleteGroup cluster group =>
    groupsPath cluster ++ "/" ++ group.text
  | .listBalancers cluster group _ | .createBalancer cluster group _ =>
    balancersPath cluster group
  | .getBalancer cluster group balancer | .deleteBalancer cluster group balancer =>
    balancersPath cluster group ++ "/" ++ balancer.text
  | .listApplications _ _ | .createApplication _ => "/applications"
  | .updateApplication application _ => "/applications/" ++ application.text
  | .listVersions application _ | .createVersion application _ => versionsPath application
  | .getVersion application version => versionsPath application ++ "/" ++ toString version

/-- How many items a page is asked to have. -/
def pageSize : Nat := 30

/-- What asks for one page. -/
def pageQuery (cursor : Option String) : List (String × String) :=
  ("max_items", toString pageSize)
    :: match cursor with
      | some c => [("cursor", c)]
      | none => []

/-- What narrows a request down. -/
def query : Call → List (String × String)
  | .listClusters cursor | .listGroups _ cursor | .listBalancers _ _ cursor
  | .listVersions _ cursor => pageQuery cursor
  | .listApplications cluster cursor => pageQuery cursor ++ [("cluster_id", cluster.text)]
  | _ => []

end Call

/-! ## 2. Answers -/

namespace Answer

mutual

/-- Whether a piece of a document is JSON to its end, with no more than a number of lists and
tables around one another. -/
def isWhole : Nat → Node → Bool
  | _, .scalar _ => true
  | depth + 1, .list items true => isWholeList depth items
  | depth + 1, .table entries true => isWholeTable depth entries
  | _, _ => false

def isWholeList : Nat → List Node → Bool
  | _, [] => true
  | depth, n :: rest => isWhole depth n && isWholeList depth rest

def isWholeTable : Nat → List (Node × Node) → Bool
  | _, [] => true
  | depth, (k, n) :: rest =>
    (match k with
      | .scalar _ => true
      | _ => false) && isWhole depth n && isWholeTable depth rest

end

/-- How many lists and tables a cursor may have around one another. -/
def cursorDepth : Nat := 126

/-- Where the next page starts: a text or a number; anything else, and the empty text, says that
there is none. -/
def cursor : Codec (Option String) where
  read node :=
    match node with
    | .scalar s =>
      pure (match s.found with
        | .text t => if t.isEmpty then none else some t
        | .int n => some (toString n)
        | .float digits => some digits
        | _ => none)
    | node => if isWhole cursorDepth node then pure none else Reading.fail .unreadable
  write := Value.ofOption .text

/-- A page whose items stand under a key. -/
def page (key : String) (c : Codec α) : Codec (Page α) :=
  .record "Page"
    (.and (.withDefault key c.list []) <| .and (.withDefault "nextCursor" cursor none) .none)
    (fun (items, next, ()) => ⟨items, next⟩)
    (fun p => (p.items, p.next, ()))

/-- A value under a key. -/
def under (key : String) (c : Codec α) : Codec α :=
  .record "Answer" (.and (.required key c) .none) (fun (a, ()) => a) (fun a => (a, ()))

/-- The identifier of what was created. -/
def created (key id : String) : Codec Uuid := under key (under id Uuid.codec)

end Answer

namespace Call

/-- A typed value from the text of an answer. -/
def read? (c : Codec α) (text : String) : Option α :=
  match Json.decode c text with
  | .ok a => some a
  | .error _ => none

/-- Reads the text of an answer; what only changes something has an answer without content. -/
def reply? : (c : Call) → String → Option c.Reply
  | .listClusters _, text => read? (Answer.page "clusters" ClusterSummary.codec) text
  | .getCluster _, text => read? (Answer.under "cluster" ClusterDetail.codec) text
  | .updateCluster _ _, _ => some ()
  | .listGroups _ _, text => read? (Answer.page "autoScalingGroups" Group.codec) text
  | .getGroup _ _, text => read? (Answer.under "autoScalingGroup" Group.codec) text
  | .createGroup _ _, text =>
    read? (Answer.created "autoScalingGroup" "autoScalingGroupId") text
  | .deleteGroup _ _, _ => some ()
  | .listBalancers _ _ _, text => read? (Answer.page "loadBalancers" BalancerSummary.codec) text
  | .getBalancer _ _ _, text => read? (Answer.under "loadBalancer" Balancer.codec) text
  | .createBalancer _ _ _, text => read? (Answer.created "loadBalancer" "loadBalancerId") text
  | .deleteBalancer _ _ _, _ => some ()
  | .listApplications _ _, text => read? (Answer.page "applications" Application.codec) text
  | .createApplication _, text => read? (Answer.created "application" "applicationId") text
  | .updateApplication _ _, _ => some ()
  | .listVersions _ _, text => read? (Answer.page "versions" VersionSummary.codec) text
  | .getVersion _ _, text =>
    read? (Answer.under "applicationVersion" ApplicationVersion.codec) text
  | .createVersion _ _, text =>
    read? (Answer.under "applicationVersion" (Answer.under "version" .int32)) text

/-- A page as it is shown in reports. -/
def pageValue (c : Codec α) (p : Page α) : Value :=
  .table [("items", c.list.write p.items), ("next", .ofOption .text p.next)]

/-- A reply as it is shown in reports. -/
def replyValue : (c : Call) → c.Reply → Value
  | .listClusters _, p => pageValue ClusterSummary.codec p
  | .getCluster _, d => ClusterDetail.codec.write d
  | .updateCluster _ _, () => .null
  | .listGroups _ _, p => pageValue Group.codec p
  | .getGroup _ _, g => Group.codec.write g
  | .createGroup _ _, id => Uuid.codec.write id
  | .deleteGroup _ _, () => .null
  | .listBalancers _ _ _, p => pageValue BalancerSummary.codec p
  | .getBalancer _ _ _, b => Balancer.codec.write b
  | .createBalancer _ _ _, id => Uuid.codec.write id
  | .deleteBalancer _ _ _, () => .null
  | .listApplications _ _, p => pageValue Application.codec p
  | .createApplication _, id => Uuid.codec.write id
  | .updateApplication _ _, () => .null
  | .listVersions _ _, p => pageValue VersionSummary.codec p
  | .getVersion _ _, v => ApplicationVersion.codec.write v
  | .createVersion _ _, n => Codec.int32.write n

end Call

end Converge
