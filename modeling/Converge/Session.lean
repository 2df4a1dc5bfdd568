import Converge.Cluster.Request
import Converge.Ledger.Basic
import Converge.Failure
import Converge.Log.Basic
import Converge.Program
import Converge.Timestamp
/-!
# Sessions with the control plane

A session asks the control plane through `Call`s, one per kind of request, and everything else
that an operation needs through a few more questions: the stored ledger, the clock, and the log.
Every operation of this library on a live cluster is a `Session`, so it can be run against the
control plane itself, against a simulated one, or against any handler that a statement is about.
-/

namespace Converge

/-- A request to the control plane. -/
inductive Call where
  | listClusters (cursor : Option String)
  | getCluster (cluster : Uuid)
  | updateCluster (cluster : Uuid) (request : UpdateClusterRequest)
  | listGroups (cluster : Uuid) (cursor : Option String)
  | getGroup (cluster group : Uuid)
  | createGroup (cluster : Uuid) (request : CreateGroupRequest)
  | deleteGroup (cluster group : Uuid)
  | listBalancers (cluster group : Uuid) (cursor : Option String)
  | getBalancer (cluster group balancer : Uuid)
  | createBalancer (cluster group : Uuid) (request : CreateBalancerRequest)
  | deleteBalancer (cluster group balancer : Uuid)
  | listApplications (cluster : Uuid) (cursor : Option String)
  | createApplication (request : CreateApplicationRequest)
  | updateApplication (application : Uuid) (request : UpdateApplicationRequest)
  | listVersions (application : Uuid) (cursor : Option String)
  | getVersion (application : Uuid) (version : Int32)
  | createVersion (application : Uuid) (request : CreateVersionRequest)
  deriving DecidableEq, Repr

namespace Call

/-- What a request that succeeds is answered with. -/
@[reducible] def Reply : Call → Type
  | .listClusters _ => Page ClusterSummary
  | .getCluster _ => ClusterDetail
  | .updateCluster _ _ => Unit
  | .listGroups _ _ => Page Group
  | .getGroup _ _ => Group
  | .createGroup _ _ => Uuid
  | .deleteGroup _ _ => Unit
  | .listBalancers _ _ _ => Page BalancerSummary
  | .getBalancer _ _ _ => Balancer
  | .createBalancer _ _ _ => Uuid
  | .deleteBalancer _ _ _ => Unit
  | .listApplications _ _ => Page Application
  | .createApplication _ => Uuid
  | .updateApplication _ _ => Unit
  | .listVersions _ _ => Page VersionSummary
  | .getVersion _ _ => ApplicationVersion
  | .createVersion _ _ => Int32

/-- Whether a request changes something. -/
def mutates : Call → Bool
  | .updateCluster _ _ | .createGroup _ _ | .deleteGroup _ _ | .createBalancer _ _ _
  | .deleteBalancer _ _ _ | .createApplication _ | .updateApplication _ _
  | .createVersion _ _ => true
  | _ => false

/-- What is sent with a request. -/
def body : Call → Option Value
  | .updateCluster _ r => some (UpdateClusterRequest.codec.write r)
  | .createGroup _ r => some (CreateGroupRequest.codec.write r)
  | .createBalancer _ _ r => some (CreateBalancerRequest.codec.write r)
  | .createApplication r => some (CreateApplicationRequest.codec.write r)
  | .updateApplication _ r => some (UpdateApplicationRequest.codec.write r)
  | .createVersion _ r => some (CreateVersionRequest.codec.write r)
  | _ => none

end Call

/-- What a session asks. -/
inductive Question where
  | call (c : Call)
  | loadLedger
  | saveLedger (ledger : SecretLedger)
  /-- Where the ledger is stored, in words. -/
  | ledgerLocation
  /-- Milliseconds on a clock that never goes back. -/
  | clock
  /-- The date and time of day. -/
  | now
  | sleep (milliseconds : Nat)
  | log (level : Level) (text : String)
  deriving DecidableEq, Repr

/-- What a session is answered with. -/
@[reducible] def Question.Reply : Question → Type
  | .call c => Except Failure c.Reply
  | .loadLedger => Except Failure SecretLedger
  | .saveLedger _ => Except Failure Unit
  | .ledgerLocation => String
  | .clock => Nat
  | .now => Timestamp
  | .sleep _ => Unit
  | .log _ _ => Unit

/-- What sessions ask, and what they are answered with. -/
@[reducible] def Session.interface : Interface := ⟨Question, Question.Reply⟩

/-- An operation on a live cluster. -/
abbrev Session := ExceptT Failure (Program Session.interface)

namespace Session

/-- Asks, where there is always a reply. -/
def ask (q : Question) : Session q.Reply :=
  ExceptT.lift (Program.question (I := Session.interface) q)

/-- Sends a request. -/
def call (c : Call) : Session c.Reply :=
  ExceptT.mk (Program.question (I := Session.interface) (.call c))

/-- Writes a line to the log. -/
def log (level : Level) (text : String) : Session Unit := ask (.log level text)

def debug (text : String) : Session Unit := log .debug text
def info (text : String) : Session Unit := log .info text
def warn (text : String) : Session Unit := log .warn text
def error (text : String) : Session Unit := log .error text

/-- The stored ledger. -/
def loadLedger : Session SecretLedger :=
  ExceptT.mk (Program.question (I := Session.interface) .loadLedger)

/-- Stores a ledger. -/
def saveLedger (ledger : SecretLedger) : Session Unit :=
  ExceptT.mk (Program.question (I := Session.interface) (.saveLedger ledger))

/-- Gives up, because the limit on the rounds of a loop is used up. -/
def unfinished : Session α := ExceptT.mk .unfinished

/-- The outcome of an operation, failures included. -/
def outcome (s : Session α) : Session (Except Failure α) := ExceptT.lift s.run

end Session

end Converge
