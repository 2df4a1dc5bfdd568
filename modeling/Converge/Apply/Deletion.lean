import Converge.Session
/-!
# Waiting for deletions

The control plane only starts a deletion when it is asked for one.  Whether the resource is gone
is found out by reading it until that fails.  A refused credential says nothing about the
resource and ends the waiting with that failure; so does a resource that is still there when the
time is up.
-/

namespace Converge

/-- How deletions are waited for. -/
structure PollSettings where
  /-- Milliseconds between two looks. -/
  interval : Nat
  /-- Milliseconds after which the waiting is given up. -/
  timeout : Nat
  deriving DecidableEq, Repr, Inhabited

/-- A look every three seconds, for at most five minutes. -/
def PollSettings.standard : PollSettings := ⟨3000, 300000⟩

namespace Deletion

/-- Looks at the resource until it is gone. -/
def waitFrom (poll : PollSettings) (resourceType name : String) (start : Nat)
    (probe : Session α) : Nat → Session Unit
  | 0 => Session.unfinished
  | limit + 1 => do
    match ← Session.outcome probe with
    | .ok _ =>
      Session.debug (resourceType ++ " '" ++ name ++ "' still present")
      let now ← Session.ask .clock
      let elapsed := now - start
      if poll.timeout ≤ elapsed then
        Session.warn ("Gave up waiting for " ++ resourceType ++ " '" ++ name ++ "' to be deleted")
        throw (.apply (.deletionTimeout resourceType name (UInt64.ofNat (elapsed / 1000))))
      else
        Session.ask (.sleep poll.interval)
        waitFrom poll resourceType name start probe limit
    | .error f =>
      if f.isAuthFailure then throw f
      else
        Session.debug (resourceType ++ " '" ++ name ++ "' no longer readable (" ++ f.message
          ++ ")")
        Session.info ("Deleted " ++ resourceType ++ ": " ++ name)

/-- Waits until a resource is gone, with at most `limit` looks. -/
def wait (limit : Nat) (poll : PollSettings) (resourceType name : String) (probe : Session α) :
    Session Unit := do
  let start ← Session.ask .clock
  waitFrom poll resourceType name start probe limit

/-- Deletes a group and waits until it is gone. -/
def group (limit : Nat) (poll : PollSettings) (cluster : Uuid) (name : String) (id : Uuid) :
    Session Unit := do
  Session.info ("Deleting auto-scaling group: " ++ name ++ " (" ++ id.text ++ ")")
  Session.call (.deleteGroup cluster id)
  wait limit poll "auto-scaling group" name (Session.call (.getGroup cluster id))

/-- Deletes a load balancer and waits until it is gone. -/
def balancer (limit : Nat) (poll : PollSettings) (cluster owner : Uuid) (name : String)
    (id : Uuid) : Session Unit := do
  Session.info ("Deleting load balancer: " ++ name ++ " (" ++ id.text ++ ")")
  Session.call (.deleteBalancer cluster owner id)
  wait limit poll "load balancer" name (Session.call (.getBalancer cluster owner id))

end Deletion

end Converge
