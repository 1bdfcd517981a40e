import WorkspaceLink.Event.Basic
import WorkspaceLink.Session.Table

/-!
# Waiting for a status

A waiter remembers the last status of each workspace and lets callers wait until a workspace reaches
a status. Each wait has a ticket. All waits for one workspace and status end on the same event.
-/
namespace WorkspaceLink

/-- A wait that has not ended. -/
structure StatusWait where
  ticket : Nat
  workspace : WorkspaceId
  status : Status
  deriving DecidableEq, Repr

/-- How a wait ends. -/
inductive StatusResult where
  /-- The workspace was there already. -/
  | already
  /-- The event that brought the workspace there. -/
  | reached (event : WorkspaceStatusEvent)
  /-- The workspace is tracked no more. -/
  | abandoned
  deriving DecidableEq, Repr

/-- Known statuses, open waits and tracked workspaces. -/
structure StatusWaiter where
  known : List (WorkspaceId × Status) := []
  waits : List StatusWait := []
  tracked : List (WorkspaceId × Subscription) := []
  nextTicket : Nat := 0
  deriving Repr, Inhabited

namespace StatusWaiter

/-- Tickets of waits that end, with their results. -/
abbrev Settled := List (Nat × StatusResult)

/-- The last status seen. -/
def knownStatus? (w : StatusWaiter) (workspace : WorkspaceId) : Option Status :=
  w.known.lookup workspace

def setKnown (w : StatusWaiter) (workspace : WorkspaceId) (status : Status) : StatusWaiter :=
  { w with known := (workspace, status) :: w.known.filter fun entry => entry.1 ≠ workspace }

/-- Begin to wait; the wait ends at once if the workspace is known to be there. -/
def waitFor (w : StatusWaiter) (workspace : WorkspaceId) (status : Status) :
    Nat × StatusWaiter × Settled :=
  let ticket := w.nextTicket
  let w := { w with nextTicket := ticket + 1 }
  if w.knownStatus? workspace = some status then (ticket, w, [(ticket, .already)])
  else (ticket, { w with waits := w.waits ++ [⟨ticket, workspace, status⟩] }, [])

/-- Take in an event: note its status and end the waits for it. An event without a status changes
nothing. -/
def handle (w : StatusWaiter) (event : WorkspaceStatusEvent) : StatusWaiter × Settled :=
  match event.effectiveStatus with
  | none => (w, [])
  | some status =>
    let ends := fun (wait : StatusWait) =>
      wait.workspace = event.workspaceId && wait.status = status
    ({ w.setKnown event.workspaceId status with waits := w.waits.filter fun wait => !ends wait },
      (w.waits.filter ends).map fun wait => (wait.ticket, .reached event))

def isTracked (w : StatusWaiter) (workspace : WorkspaceId) : Bool :=
  (w.tracked.lookup workspace).isSome

/-- Note the subscription that tracks a workspace; the one before it is given back. -/
def setTracked (w : StatusWaiter) (workspace : WorkspaceId) (subscription : Subscription) :
    Option Subscription × StatusWaiter :=
  (w.tracked.lookup workspace,
    { w with
      tracked := (workspace, subscription) ::
        w.tracked.filter fun entry => entry.1 ≠ workspace })

/-- Forget a workspace: its waits are abandoned and its subscription is given back. -/
def untrack (w : StatusWaiter) (workspace : WorkspaceId) :
    Option Subscription × StatusWaiter × Settled :=
  let concerns := fun (wait : StatusWait) => decide (wait.workspace = workspace)
  (w.tracked.lookup workspace,
    { w with
      known := w.known.filter fun entry => entry.1 ≠ workspace
      waits := w.waits.filter fun wait => !concerns wait
      tracked := w.tracked.filter fun entry => entry.1 ≠ workspace },
    (w.waits.filter concerns).map fun wait => (wait.ticket, .abandoned))

def pending (w : StatusWaiter) : Nat := w.waits.length

def summary (w : StatusWaiter) : String :=
  "StatusWaiter \x7b tracked: " ++ Nat.repr w.tracked.length ++ ", pending: " ++
    Nat.repr w.pending ++ ", .. \x7d"

end StatusWaiter

end WorkspaceLink
