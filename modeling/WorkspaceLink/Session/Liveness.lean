import WorkspaceLink.Duration
import WorkspaceLink.Id
import WorkspaceLink.Rpc.Client

/-!
# Client identifiers and liveness

A server tells a connection its identifier on request. The same request, repeated at intervals,
shows that the connection is alive. Times are in milliseconds.

A probe is due at a deadline. One that starts late by more than a small tolerance moves the
following deadlines with it; otherwise they stay on the grid of the interval.
-/
namespace WorkspaceLink

/-- Why an identifier was not obtained. -/
inductive ProbeError where
  /-- No answer came within the time allowed, in nanoseconds. -/
  | timeout (nanos : Nat)
  | request (error : RequestError)
  /-- The answer holds no identifier. -/
  | malformed (answer : Json)
  deriving DecidableEq, Repr

def ProbeError.message : ProbeError → String
  | .timeout nanos => "no answer within " ++ Duration.text nanos
  | .request error => error.message
  | .malformed answer => "unexpected client id result: " ++ answer.render

/-- The identifier in an answer: the first text of an array, or a text; never empty. -/
def clientIdOfAnswer (answer : Json) : Except ProbeError ClientId :=
  let id? := match answer with
    | .arr (.str s :: _) => some s
    | .str s => some s
    | _ => none
  match id? with
  | some s => if s.isEmpty then .error (.malformed answer) else .ok ⟨s⟩
  | none => .error (.malformed answer)

namespace Liveness

/-- How late a probe may start without moving the deadlines after it. -/
def toleranceMs : Nat := 5

/-- The deadline after a probe that was due at `due` and starts at `now`. -/
def nextDue (interval due now : Nat) : Nat :=
  if due + toleranceMs < now then now + interval else due + interval

/-- A probe as it goes: how long it takes, and its error if it fails. -/
structure Probe where
  durationMs : Nat := 0
  error : Option ProbeError := none
  deriving DecidableEq, Repr, Inhabited

/-- How a series of probes ends. -/
inductive Verdict where
  | dead (reason : String)
  | cancelled
  /-- Every probe given succeeded and nothing stopped the series. -/
  | alive
  deriving DecidableEq, Repr

/-- What happened in a series of probes: when each started, how it ended and when. -/
structure Trace where
  starts : List Nat
  verdict : Verdict
  endedAt : Nat
  deriving DecidableEq, Repr

/-- Put a start in front of a trace. -/
def Trace.startingAt (trace : Trace) (start : Nat) : Trace :=
  { trace with starts := start :: trace.starts }

/-- The cancellation comes no later than `time`. -/
def cancelledBy (cancel : Option Nat) (time : Nat) : Bool :=
  match cancel with
  | some at_ => at_ ≤ time
  | none => false

/-- Run probes until one fails or the series is cancelled: the next is due at `due`, and the last
one ended at `now`. A cancellation at the very time at which a probe is to start, or ends, wins
here; in general either may. -/
def runFrom (interval : Nat) (cancel : Option Nat) : (due now : Nat) → List Probe → Trace
  | _, now, [] =>
    match cancel with
    | some time => ⟨[], .cancelled, max now time⟩
    | none => ⟨[], .alive, now⟩
  | due, now, probe :: rest =>
    let start := max due now
    if cancelledBy cancel start then ⟨[], .cancelled, max now (cancel.getD now)⟩
    else
      let finish := start + probe.durationMs
      if probe.durationMs ≠ 0 ∧ cancelledBy cancel finish then
        ⟨[start], .cancelled, cancel.getD finish⟩
      else
        match probe.error with
        | some error => ⟨[start], .dead error.message, finish⟩
        | none =>
          (runFrom interval cancel (nextDue interval due start) finish rest).startingAt start

/-- Run probes from time zero; the first is due one interval later. -/
def run (interval : Nat) (cancel : Option Nat) (probes : List Probe) : Trace :=
  if cancelledBy cancel 0 then ⟨[], .cancelled, 0⟩
  else runFrom interval cancel interval 0 probes

end Liveness

end WorkspaceLink
