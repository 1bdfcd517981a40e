import WorkspaceLink.Connections
import WorkspaceLink.Rpc.Deferred
import WorkspaceLink.Watch.Arguments
import WorkspaceLink.Watch.Failure

/-!
# The command that follows events

It connects, subscribes to what its arguments name, one subscription after the other, and prints
the events. It ends when it is interrupted, or when every workspace has reached the status that it
was told to wait for; it then ends its subscriptions and closes the session. A subscription that
fails ends it at once.
-/
namespace WorkspaceLink

/-- Where the command stands; each stage names the call that it waits for. -/
inductive WatchStage where
  | connecting (call : Nat)
  | subscribing (call : Nat) (rest : List Selection)
  /-- The status waiter is told of a workspace. -/
  | tracking (call : Nat) (rest : List WorkspaceId)
  | waiting
  | unsubscribing (call : Nat) (rest : List Subscription)
  | ended (failure : Option Failure)

structure Watch where
  arguments : Arguments
  connections : Connections
  /-- The position of its session. -/
  session : Nat
  stage : WatchStage
  subscriptions : List Subscription := []
  /-- The calls that wait for workspaces to reach the status. -/
  waits : List (WorkspaceId × Nat) := []
  /-- What is reported once everything is closed. -/
  failure : Option Failure := none

namespace Watch

/-- What is subscribed to, in order. -/
def selections (arguments : Arguments) : List Selection :=
  (arguments.workspaces.flatMap fun workspace =>
    let workspace : WorkspaceId := ⟨workspace⟩
    [.workspaceStatus workspace, .machineStatus workspace] ++
      if arguments.noLogs then []
      else [.output workspace arguments.machine, .installerOutput workspace]) ++
  (arguments.organizations.map fun organization => .organization ⟨organization⟩) ++
  (arguments.user.map fun user => .membership ⟨user⟩).toList

/-- Act on the session; the number of a call is given back. -/
def act (action : Link → Nat × Link) (w : Watch) : Nat × Watch :=
  let (id, fleet) := w.connections.fleet.act w.session action
  (id.getD 0, { w with connections := { w.connections with fleet } })

def start (call : Call) (w : Watch) : Nat × Watch := w.act (Link.call call)

def drop (call : Nat) (w : Watch) : Watch :=
  let fleet := w.connections.fleet.update w.session (Link.abandon call)
  { w with connections := { w.connections with fleet } }

/-- The outcome of a call, once it is over. -/
def outcome? (w : Watch) (call : Nat) : Option Outcome :=
  (w.connections.fleet.link? w.session).bind fun link => link.finished.lookup call

def begin (arguments : Arguments) (settings : ClientSettings) : Watch :=
  let fleet : Fleet := { ambient := { tokens := ⟨arguments.token.toList.map some⟩ } }
  let (session, connections) := ({ settings := settings.session, fleet } : Connections).getOrCreate
    arguments.entrypoint (.socket { settings := settings.transport })
  let (call, w) := start .connect { arguments, connections, session, stage := .waiting }
  { w with stage := .connecting call }

/-- Close everything and end. -/
def close (w : Watch) : Watch :=
  { w with connections := w.connections.clear, stage := .ended w.failure }

/-- End the subscriptions that are left, one after the other. -/
def unsubscribeNext (rest : List Subscription) (w : Watch) : Watch :=
  match rest with
  | [] => w.close
  | subscription :: rest =>
    let (call, w) := w.start (.unsubscribe subscription)
    { w with stage := .unsubscribing call rest }

/-- The wait is over. -/
def cleanUp (failure : Option Failure) (w : Watch) : Watch :=
  let w := w.waits.foldl (fun w entry => w.drop entry.2) w
  unsubscribeNext w.subscriptions { w with failure }

/-- Wait for the status of the workspaces that are left: the wait begins first, then the workspace
is tracked. -/
def trackNext (status : Status) (rest : List WorkspaceId) (w : Watch) : Watch :=
  match rest with
  | [] => { w with stage := .waiting }
  | workspace :: rest =>
    let (wait, w) := w.act (Link.waitForStatus workspace status)
    let (call, w) := w.start (.track workspace)
    { w with waits := w.waits ++ [(workspace, wait)], stage := .tracking call rest }

/-- Everything is subscribed to. -/
def beginWaiting (w : Watch) : Watch :=
  match w.arguments.goal with
  | none => { w with stage := .waiting }
  | some status => w.trackNext status (w.arguments.workspaces.map Id.mk)

/-- Subscribe to what is left. -/
def subscribeNext (rest : List Selection) (w : Watch) : Watch :=
  match rest with
  | [] => w.beginWaiting
  | selection :: rest =>
    match selection.topic? with
    | none => w.subscribeNext rest
    | some topic =>
      let (call, w) := w.start (.subscribe topic ⟨selection, .print⟩)
      { w with stage := .subscribing call rest }

/-- Nobody will say that the workspace reached the status. -/
def stoppedWaiting (workspace : WorkspaceId) : Failure :=
  ⟨"stopped waiting for " ++ workspace.text, [Deferred.abandonedMessage]⟩

/-- How the waits ended, looked at in order: not yet, or with a failure, or well. -/
def waitResult? (w : Watch) : List (WorkspaceId × Nat) → Option (Option Failure)
  | [] => some none
  | (workspace, call) :: rest =>
    match w.outcome? call with
    | none => none
    | some (.status _) => w.waitResult? rest
    | some _ => some (some (stoppedWaiting workspace))

/-- Go on, if what the stage waits for is there. -/
def step? (w : Watch) : Option Watch :=
  match w.stage with
  | .connecting call =>
    (w.outcome? call).map fun
      | .failed error =>
        { w with stage := .ended (some (.ofConnect w.arguments.entrypoint error)) }
      | _ => w.subscribeNext (selections w.arguments)
  | .subscribing call rest =>
    (w.outcome? call).map fun
      | .subscribed subscription =>
        subscribeNext rest { w with subscriptions := w.subscriptions ++ [subscription] }
      | .failed error => { w with stage := .ended (some (.ofSession error)) }
      | _ => w.subscribeNext rest
  | .tracking call rest =>
    (w.outcome? call).map fun
      | .failed error => w.cleanUp (some (.ofSession error))
      | _ => w.trackNext (w.arguments.goal.getD .unknown) rest
  | .waiting =>
    if w.arguments.goal.isSome then (w.waitResult? w.waits).map fun failure => w.cleanUp failure
    else none
  | .unsubscribing call rest => (w.outcome? call).map fun _ => w.unsubscribeNext rest
  | .ended _ => none

def isWaiting (w : Watch) : Bool :=
  match w.stage with
  | .waiting => true
  | _ => false

def isEnded (w : Watch) : Bool :=
  match w.stage with
  | .ended _ => true
  | _ => false

/-- The user interrupts the command while it waits. -/
def interrupt (w : Watch) : Watch :=
  match w.stage with
  | .waiting => w.cleanUp none
  | .tracking call _ => (w.drop call).cleanUp none
  | _ => w

/-- Run all tasks, and the command itself, until all wait. -/
def advance : Nat → Watch → Watch
  | 0, w => w
  | count + 1, w =>
    let w := { w with connections := w.connections.settle }
    match w.step? with
    | some next => advance count next
    | none => w

def printed (w : Watch) : List String :=
  ((w.connections.fleet.link? w.session).map fun link =>
    link.notes.filterMap fun
      | .line text => some text
      | _ => none).getD []

end Watch

/-! ### Before and after -/

/-- How the command ends: its exit code, what it printed, and its report of an error. -/
structure WatchReport where
  code : Nat
  output : List String := []
  error : List String := []
  deriving DecidableEq, Repr

namespace WatchReport

/-- What the command calls itself. -/
def versionLine : String := "che-watch 0.1.0"

def usageLines : List String :=
  ["Follow workspace and organization events", "", "Usage: che-watch [OPTIONS] <ENTRYPOINT>"]

def ofStop : ArgumentStop → WatchReport
  | .help => { code := 0, output := usageLines }
  | .version => { code := 0, output := [versionLine] }
  | .fault fault => { code := 2, error := (Failure.textLines ("error: " ++ fault.message)).take 1 }

def ofFailure (failure : Failure) : WatchReport := { code := 1, error := failure.lines }

def ofWatch (w : Watch) : WatchReport :=
  let output := w.printed.flatMap Failure.textLines
  match w.stage with
  | .ended (some failure) => { ofFailure failure with output }
  | _ => { code := 0, output }

end WatchReport

/-- Get ready to run: read the arguments, then the settings from the file that they or the
environment name. -/
def Watch.prepare (arguments : List String) (env : Environment) (file : String → SettingsFile) :
    Except WatchReport Watch :=
  match Arguments.parse arguments with
  | .error stop => .error (.ofStop stop)
  | .ok arguments =>
    if arguments.workspaces.isEmpty && arguments.organizations.isEmpty && arguments.user.isNone then
      .error (.ofFailure Failure.nothingToWatch)
    else if arguments.goal.isSome && arguments.workspaces.isEmpty then
      .error (.ofFailure Failure.goalWithoutWorkspace)
    else
      let path := arguments.settings.getD (Settings.path env)
      match (Settings.load path (file path) env).1 with
      | .error error => .error (.ofFailure (.ofSettings path error))
      | .ok settings => .ok (Watch.begin arguments settings)

end WorkspaceLink
