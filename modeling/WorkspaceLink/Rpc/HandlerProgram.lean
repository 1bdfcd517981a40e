import WorkspaceLink.Json.Basic
import WorkspaceLink.Rpc.Registry

/-!
# Handlers that use their own registry

Handlers may register and remove handlers, themselves included, and may start further dispatches
while they run. A handler is given by the program that it runs when called. Programs name
registrations by labels; a label stands for the registration that last used it.

Nested dispatches may go round in a circle, so a run has a bound on its nesting.
-/
namespace WorkspaceLink.HandlerProgram

/-- One operation on the registry. -/
inductive Action where
  /-- Register a handler with a label, a key and the program that it runs. -/
  | add (key label : String) (body : List Action)
  | remove (key label : String)
  | dispatch (key : String) (payload : Json)
  | count (key : String)
  | clear
  | summary
  /-- Ask whether the labels were registered in this order. -/
  | increasing (labels : List String)
  deriving Inhabited

/-- A handler: its label and its program. -/
structure Handler where
  label : String
  body : List Action
  deriving Inhabited

inductive Reply where
  | nothing
  | flag (value : Bool)
  | count (value : Nat)
  | text (value : String)
  deriving DecidableEq, Repr

/-- What handlers report, in order. -/
inductive Note where
  /-- A handler was called with a payload. -/
  | called (label : String) (payload : Json)
  /-- A handler finished one operation of its program. -/
  | returned (label : String) (reply : Reply)
  deriving DecidableEq

/-- A registry of programs, the labels in use, and the notes taken. -/
structure State where
  registry : Registry String Handler := {}
  labels : List (String × HandlerId) := []
  notes : List Note := []
  deriving Inhabited

namespace State

def note (state : State) (n : Note) : State := { state with notes := state.notes ++ [n] }

def add (state : State) (key label : String) (body : List Action) : State :=
  let (id, registry) := state.registry.add key ⟨label, body⟩
  { state with registry, labels := (label, id) :: state.labels }

def remove (state : State) (key label : String) : Reply × State :=
  match state.labels.lookup label with
  | none => (.nothing, state)
  | some id =>
    let (found, registry) := state.registry.remove key id
    (.flag found, { state with registry })

/-- The labels were registered in this order. -/
def increasing (state : State) (labels : List String) : Bool :=
  let numbers := labels.filterMap fun label => (state.labels.lookup label).map HandlerId.number
  (numbers.zip (numbers.drop 1)).all fun pair => pair.1 < pair.2

end State

/-- Run an operation; `depth` bounds the nesting of dispatches. -/
def run : (depth : Nat) → Action → State → Reply × State
  | _, .add key label body, state => (.nothing, state.add key label body)
  | _, .remove key label, state => state.remove key label
  | _, .count key, state => (.count (state.registry.count key), state)
  | _, .clear, state => (.nothing, { state with registry := state.registry.clear })
  | _, .summary, state => (.text state.registry.summary, state)
  | _, .increasing labels, state => (.flag (state.increasing labels), state)
  | 0, .dispatch key _, state => (.count (state.registry.count key), state)
  | depth + 1, .dispatch key payload, state =>
    let (called, after) := state.registry.dispatchCounted key (fun handler state =>
      handler.body.foldl (fun state action =>
        let (reply, state) := run depth action state
        state.note (.returned handler.label reply))
        (state.note (.called handler.label payload))) state
    (.count called, after)

end WorkspaceLink.HandlerProgram
