import WorkspaceLink.Link.Poll

/-!
# Links that run together

Several links share one clock, and their tasks run one at a time: those that were woken wait in one
queue and run in the order they were woken. Time passes only while every task waits. It then jumps
to the next alarm, and all alarms of that time go off in the order they were set.
-/
namespace WorkspaceLink

/-- Links, and the tasks of theirs that are to run, each by the position of its link and its
number. -/
structure Fleet where
  ambient : Ambient := {}
  links : List Link := []
  ready : List (Nat × Nat) := []
  deriving Inhabited

namespace Fleet

def now (fleet : Fleet) : Nat := fleet.ambient.clock

def link? (fleet : Fleet) (k : Nat) : Option Link := fleet.links[k]?

/-- Append a task, unless it waits to run already. -/
def enqueue (queue : List (Nat × Nat)) (entry : Nat × Nat) : List (Nat × Nat) :=
  if queue.contains entry then queue else queue ++ [entry]

/-- Put a link back in its place, and queue the tasks that were woken on it. -/
def restore (k : Nat) (link : Link) (fleet : Fleet) : Fleet where
  ambient := link.ambient
  links := fleet.links.set k { link with woken := [] }
  ready := (link.woken.map fun id => (k, id)).foldl enqueue fleet.ready

/-- Act on a link; nothing happens if there is none. -/
def act {α : Type} (k : Nat) (action : Link → α × Link) (fleet : Fleet) : Option α × Fleet :=
  match fleet.links[k]? with
  | none => (none, fleet)
  | some link =>
    let (result, link) := action { link with ambient := fleet.ambient }
    (some result, fleet.restore k link)

def update (k : Nat) (change : Link → Link) (fleet : Fleet) : Fleet :=
  (fleet.act k fun link => ((), change link)).2

def add (link : Link) (fleet : Fleet) : Fleet := { fleet with links := fleet.links ++ [link] }

/-- Run at most so many tasks. -/
def settleWithin : Nat → Fleet → Fleet
  | 0, fleet => fleet
  | count + 1, fleet =>
    match fleet.ready with
    | [] => fleet
    | (k, id) :: rest => settleWithin count (update k (Link.poll id) { fleet with ready := rest })

/-- How many tasks may run at one time before it is taken for an endless loop. -/
def patience : Nat := 1000000

/-- Run tasks until all wait; links that nobody needs then let go of their transports. -/
def settle (fleet : Fleet) : Fleet :=
  let fleet := settleWithin patience fleet
  { fleet with links := fleet.links.map Link.detachIfUnused }

/-! ### Time -/

/-- All alarms, each with the position of its link. -/
def alarms (fleet : Fleet) : List (Nat × Alarm) :=
  fleet.links.zipIdx.flatMap fun (link, k) => link.alarms.map fun alarm => (k, alarm)

def nextDue? (fleet : Fleet) : Option Nat := (fleet.alarms.map fun entry => entry.2.due).min?

/-- Let the alarms of a time go off. -/
def ring (time : Nat) (fleet : Fleet) : Fleet :=
  let due := (fleet.alarms.filter fun entry => entry.2.due ≤ time).mergeSort
    fun a b => a.2.order ≤ b.2.order
  { ambient := { fleet.ambient with clock := time }
    links := fleet.links.map fun link =>
      { link with alarms := link.alarms.filter fun alarm => ¬ alarm.due ≤ time }
    ready := (due.map fun entry => (entry.1, entry.2.task)).foldl enqueue fleet.ready }

/-- Let time pass up to `time`, with at most so many alarms on the way. -/
def sleepWithin : Nat → Nat → Fleet → Fleet
  | 0, time, fleet => { fleet with ambient := { fleet.ambient with clock := time } }
  | count + 1, time, fleet =>
    match fleet.nextDue? with
    | some due =>
      if due ≤ time then sleepWithin count time (fleet.ring due).settle
      else { fleet with ambient := { fleet.ambient with clock := time } }
    | none => { fleet with ambient := { fleet.ambient with clock := time } }

/-- Let milliseconds pass. Alarms are set for later times only, so there is at most one time with
alarms in each millisecond. -/
def sleep (millis : Nat) (fleet : Fleet) : Fleet :=
  sleepWithin millis (fleet.now + millis) fleet.settle

/-- Let time pass until nothing is due any more or a call on a link is over. -/
def awaitCall (k id : Nat) : Nat → Fleet → Fleet
  | 0, fleet => fleet
  | count + 1, fleet =>
    if (fleet.link? k).any fun link => link.isRunning id then
      match fleet.nextDue? with
      | some due => awaitCall k id count (fleet.ring due).settle
      | none => fleet
    else fleet

end Fleet

end WorkspaceLink
