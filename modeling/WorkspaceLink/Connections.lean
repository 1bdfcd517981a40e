import WorkspaceLink.Fleet

/-!
# One session for each entrypoint

Whoever asks for the same entrypoint shares one session. A session lives as long as somebody holds
it: the directory, a user with a handle, or a call that runs on it. When the last holder goes, the
session is released.
-/
namespace WorkspaceLink

/-- The sessions by entrypoint, and who else holds them. Sessions are named by the positions of
their links. -/
structure Connections where
  settings : SessionSettings := {}
  fleet : Fleet := {}
  entries : List (String × Nat) := []
  /-- The handles of users, one position for each handle. -/
  handles : List Nat := []
  deriving Inhabited

namespace Connections

/-- The session of an entrypoint. -/
def find? (c : Connections) (entrypoint : String) : Option Nat := c.entries.lookup entrypoint

def size (c : Connections) : Nat := c.entries.length

/-- A handle of the session of an entrypoint, which is made on first use. -/
def getOrCreate (c : Connections) (entrypoint : String) (carrier : Carrier) :
    Nat × Connections :=
  match c.find? entrypoint with
  | some k => (k, { c with handles := k :: c.handles })
  | none =>
    let k := c.fleet.links.length
    (k,
      { c with
        fleet := c.fleet.add (Link.withSession carrier ⟨entrypoint, c.settings⟩)
        entries := c.entries ++ [(entrypoint, k)]
        handles := k :: c.handles })

def isHeld (c : Connections) (k : Nat) : Bool :=
  (c.entries.any fun entry => entry.2 = k) || c.handles.contains k ||
    (c.fleet.link? k).any fun link => !link.runningCalls.isEmpty

/-- The session at a position was not released yet, but nobody holds it. -/
def isLost (c : Connections) (k : Nat) : Bool :=
  !c.isHeld k && (c.fleet.link? k).any fun link => !link.released

/-- Release the sessions that nobody holds. -/
def sweep (c : Connections) : Connections :=
  let lost := (List.range c.fleet.links.length).filter c.isLost
  { c with fleet := lost.foldl (fun fleet k => fleet.update k Link.release) c.fleet }

/-- Run tasks until all wait; sessions whose last holder went meanwhile are released. -/
def settle (c : Connections) : Connections :=
  let c := sweep { c with fleet := c.fleet.settle }
  { c with fleet := c.fleet.settle }

def release (c : Connections) (k : Nat) : Connections :=
  sweep { c with handles := c.handles.erase k }

/-- Close and forget the session of an entrypoint, and say whether there was one. -/
def remove (c : Connections) (entrypoint : String) : Bool × Connections :=
  match c.find? entrypoint with
  | none => (false, c)
  | some k =>
    let c := { c with entries := c.entries.filter fun entry => entry.1 ≠ entrypoint }
    (true, settle { c with fleet := c.fleet.update k fun link => (link.call .close).2 })

def clear (c : Connections) : Connections :=
  c.entries.foldl (fun c entry => (c.remove entry.1).2) c

def summary (c : Connections) : String :=
  "ConnectionRegistry \x7b sessions: " ++ Nat.repr c.size ++ ", .. \x7d"

end Connections

end WorkspaceLink
