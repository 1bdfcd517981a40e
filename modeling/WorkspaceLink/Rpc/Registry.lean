/-!
# Handlers by key

A registry holds handlers in lists, one list for each key, each list in the order of registration.
Identifiers grow with every registration and are never used again. A key whose last handler leaves
is dropped, so no list is empty.
-/
namespace WorkspaceLink

structure HandlerId where
  number : Nat
  deriving DecidableEq, Repr, Inhabited

/-- Handlers of type `η` under keys of type `κ`. -/
structure Registry (κ η : Type) where
  /-- The number of the next registration. There are fewer than `2 ^ 64`, so none comes twice. -/
  next : Nat := 1
  /-- The handlers of each key, in order of registration. -/
  lists : List (κ × List (HandlerId × η)) := []
  deriving Repr, Inhabited

namespace Registry

variable {κ η : Type} [DecidableEq κ]

/-- Append a registration to the list of its key. -/
def append (key : κ) (entry : HandlerId × η) :
    List (κ × List (HandlerId × η)) → List (κ × List (HandlerId × η))
  | [] => [(key, [entry])]
  | (other, entries) :: rest =>
    if other = key then (other, entries ++ [entry]) :: rest
    else (other, entries) :: append key entry rest

def add (registry : Registry κ η) (key : κ) (handler : η) : HandlerId × Registry κ η :=
  let id : HandlerId := ⟨registry.next⟩
  (id, { next := registry.next + 1, lists := append key (id, handler) registry.lists })

def entries (registry : Registry κ η) (key : κ) : List (HandlerId × η) :=
  (registry.lists.lookup key).getD []

/-- The handlers under a key, in order of registration. -/
def handlers (registry : Registry κ η) (key : κ) : List η :=
  (registry.entries key).map Prod.snd

def contains (registry : Registry κ η) (key : κ) (id : HandlerId) : Bool :=
  (registry.entries key).any fun entry => entry.1 = id

/-- Take a registration out of the list of its key; an empty list is dropped. -/
def discard (key : κ) (id : HandlerId) :
    List (κ × List (HandlerId × η)) → List (κ × List (HandlerId × η))
  | [] => []
  | (other, entries) :: rest =>
    if other = key then
      let kept := entries.filter fun entry => entry.1 ≠ id
      if kept.isEmpty then rest else (other, kept) :: rest
    else (other, entries) :: discard key id rest

/-- Remove a registration, and say whether it was there. -/
def remove (registry : Registry κ η) (key : κ) (id : HandlerId) : Bool × Registry κ η :=
  (registry.contains key id, { registry with lists := discard key id registry.lists })

def clear (registry : Registry κ η) : Registry κ η := { registry with lists := [] }

def count (registry : Registry κ η) (key : κ) : Nat := (registry.entries key).length

def size (registry : Registry κ η) : Nat :=
  registry.lists.foldl (fun size list => size + list.2.length) 0

def isEmpty (registry : Registry κ η) : Bool := registry.size == 0

def keyCount (registry : Registry κ η) : Nat := registry.lists.length

/-- Call every handler of a key on a state, in order of registration. The handlers are those that
are registered when the dispatch starts, whatever they do to the registry. -/
def dispatch {σ : Type} (registry : Registry κ η) (key : κ) (invoke : η → σ → σ) (state : σ) : σ :=
  (registry.handlers key).foldl (fun state handler => invoke handler state) state

def dispatchCounted {σ : Type} (registry : Registry κ η) (key : κ) (invoke : η → σ → σ)
    (state : σ) : Nat × σ :=
  ((registry.handlers key).length, registry.dispatch key invoke state)

def summary (registry : Registry κ η) : String :=
  "HandlerRegistry \x7b keys: " ++ Nat.repr registry.keyCount ++ ", handlers: " ++
    Nat.repr registry.size ++ " \x7d"

end Registry

end WorkspaceLink
