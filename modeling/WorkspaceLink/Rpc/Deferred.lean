/-!
# Values that arrive once

A deferred value has two ends: one that settles it, at most once, and one that waits for it. Either
end may be given up; a wait whose other end is gone, unsettled, is abandoned.
-/
namespace WorkspaceLink

/-- Both ends of a deferred value. -/
structure Deferred (α : Type) where
  /-- The settling end is still held. -/
  canSettle : Bool := true
  /-- The waiting end is still held. -/
  awaited : Bool := true
  /-- The value, once settled and until it is taken. -/
  value : Option α := none
  deriving DecidableEq, Repr

namespace Deferred

/-- What a look at the waiting end shows. -/
inductive Poll (α : Type) where
  | pending
  | ready (value : α)
  | abandoned
  /-- There is no waiting end any more. -/
  | gone
  deriving DecidableEq, Repr

/-- What is said about an abandoned wait. -/
def abandonedMessage : String := "deferred dropped without a value"

variable {α : Type}

/-- Settle the value; true if somebody still waits, none if the settling end is gone. -/
def settle (d : Deferred α) (value : α) : Option Bool × Deferred α :=
  if d.canSettle then
    if d.awaited then (some true, { d with canSettle := false, value := some value })
    else (some false, { d with canSettle := false })
  else (none, d)

/-- Whether the waiting end was given up; none if the settling end is gone. -/
def isAbandoned (d : Deferred α) : Option Bool :=
  if d.canSettle then some (!d.awaited) else none

/-- Give up the settling end; true if it was held. -/
def dropSettler (d : Deferred α) : Bool × Deferred α :=
  (d.canSettle, { d with canSettle := false })

/-- Give up the waiting end; true if it was held. -/
def dropWaiter (d : Deferred α) : Bool × Deferred α :=
  (d.awaited, { d with awaited := false, value := none })

/-- Look at the waiting end; a look that ends the wait also gives the end up. -/
def poll (d : Deferred α) : Poll α × Deferred α :=
  if d.awaited then
    match d.value with
    | some value => (.ready value, { d with awaited := false, value := none })
    | none =>
      if d.canSettle then (.pending, d) else (.abandoned, { d with awaited := false })
  else (.gone, d)

end Deferred

end WorkspaceLink
