/-!
# Lengths of time

Times are counted in whole units; a message shows a length in the largest of seconds,
milliseconds, microseconds and nanoseconds that leaves a whole part of at least one.
-/
namespace WorkspaceLink.Duration

def nanosPerMilli : Nat := 1000000

/-- A fraction of a unit that has `width` decimal places, without trailing zeros. -/
def fraction (width part : Nat) : String :=
  let digits := (Nat.repr part).toList
  let padded := List.replicate (width - digits.length) '0' ++ digits
  let kept := (padded.reverse.dropWhile (· = '0')).reverse
  if kept.isEmpty then "" else "." ++ String.ofList kept

/-- The text of a length in nanoseconds. -/
def text (nanos : Nat) : String :=
  if 1000000000 ≤ nanos then
    Nat.repr (nanos / 1000000000) ++ fraction 9 (nanos % 1000000000) ++ "s"
  else if 1000000 ≤ nanos then
    Nat.repr (nanos / 1000000) ++ fraction 6 (nanos % 1000000) ++ "ms"
  else if 1000 ≤ nanos then
    Nat.repr (nanos / 1000) ++ fraction 3 (nanos % 1000) ++ "µs"
  else Nat.repr nanos ++ "ns"

end WorkspaceLink.Duration
