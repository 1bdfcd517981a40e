/-!
# The fewest decimal digits that identify a binary64 value

A finite positive binary64 value is `mantissa · 2 ^ exponent`. The reals that round to it form an
interval around it, whose ends belong to it exactly when the mantissa is even. On the grid of
decimals with one, two, … seventeen significant digits the two neighbours of the value are tested
in exact arithmetic, and the first grid with a neighbour inside the interval gives the answer.
-/
namespace WorkspaceLink.Decimal

/-- The magnitude of a binary64 value as `mantissa · 2 ^ exponent`. -/
structure Binary where
  mantissa : Nat
  exponent : Int
  /-- The gap below the value is half the gap above it. -/
  narrowBelow : Bool
  deriving DecidableEq, Repr

/-- Split a bit pattern; the sign bit is not looked at. -/
def Binary.ofBits (bits : UInt64) : Binary :=
  let field : Nat := (bits.toNat / Nat.pow 2 52) % 2048
  let fraction : Nat := bits.toNat % Nat.pow 2 52
  if field = 0 then ⟨fraction, -1074, false⟩
  else ⟨fraction + Nat.pow 2 52, (field : Int) - 1075, fraction == 0 && 1 < field⟩

/-- A decimal `digits · 10 ^ exponent`. -/
structure Digits where
  digits : Nat
  exponent : Int
  deriving DecidableEq, Repr

/-- Order of `a · 10 ^ k` and `b · 2 ^ q`, by cross multiplication. -/
def compareScaled (a : Nat) (k : Int) (b : Nat) (q : Int) : Ordering :=
  compare (a * Nat.pow 10 k.toNat * Nat.pow 2 (-q).toNat)
    (b * Nat.pow 2 q.toNat * Nat.pow 10 (-k).toNat)

namespace Binary

variable (x : Binary)

/-- Four times the lower end of the rounding interval, in units of `2 ^ exponent`. -/
def low : Nat := if x.narrowBelow then 4 * x.mantissa - 1 else 4 * x.mantissa - 2

/-- Four times the upper end of the rounding interval, in units of `2 ^ exponent`. -/
def high : Nat := 4 * x.mantissa + 2

/-- The decimal rounds to this value. -/
def readsBack (d : Digits) : Bool :=
  let below := compareScaled d.digits d.exponent x.low (x.exponent - 2)
  let above := compareScaled d.digits d.exponent x.high (x.exponent - 2)
  if x.mantissa % 2 = 0 then below != .lt && above != .gt
  else below == .gt && above == .lt

def num : Nat := x.mantissa * Nat.pow 2 x.exponent.toNat

def den : Nat := Nat.pow 2 (-x.exponent).toNat

/-- The exponent of the leading decimal digit of a positive value. -/
def leading : Int :=
  if x.den ≤ x.num then ((Nat.repr (x.num / x.den)).length : Int) - 1
  else
    let j := (Nat.repr (x.den / x.num)).length - 1
    if x.den ≤ x.num * Nat.pow 10 j then -(j : Int) else -(j : Int) - 1

/-- The value divided by `10 ^ k`: quotient, remainder and divisor. -/
def onGrid (k : Int) : Nat × Nat × Nat :=
  let n := x.num * Nat.pow 10 (-k).toNat
  let d := x.den * Nat.pow 10 k.toNat
  (n / d, n % d, d)

/-- Of the two neighbours on the grid `10 ^ k`, the one that reads back; of two the nearer, and of
two equally near the even one. -/
def neighbour? (k : Int) : Option Digits :=
  let (q, r, d) := x.onGrid k
  let lower : Digits := ⟨q, k⟩
  let upper : Digits := ⟨q + 1, k⟩
  let lowerFirst := 2 * r < d || (2 * r == d && q % 2 == 0)
  let (first, second) := if lowerFirst then (lower, upper) else (upper, lower)
  if x.readsBack first then some first
  else if x.readsBack second then some second
  else none

end Binary

/-- Move trailing zeros of the digits into the exponent. -/
def Digits.strip : Nat → Digits → Digits
  | 0, d => d
  | fuel + 1, d =>
    if d.digits ≠ 0 ∧ d.digits % 10 = 0 then Digits.strip fuel ⟨d.digits / 10, d.exponent + 1⟩
    else d

/-- The shortest decimal that reads back to a positive value. -/
def Binary.shortest (x : Binary) : Digits :=
  let e := x.leading
  let found := (List.range 17).findSome? fun (n : Nat) => x.neighbour? (e - (n : Int))
  match found with
  | some d => d.strip 20
  | none =>
    ⟨x.mantissa * Nat.pow 5 (-x.exponent).toNat * Nat.pow 2 x.exponent.toNat,
      -(-x.exponent).toNat⟩

end WorkspaceLink.Decimal
