import VesselTraffic.Number.Binary64

/-!
# The shortest decimal that reads back

A magnitude `m · 2 ^ e` is the reading of every decimal in an interval around it.
Among the decimals with the fewest digits in that interval the nearest one is
chosen. The search tries the two neighbours of the magnitude on the grid of
`1, 2, … 17` digits, in exact arithmetic.
-/
namespace VesselTraffic

/-- A decimal `digits · 10 ^ power`. -/
structure Decimal where
  digits : Nat
  power : Int
  deriving DecidableEq, Repr

/-- Moves the zeros at the end into the power, at most `fuel` of them. -/
def Decimal.dropZeros : Nat → Decimal → Decimal
  | 0, d => d
  | fuel + 1, d => if d.digits % 10 = 0 then dropZeros fuel ⟨d.digits / 10, d.power + 1⟩ else d

namespace Binary64

/-- The magnitude and its interval over one denominator. The ends belong to the
interval when the mantissa is even. -/
structure Target where
  value : Nat
  low : Nat
  high : Nat
  den : Nat
  closed : Bool

/-- The interval reaches half way to both neighbours; the one below is nearer at a
power of two. -/
def target (m : Nat) (e : Int) : Target :=
  let narrow := m = leastNormal ∧ leastExponent < e
  let low := if narrow then 4 * m - 1 else 4 * m - 2
  let (value, den) := fraction (4 * m) (e - 2)
  let unit := (fraction 1 (e - 2)).1
  ⟨value, low * unit, (4 * m + 2) * unit, den, m % 2 = 0⟩

/-- Whether `num / den` lies in the interval. -/
def Target.contains (t : Target) (num den : Nat) : Bool :=
  if t.closed then t.low * den ≤ num * t.den && num * t.den ≤ t.high * den
  else t.low * den < num * t.den && num * t.den < t.high * den

/-- Ten to a power, as a fraction. -/
def tenTo (power : Int) : Nat × Nat :=
  if 0 ≤ power then (Nat.pow 10 power.toNat, 1) else (1, Nat.pow 10 (-power).toNat)

/-- The neighbour of the magnitude on the grid `10 ^ power` that lies in the
interval; of two, the nearer one, and of two equally near, the even one. -/
def Target.onGrid? (t : Target) (power : Int) : Option Decimal :=
  let (a, b) := tenTo power
  let below := t.value * b / (t.den * a)
  let above := below + 1
  let hit n := t.contains (n * a) b
  match hit below, hit above with
  | false, false => none
  | true, false => some ⟨below, power⟩
  | false, true => some ⟨above, power⟩
  | true, true =>
    let twice := 2 * (t.value * b)
    let middle := (below + above) * (t.den * a)
    if twice < middle ∨ (twice = middle ∧ below % 2 = 0) then some ⟨below, power⟩
    else some ⟨above, power⟩

/-- The least `k` with `num / den < 10 ^ k`, searched upwards from a first guess. -/
def decimalExponent (num den : Nat) : Int :=
  let guess := ((num.log2 : Int) - den.log2 - 1) * 30103 / 100000 - 1
  let below k := num * (tenTo k).2 < (tenTo k).1 * den
  guess + ((List.range 5).takeWhile fun i : Nat => !below (guess + i)).length

/-- The shortest decimal of `m · 2 ^ e`, for `m` other than zero. -/
def shortest (m : Nat) (e : Int) : Decimal :=
  let t := target m e
  let k := decimalExponent t.value t.den
  let found := (List.range 17).findSome? fun i : Nat => t.onGrid? (k - 1 - i)
  (found.getD ⟨m, 0⟩).dropZeros 18

example : shortest 0x1999999999999a (-56) = ⟨1, -1⟩ := by decide +kernel
example : shortest 1 (-1074) = ⟨5, -324⟩ := by decide +kernel
example : shortest (2 * leastNormal - 1) 971 = ⟨17976931348623157, 292⟩ := by decide +kernel

end Binary64

end VesselTraffic
