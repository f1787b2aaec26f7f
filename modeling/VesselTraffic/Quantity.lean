import VesselTraffic.BitView
import VesselTraffic.Number.Layout

/-!
# Quantities

Angles, speeds and lengths are sent as whole numbers of a small unit. A quantity
keeps the number and how many of these make one, so comparisons are exact; only
its written form is a floating-point number.
-/
namespace VesselTraffic

/-- The value `raw / perUnit`. -/
structure Quantity where
  raw : Int
  perUnit : Nat
  deriving DecidableEq, Repr

namespace Quantity

def value (q : Quantity) : Binary64 := (Binary64.ofInt q.raw).div (Binary64.ofNat q.perUnit)

def ofNat (n : Nat) : Quantity := ⟨n, 1⟩

def between (q : Quantity) (least most : Int) : Bool :=
  least * q.perUnit ≤ q.raw && q.raw ≤ most * q.perUnit

/-- Whether the quantity is exactly `n` units. -/
def isExactly (q : Quantity) (n : Int) : Bool := q.raw == n * q.perUnit

end Quantity

namespace BitView

/-- A number in two's complement counting parts of a unit, in a block that begins at
`start`. -/
def signedParts (v : BitView) (first last perUnit : Nat) (start : Nat := 0)
    (_ : Nat.ble last (first + 32) = true := by exact @rfl Bool true) : Quantity :=
  ⟨v.signed (start + first) (start + last), perUnit⟩

/-- A number counting parts of a unit, in a block that begins at `start`. -/
def unsignedParts (v : BitView) (first last perUnit : Nat) (start : Nat := 0)
    (_ : Nat.ble last (first + 32) = true := by exact @rfl Bool true) : Quantity :=
  ⟨v.unsigned (start + first) (start + last), perUnit⟩

/-- A number in two's complement over any divisor. -/
def scaled (v : BitView) (first last : Nat) (divisor : Binary64) : Binary64 :=
  (Binary64.ofInt (v.signed first last)).div divisor

def scaledUnsigned (v : BitView) (first last : Nat) (divisor : Binary64) : Binary64 :=
  (Binary64.ofNat (v.unsigned first last)).div divisor

end BitView

end VesselTraffic
