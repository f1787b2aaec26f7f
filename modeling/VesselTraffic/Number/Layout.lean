import VesselTraffic.Number.Shortest
import VesselTraffic.Text.Digits

/-!
# How numbers are written

A layout says which decimal exponents are written positionally and how the other
ones look. A number is also written with a fixed count of places, rounded on its
exact value.
-/
namespace VesselTraffic

/-- `least` and `most` bound the exponents of the first digit that are written
positionally; other exponents follow an `e`, with a plus sign if `plus`. -/
structure NumberLayout where
  least : Int
  most : Int
  plus : Bool
  deriving Repr

namespace NumberLayout

/-- In records for programs `0.00001` and `1000000000000000.0` are positional, and
larger exponents have a plus sign. -/
def keyed : NumberLayout := ⟨-5, 15, true⟩

/-- In texts for people `0.0001` and `1000000000000000.0` are positional. -/
def plain : NumberLayout := ⟨-4, 15, false⟩

end NumberLayout

namespace Decimal

/-- The exponent of the first digit. -/
def exponent (d : Decimal) (digits : List Char) : Int := d.power + digits.length - 1

/-- Digits and a point, with at least one digit on either side of it. -/
def positional (d : Decimal) (digits : List Char) : List Char :=
  if 0 ≤ d.power then Text.pointed 1 (digits ++ List.replicate (d.power.toNat + 1) '0')
  else Text.pointed (-d.power).toNat digits

/-- One digit, the others behind a point, and the exponent. -/
def scientific (d : Decimal) (layout : NumberLayout) (digits : List Char) : List Char :=
  let e := d.exponent digits
  let sign := if 0 ≤ e then if layout.plus then ['+'] else [] else ['-']
  let significand := if digits.length = 1 then digits else Text.pointed (digits.length - 1) digits
  significand ++ 'e' :: sign ++ Nat.toDigits 10 e.natAbs

def text (d : Decimal) (layout : NumberLayout) : List Char :=
  let digits := Nat.toDigits 10 d.digits
  let e := d.exponent digits
  if layout.least ≤ e ∧ e ≤ layout.most then d.positional digits else d.scientific layout digits

end Decimal

namespace Binary64

def signed (negative : Bool) (magnitude : List Char) : String :=
  String.ofList (if negative then '-' :: magnitude else magnitude)

/-- The fewest digits that read back as the number. -/
def text (x : Binary64) (layout : NumberLayout) : String :=
  match x with
  | finite s m e => signed s (if m = 0 then ['0', '.', '0'] else (shortest m e).text layout)
  | infinite s => signed s ['i', 'n', 'f']
  | undefined => "NaN"

/-- A fixed count of places, at least one, rounded to the even digit at a tie. -/
def fixed (x : Binary64) (places : Nat) : String :=
  match x with
  | finite s m e =>
    let (num, den) := fraction m e
    signed s (Text.pointed places (Nat.toDigits 10 (roundDiv (num * Nat.pow 10 places) den)))
  | infinite s => signed s ['i', 'n', 'f']
  | undefined => "NaN"

example : (ofRatio false 1 600000).text .keyed = "1.6666666666666667e-6" := by decide +kernel
example : (ofRatio false 1 20000).text .keyed = "0.00005" := by decide +kernel
example : (ofRatio false 1 20000).text .plain = "5e-5" := by decide +kernel
example : (ofInt (-181)).text .plain = "-181.0" := by decide +kernel
example : (ofNat 10000000000000000).text .keyed = "1e+16" := by decide +kernel
example : (ofRatio true 1 8).fixed 2 = "-0.12" := by decide +kernel

end Binary64

end VesselTraffic
