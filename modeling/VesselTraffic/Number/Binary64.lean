/-!
# Binary floating-point numbers of 64 bits

A finite number is `± mantissa · 2 ^ exponent`. Every operation is carried out on
exact fractions and rounded once, to the nearest number and to the even mantissa
at a tie.
-/
namespace VesselTraffic

inductive Binary64
  | finite (negative : Bool) (mantissa : Nat) (exponent : Int)
  | infinite (negative : Bool)
  | undefined
  deriving DecidableEq, Repr

namespace Binary64

/-- The nearest integer to `num / den`, the even one at a tie. -/
def roundDiv (num den : Nat) : Nat :=
  let q := num / den
  let r := num % den
  if 2 * r < den then q
  else if den < 2 * r then q + 1
  else if q % 2 = 0 then q else q + 1

def leastExponent : Int := -1074

/-- The least mantissa of 53 bits. -/
def leastNormal : Nat := 4503599627370496

def greatestExponent : Int := 971

/-- The fraction `num / (den · 2 ^ e)`. -/
def scaleDown (num den : Nat) (e : Int) : Nat × Nat :=
  if 0 ≤ e then (num, den * Nat.pow 2 e.toNat) else (num * Nat.pow 2 (-e).toNat, den)

/-- The exponent at which `num / den` has a mantissa of 53 bits, or the least one. -/
def exponentFor (num den : Nat) : Int :=
  let e := max ((num.log2 : Int) - den.log2 - 53) leastExponent
  let (n, d) := scaleDown num den e
  if 2 * leastNormal ≤ n / d then e + 1 else e

/-- The number nearest to `num / den`, for `den` other than zero. -/
def ofRatio (negative : Bool) (num den : Nat) : Binary64 :=
  if num = 0 then .finite negative 0 leastExponent
  else
    let e := exponentFor num den
    let (n, d) := scaleDown num den e
    let m := roundDiv n d
    let (m, e) := if m = 2 * leastNormal then (leastNormal, e + 1) else (m, e)
    if greatestExponent < e then .infinite negative else .finite negative m e

def ofNat (n : Nat) : Binary64 := ofRatio false n 1

def ofInt (i : Int) : Binary64 := ofRatio (decide (i < 0)) i.natAbs 1

/-- The number nearest to `± digits · 10 ^ power`. -/
def ofDecimal (negative : Bool) (digits : Nat) (power : Int) : Binary64 :=
  if 0 ≤ power then ofRatio negative (digits * Nat.pow 10 power.toNat) 1
  else ofRatio negative digits (Nat.pow 10 (-power).toNat)

/-- A magnitude `mantissa · 2 ^ exponent` as a fraction. -/
def fraction (mantissa : Nat) (exponent : Int) : Nat × Nat :=
  if 0 ≤ exponent then (mantissa * Nat.pow 2 exponent.toNat, 1)
  else (mantissa, Nat.pow 2 (-exponent).toNat)

def neg : Binary64 → Binary64
  | finite s m e => finite (!s) m e
  | infinite s => infinite (!s)
  | undefined => undefined

/-- A quotient by zero is infinite, unless it is zero by zero. -/
def div : Binary64 → Binary64 → Binary64
  | undefined, _ => undefined
  | _, undefined => undefined
  | infinite _, infinite _ => undefined
  | infinite s, finite t _ _ => infinite (s != t)
  | finite s _ _, infinite t => finite (s != t) 0 leastExponent
  | finite s m e, finite t n f =>
    if n = 0 then if m = 0 then undefined else infinite (s != t)
    else
      let (a, b) := fraction m e
      let (c, d) := fraction n f
      ofRatio (s != t) (a * d) (b * c)

def mul : Binary64 → Binary64 → Binary64
  | undefined, _ => undefined
  | _, undefined => undefined
  | infinite s, infinite t => infinite (s != t)
  | infinite s, finite t n _ => if n = 0 then undefined else infinite (s != t)
  | finite s m _, infinite t => if m = 0 then undefined else infinite (s != t)
  | finite s m e, finite t n f =>
    let (a, b) := fraction m e
    let (c, d) := fraction n f
    ofRatio (s != t) (a * c) (b * d)

example : ofRatio false 1 10 = .finite false 0x1999999999999a (-56) := by decide +kernel
example : leastNormal = Nat.pow 2 52 ∧ ofNat (2 * leastNormal + 1) = ofNat (2 * leastNormal) := by
  decide +kernel
example : (ofInt (-1)).div (ofNat 0) = .infinite true := by decide +kernel

end Binary64

end VesselTraffic
