import Mathlib.Algebra.Order.Ring.Int
import Mathlib.Tactic.Common

/-!
# Checked operations

An index has to be one of its list, a difference must not be negative, and a number has to
lie in the range of the type that it is put into. A checked operation fails with a fault
where it does not; otherwise its value is exact.
-/
namespace VesselTraffic

/-- What would stop the work, or change a number without a word. -/
inductive Fault
  | insideCharacter
  | outsideText
  | noEntry
  | outOfRange
  | tooWide
  deriving DecidableEq, Repr

abbrev Checked := Except Fault

namespace Checked

@[simp] theorem ok_bind {α β : Type} (a : α) (f : α → Checked β) :
    (Except.ok a : Checked α) >>= f = f a := rfl

@[simp] theorem pure_eq_ok {α : Type} (a : α) : (pure a : Checked α) = .ok a := rfl

/-! ### Every element of a list -/

theorem mapM_eq_ok {α β : Type} {f : α → Checked β} {g : α → β} {as : List α}
    (h : ∀ a ∈ as, f a = .ok (g a)) : as.mapM f = .ok (as.map g) := by
  induction as with
  | nil => rfl
  | cons a as ih =>
    have hrest := ih fun b hb => h b (List.mem_cons_of_mem a hb)
    rw [List.mapM_cons, h a List.mem_cons_self, ok_bind, hrest, ok_bind]
    rfl

/-! ### Indices -/

/-- The entry at an index. -/
def entry {α : Type} (as : List α) (i : Nat) : Checked α :=
  match as[i]? with
  | some a => .ok a
  | none => .error .noEntry

theorem entry_eq_ok_iff {α : Type} {as : List α} {i : Nat} {a : α} :
    entry as i = .ok a ↔ as[i]? = some a := by
  cases h : as[i]? <;> simp [entry, h]

@[simp] theorem entry_cons_zero {α : Type} (a : α) (as : List α) : entry (a :: as) 0 = .ok a := rfl

/-! ### Differences and the ranges of types -/

/-- A difference of natural numbers. -/
def difference (n m : Nat) : Checked Nat := if m ≤ n then .ok (n - m) else .error .outOfRange

theorem difference_of_le {n m : Nat} (h : m ≤ n) : difference n m = .ok (n - m) := if_pos h

/-- A number put into a type that holds those below a bound. -/
def narrow {α : Type} (bound : Nat) (put : Nat → α) (n : Nat) : Checked α :=
  if n < bound then .ok (put n) else .error .outOfRange

/-- A number put into a type that holds those from `-bound` to just below `bound`. -/
def narrowSigned {α : Type} (bound : Int) (put : Int → α) (n : Int) : Checked α :=
  if -bound ≤ n ∧ n < bound then .ok (put n) else .error .outOfRange

theorem narrow_of_lt {α : Type} {bound n : Nat} (put : Nat → α) (h : n < bound) :
    narrow bound put n = .ok (put n) := if_pos h

theorem narrowSigned_of_mem {α : Type} {bound n : Int} (put : Int → α)
    (h : -bound ≤ n ∧ n < bound) : narrowSigned bound put n = .ok (put n) := if_pos h

def byte : Nat → Checked UInt8 := narrow (2 ^ 8) UInt8.ofNat

def half : Nat → Checked UInt16 := narrow (2 ^ 16) UInt16.ofNat

def full : Nat → Checked UInt32 := narrow (2 ^ 32) UInt32.ofNat

def word : Nat → Checked Nat := narrow (2 ^ 64) id

def signedByte : Int → Checked Int8 := narrowSigned (2 ^ 7) Int8.ofInt

def signedWord : Int → Checked Int := narrowSigned (2 ^ 63) id

/-- A number as a floating-point number of 53 significant bits, which holds it exactly. -/
def exact : Int → Checked Int := narrowSigned (2 ^ 53) id

/-- A byte has the value of the number that it was made from. -/
theorem byte_eq_ok_iff {n : Nat} {b : UInt8} : byte n = .ok b ↔ b.toNat = n := by
  constructor
  · intro h
    rw [byte, narrow] at h
    split at h
    case isTrue hlt =>
      cases h
      exact Nat.mod_eq_of_lt hlt
    case isFalse => cases h
  · rintro rfl
    rw [byte, narrow_of_lt _ b.toNat_lt, UInt8.ofNat_toNat]

/-! ### Sums and differences of bytes -/

def byteSum (a b : UInt8) : Checked UInt8 := byte (a.toNat + b.toNat)

def byteDifference (a b : UInt8) : Checked UInt8 := do byte (← difference a.toNat b.toNat)

def halfSum (a b : UInt16) : Checked UInt16 := half (a.toNat + b.toNat)

theorem byteSum_of_lt {a b : UInt8} (h : a.toNat + b.toNat < 2 ^ 8) :
    byteSum a b = .ok (a + b) := by
  rw [byteSum, byte_eq_ok_iff, UInt8.toNat_add, Nat.mod_eq_of_lt h]

theorem byteDifference_of_le {a b : UInt8} (h : b ≤ a) : byteDifference a b = .ok (a - b) := by
  rw [byteDifference, difference_of_le (UInt8.le_iff_toNat_le.mp h), ok_bind, byte_eq_ok_iff,
    UInt8.toNat_sub_of_le a b h]

theorem halfSum_of_lt {a b : UInt16} (h : a.toNat + b.toNat < 2 ^ 16) :
    halfSum a b = .ok (a + b) := by
  rw [halfSum, half, narrow_of_lt _ h, UInt16.ofNat_add, UInt16.ofNat_toNat, UInt16.ofNat_toNat]

example : byte 256 = .error .outOfRange := by decide
example : byteSum 255 1 = .error .outOfRange := by decide

end Checked

end VesselTraffic
