/-!
# Bit sequences

A bit view is a sequence of bits packed into bytes, the most significant bit of a
byte first. Reads past the end yield zeros, since some layouts declare fields
that a transmitter may leave out.
-/
namespace VesselTraffic

/-- The last byte may hold bits behind the end of the view. -/
structure BitView where
  bytes : Array UInt8
  len : Nat
  len_le : len ≤ 8 * bytes.size
  deriving DecidableEq

namespace BitView

/-- The byte with the bits `f 0, …, f 7`. -/
def octet (f : Nat → Bool) : UInt8 :=
  UInt8.ofNat ((List.range 8).foldl (fun n i => 2 * n + (f i).toNat) 0)

/-- Bit `i` of a byte, the most significant one first. -/
def octetBit (b : UInt8) (i : Nat) : Bool := b.toNat.testBit (7 - i)

theorem octetBit_octet (f : Nat → Bool) (i : Nat) (h : i < 8) : octetBit (octet f) i = f i := by
  have key : ∀ b0 b1 b2 b3 b4 b5 b6 b7 : Bool, ∀ j : Fin 8,
      octetBit (octet fun i => [b0, b1, b2, b3, b4, b5, b6, b7].getD i false) j =
        [b0, b1, b2, b3, b4, b5, b6, b7].getD j false := by decide +kernel
  have h' := key (f 0) (f 1) (f 2) (f 3) (f 4) (f 5) (f 6) (f 7) ⟨i, h⟩
  have hf : octet (fun i => [f 0, f 1, f 2, f 3, f 4, f 5, f 6, f 7].getD i false) = octet f := rfl
  rw [hf] at h'
  rw [h']
  match i, h with
  | 0, _ | 1, _ | 2, _ | 3, _ | 4, _ | 5, _ | 6, _ | 7, _ => rfl

/-- The view of the first `len` bits of some bytes, or of all of them. -/
def ofBytes (bytes : List UInt8) (len : Nat) : BitView :=
  ⟨bytes.toArray, min len (8 * bytes.length), by rw [List.size_toArray]; exact Nat.min_le_right _ _⟩

/-- The view of the bits `f 0, …, f (len - 1)`, zeros behind them in the last byte. -/
def tabulate (len : Nat) (f : Nat → Bool) : BitView where
  bytes := Array.ofFn (n := (len + 7) / 8) fun k => octet fun i => 8 * k + i < len && f (8 * k + i)
  len := len
  len_le := by rw [Array.size_ofFn]; omega

/-- Cuts a view to at most `len` bits, leaving the bytes as they are. -/
def truncate (v : BitView) (len : Nat) : BitView :=
  ⟨v.bytes, min len v.len, by have := v.len_le; omega⟩

/-- Symbols of six bits one after the other, less `trailing` bits at the end. -/
def ofSymbols (symbols : Array UInt8) (trailing : Nat) : BitView :=
  let whole := tabulate (6 * symbols.size) fun i => (symbols.getD (i / 6) 0).toNat.testBit (5 - i % 6)
  whole.truncate (6 * symbols.size - trailing)

/-- Reads a text of the characters `0` and `1`. -/
def ofText? (text : List Char) : Option BitView :=
  if text.all fun c => c = '0' || c = '1' then
    let digits := text.toArray
    some (tabulate digits.size fun i => digits.getD i '0' == '1')
  else none

/-- The bit at a position, zero past the end. -/
def bit (v : BitView) (i : Nat) : Bool :=
  if h : i < v.len then
    have : i / 8 < v.bytes.size := by have := v.len_le; omega
    octetBit v.bytes[i / 8] (i % 8)
  else false

@[simp] theorem len_tabulate (len : Nat) (f : Nat → Bool) : (tabulate len f).len = len := rfl

@[simp] theorem bit_tabulate (len : Nat) (f : Nat → Bool) (i : Nat) :
    (tabulate len f).bit i = (decide (i < len) && f i) := by
  unfold bit tabulate
  by_cases h : i < len
  · have hi : 8 * (i / 8) + i % 8 = i := Nat.div_add_mod i 8
    simp [h, octetBit_octet _ _ (Nat.mod_lt i (by decide : 0 < 8)), hi]
  · simp [h]

theorem bit_of_len_le {v : BitView} {i : Nat} (h : v.len ≤ i) : v.bit i = false := by
  simp [bit, Nat.not_lt.mpr h]

/-- The bits from `first` up to `last`, with zeros for those past the end. -/
def slice (v : BitView) (first last : Nat) : BitView :=
  tabulate (last - first) fun i => v.bit (first + i)

/-- Everything from a position on. -/
def tail (v : BitView) (first : Nat) : BitView := v.slice first (max v.len first)

def toList (v : BitView) : List Bool := (List.range v.len).map v.bit

/-- The bits as a text of zeros and ones. -/
def digits (v : BitView) : String := String.ofList (v.toList.map fun b => if b then '1' else '0')

/-- The number written in the bits from `first` up to `last`. -/
def unsigned (v : BitView) (first last : Nat) : Nat :=
  (List.range' first (last - first)).foldl (fun n i => 2 * n + (v.bit i).toNat) 0

/-- The same number read as two's complement: its first bit counts negatively. -/
def signed (v : BitView) (first last : Nat) : Int :=
  let n := v.unsigned first last
  if first < last && v.bit first then (n : Int) - (Nat.pow 2 (last - first) : Nat) else n

/-- The number in the bits from `first` up to `last` of a block that begins at
`start`. Fields of more bits than a byte has are refused when the layout is written
down; so it is with the other widths below. -/
def uint8 (v : BitView) (first last : Nat) (start : Nat := 0)
    (_ : Nat.ble last (first + 8) = true := by exact @rfl Bool true) : UInt8 :=
  UInt8.ofNat (v.unsigned (start + first) (start + last))

def uint16 (v : BitView) (first last : Nat) (start : Nat := 0)
    (_ : Nat.ble last (first + 16) = true := by exact @rfl Bool true) : UInt16 :=
  UInt16.ofNat (v.unsigned (start + first) (start + last))

def uint32 (v : BitView) (first last : Nat) (start : Nat := 0)
    (_ : Nat.ble last (first + 32) = true := by exact @rfl Bool true) : UInt32 :=
  UInt32.ofNat (v.unsigned (start + first) (start + last))

/-- The same in two's complement. -/
def int8 (v : BitView) (first last : Nat) (start : Nat := 0)
    (_ : Nat.ble last (first + 8) = true := by exact @rfl Bool true) : Int8 :=
  Int8.ofInt (v.signed (start + first) (start + last))

theorem unsigned_lt (v : BitView) (first last : Nat) :
    v.unsigned first last < Nat.pow 2 (last - first) := by
  have key : ∀ (is : List Nat) (n k : Nat), n < Nat.pow 2 k →
      is.foldl (fun n i => 2 * n + (v.bit i).toNat) n < Nat.pow 2 (k + is.length) := by
    intro is
    induction is with
    | nil => intro n k h; exact h
    | cons i is ih =>
      intro n k h
      have hb := Bool.toNat_le (v.bit i)
      have hp : Nat.pow 2 (k + 1) = Nat.pow 2 k * 2 := rfl
      have := ih (2 * n + (v.bit i).toNat) (k + 1) (by omega)
      rw [List.length_cons, ← Nat.add_assoc, Nat.add_right_comm]
      exact this
  have h := key (List.range' first (last - first)) 0 0 (by decide)
  rw [List.length_range', Nat.zero_add] at h
  exact h

/-- A number of `width` bits is less than any bound that `width` bits cannot reach. -/
theorem unsigned_lt_of_le (v : BitView) {first last width : Nat} (h : last ≤ first + width) :
    v.unsigned first last < Nat.pow 2 width :=
  Nat.lt_of_lt_of_le (v.unsigned_lt first last)
    (Nat.pow_le_pow_right (by decide) (by omega))

theorem toNat_uint8 (v : BitView) (first last start : Nat) (h : Nat.ble last (first + 8) = true) :
    (v.uint8 first last start h).toNat = v.unsigned (start + first) (start + last) := by
  have hle := Nat.le_of_ble_eq_true h
  exact Nat.mod_eq_of_lt (v.unsigned_lt_of_le (by omega))

theorem toNat_uint16 (v : BitView) (first last start : Nat) (h : Nat.ble last (first + 16) = true) :
    (v.uint16 first last start h).toNat = v.unsigned (start + first) (start + last) := by
  have hle := Nat.le_of_ble_eq_true h
  exact Nat.mod_eq_of_lt (v.unsigned_lt_of_le (by omega))

theorem toNat_uint32 (v : BitView) (first last start : Nat) (h : Nat.ble last (first + 32) = true) :
    (v.uint32 first last start h).toNat = v.unsigned (start + first) (start + last) := by
  have hle := Nat.le_of_ble_eq_true h
  exact Nat.mod_eq_of_lt (v.unsigned_lt_of_le (by omega))

end BitView

end VesselTraffic
