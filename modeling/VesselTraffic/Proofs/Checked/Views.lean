import VesselTraffic.Proofs.Checked.Operations
import VesselTraffic.Proofs.Locality

/-!
# Checked reads and writes of bits

A bit is read and written in a byte that has to be there, a number is read from at most 64
bits, and the number read has to lie in the range of the type that it is put into. A view
has enough bytes for its bits, so every read of it succeeds, and a field whose width is that
of a type fits into it.
-/
namespace VesselTraffic

namespace BitView

/-! ### Numbers in two's complement -/

theorem unsigned_top (v : BitView) (first k : Nat) :
    v.unsigned first (first + 1 + k)
      = (v.bit first).toNat * 2 ^ k + v.unsigned (first + 1) (first + 1 + k) := by
  have hbit : v.unsigned first (first + 1) = (v.bit first).toNat := by
    rw [unsigned_succ v (Nat.le_refl first), unsigned_self, Nat.mul_zero, Nat.zero_add]
  rw [unsigned_add v (Nat.le_succ first), hbit]

/-- In two's complement `k + 1` bits reach from `-2 ^ k` to just below `2 ^ k`. -/
theorem signed_bounds (v : BitView) (first k : Nat) :
    -(2 ^ k : Nat) ≤ v.signed first (first + 1 + k) ∧
      v.signed first (first + 1 + k) < (2 ^ k : Nat) := by
  have htop := v.unsigned_top first k
  have hlow : v.unsigned (first + 1) (first + 1 + k) < 2 ^ k := v.unsigned_lt_of_le (Nat.le_refl _)
  have hpow : Nat.pow 2 (first + 1 + k - first) = 2 * 2 ^ k := by
    rw [Nat.add_assoc, Nat.add_sub_cancel_left, Nat.add_comm 1 k]
    exact Nat.pow_succ'
  have hlt : decide (first < first + 1 + k) = true := decide_eq_true (by omega)
  rw [signed, hlt, hpow, Bool.true_and, htop]
  cases v.bit first with
  | false => rw [if_neg Bool.false_ne_true, Bool.toNat_false]; omega
  | true => rw [if_pos rfl, Bool.toNat_true]; omega

theorem signed_of_le (v : BitView) {first last : Nat} (h : last ≤ first) :
    v.signed first last = 0 := by
  rw [signed, decide_eq_false (Nat.not_lt.mpr h), Bool.false_and, if_neg Bool.false_ne_true,
    unsigned, Nat.sub_eq_zero_of_le h]
  rfl

theorem signed_bounds_of_le (v : BitView) {first last k : Nat} (h : last ≤ first + 1 + k) :
    -(2 ^ k : Nat) ≤ v.signed first last ∧ v.signed first last < (2 ^ k : Nat) := by
  have hpos := Nat.two_pow_pos k
  by_cases hrange : last ≤ first
  · rw [v.signed_of_le hrange]
    omega
  · obtain ⟨j, hj⟩ : ∃ j, last = first + 1 + j := ⟨last - (first + 1), by omega⟩
    have hbounds := v.signed_bounds first j
    have hpow : 2 ^ j ≤ 2 ^ k := Nat.pow_le_pow_right (by decide) (by omega)
    rw [hj]
    omega

/-! ### Bytes while they are filled -/

theorem octet_congr {f g : Nat → Bool} (h : ∀ i, i < 8 → f i = g i) : octet f = octet g := by
  simp [octet, List.range, List.range.loop, h]

theorem octet_set (f : Nat → Bool) {i : Nat} (h : i < 8) :
    octet f ||| 1 <<< UInt8.ofNat (7 - i) = octet fun j => f j || j == i := by
  have key : ∀ b0 b1 b2 b3 b4 b5 b6 b7 : Bool, ∀ i : Fin 8,
      octet (fun i => [b0, b1, b2, b3, b4, b5, b6, b7].getD i false) ||| 1 <<< UInt8.ofNat (7 - i) =
        octet fun j => [b0, b1, b2, b3, b4, b5, b6, b7].getD j false || j == i := by decide +kernel
  exact key (f 0) (f 1) (f 2) (f 3) (f 4) (f 5) (f 6) (f 7) ⟨i, h⟩

/-- The bytes for `len` bits of which the first `k` have been written. -/
def written (len : Nat) (f : Nat → Bool) (k : Nat) : Array UInt8 :=
  Array.ofFn (n := (len + 7) / 8) fun j => octet fun i => 8 * j.val + i < k && f (8 * j + i)

@[simp] theorem size_written (len : Nat) (f : Nat → Bool) (k : Nat) :
    (written len f k).size = (len + 7) / 8 := Array.size_ofFn

theorem getElem_written {len k j : Nat} {f : Nat → Bool} (h : j < (written len f k).size) :
    (written len f k)[j] = octet fun i => 8 * j + i < k && f (8 * j + i) :=
  Array.getElem_ofFn h

theorem written_zero (len : Nat) (f : Nat → Bool) :
    written len f 0 = Array.replicate ((len + 7) / 8) 0 := by
  refine Array.ext (by simp) fun j hj _ => ?_
  rw [getElem_written hj, Array.getElem_replicate]
  simp [octet, List.range, List.range.loop]

theorem written_succ_of_clear {k : Nat} {f : Nat → Bool} (len : Nat) (hf : f k = false) :
    written len f (k + 1) = written len f k := by
  refine Array.ext (by simp) fun j hj hj' => ?_
  rw [getElem_written hj, getElem_written hj']
  refine octet_congr fun i _ => ?_
  by_cases hi : 8 * j + i = k
  · simp [hi, hf]
  · have hiff : 8 * j + i < k + 1 ↔ 8 * j + i < k := by omega
    simp [hiff]

theorem written_succ_of_set {len k : Nat} {f : Nat → Bool} (hf : f k = true)
    (hk : k / 8 < (written len f k).size) :
    written len f (k + 1) = (written len f k).setIfInBounds (k / 8)
      ((written len f k)[k / 8] ||| 1 <<< UInt8.ofNat (7 - k % 8)) := by
  refine Array.ext (by simp) fun j hj hj' => ?_
  have hj : j < (written len f k).size := by simpa using hj'
  rw [getElem_written, Array.getElem_setIfInBounds hj]
  split
  case isTrue hbyte =>
    subst hbyte
    rw [getElem_written, octet_set _ (Nat.mod_lt k (by decide))]
    refine octet_congr fun i _ => ?_
    by_cases hi : i = k % 8
    · have hpos : 8 * (k / 8) + k % 8 = k := Nat.div_add_mod k 8
      simp [hi, hpos, hf]
    · have hiff : 8 * (k / 8) + i < k + 1 ↔ 8 * (k / 8) + i < k := by omega
      simp [hiff, hi]
  case isFalse hbyte =>
    rw [getElem_written]
    refine octet_congr fun i hi => ?_
    have hiff : 8 * j + i < k + 1 ↔ 8 * j + i < k := by omega
    simp [hiff]

theorem ofBytes_written (len : Nat) (f : Nat → Bool) :
    ofBytes (written len f len).toList len = tabulate len f := by
  have hsize : (written len f len).toList.length = (len + 7) / 8 := by simp
  simp only [ofBytes, tabulate, mk.injEq]
  exact ⟨rfl, by rw [hsize]; omega⟩

end BitView

theorem SixBit.char_eq_at_iff {n : Nat} (h : n < 64) : SixBit.char n = '@' ↔ n = 0 := by
  have key : ∀ n : Fin 64, SixBit.char n.val = '@' ↔ n.val = 0 := by decide +kernel
  exact key ⟨n, h⟩

namespace Checked

/-! ### Reading -/

/-- The bit at a position, zero past the end. -/
def bit (v : BitView) (i : Nat) : Checked Bool :=
  if i < v.len then do return BitView.octetBit (← entry v.bytes.toList (i / 8)) (i % 8)
  else return false

@[simp] theorem bit_eq_ok (v : BitView) (i : Nat) : bit v i = .ok (v.bit i) := by
  by_cases h : i < v.len
  · have hbyte : i / 8 < v.bytes.size := by
      have := v.len_le
      omega
    have hentry : entry v.bytes.toList (i / 8) = .ok v.bytes[i / 8] :=
      entry_eq_ok_iff.mpr (by simp [hbyte])
    rw [bit, if_pos h, hentry, BitView.bit, dif_pos h]
    rfl
  · rw [bit, if_neg h, BitView.bit, dif_neg h]
    rfl

/-- Appends a bit of a view to a number. -/
def append (v : BitView) (n i : Nat) : Checked Nat := do word (2 * n + (← bit v i).toNat)

/-- The number in at most 64 bits. -/
def unsigned (v : BitView) (first last : Nat) : Checked Nat :=
  if 64 < last - first then .error .tooWide
  else (List.range' first (last - first)).foldlM (append v) 0

/-- After every bit the number is that of the bits so far, which 64 bits hold. -/
theorem foldlM_append (v : BitView) (first k : Nat) (hk : k ≤ 64) :
    (List.range' first k).foldlM (append v) 0 = .ok (v.unsigned first (first + k)) := by
  induction k with
  | zero => rw [Nat.add_zero, BitView.unsigned_self]; rfl
  | succ k ih =>
    have hlt : v.unsigned first (first + (k + 1)) < 2 ^ 64 := v.unsigned_lt_of_le (by omega)
    have hsucc := v.unsigned_succ (Nat.le_add_right first k)
    rw [← Nat.add_assoc] at hlt ⊢
    rw [List.range'_1_concat, List.foldlM_append, ih (by omega), ok_bind, List.foldlM_cons, append,
      bit_eq_ok, ok_bind, ← hsucc, word, narrow_of_lt _ hlt]
    rfl

theorem unsigned_eq_ok (v : BitView) {first last : Nat} (h : last ≤ first + 64) :
    unsigned v first last = .ok (v.unsigned first last) := by
  have hread := foldlM_append v first (last - first) (by omega)
  rw [unsigned, if_neg (by omega), hread]
  by_cases hrange : first ≤ last
  · rw [Nat.add_sub_cancel' hrange]
  · rw [BitView.unsigned, BitView.unsigned, Nat.add_sub_cancel_left]

/-- The number in at most 64 bits in two's complement. -/
def signed (v : BitView) (first last : Nat) : Checked Int :=
  if last ≤ first then return 0
  else do
    let top ← bit v first
    let n ← unsigned v first last
    signedWord (if top then (n : Int) - (2 ^ (last - first) : Nat) else n)

theorem signed_eq_ok (v : BitView) {first last : Nat} (h : last ≤ first + 64) :
    signed v first last = .ok (v.signed first last) := by
  by_cases hrange : last ≤ first
  · rw [signed, if_pos hrange, v.signed_of_le hrange]
    rfl
  · have hsigned : (if v.bit first = true
        then (v.unsigned first last : Int) - (2 ^ (last - first) : Nat)
        else v.unsigned first last) = v.signed first last := by
      rw [BitView.signed, decide_eq_true (by omega : first < last), Bool.true_and]
      rfl
    rw [signed, if_neg hrange, bit_eq_ok, ok_bind, unsigned_eq_ok v h, ok_bind, hsigned]
    exact narrowSigned_of_mem id (v.signed_bounds_of_le (k := 63) (by omega))

/-! ### Numbers of a width -/

/-- The number in the bits from `first` up to `last` of a block that begins at `start`, as
one of eight bits. -/
def uint8 (v : BitView) (first last : Nat) (start : Nat := 0) : Checked UInt8 := do
  byte (← unsigned v (start + first) (start + last))

def uint16 (v : BitView) (first last : Nat) (start : Nat := 0) : Checked UInt16 := do
  half (← unsigned v (start + first) (start + last))

def uint32 (v : BitView) (first last : Nat) (start : Nat := 0) : Checked UInt32 := do
  full (← unsigned v (start + first) (start + last))

def int8 (v : BitView) (first last : Nat) (start : Nat := 0) : Checked Int8 := do
  signedByte (← signed v (start + first) (start + last))

/-- A number in parts of a unit, which is divided as a floating-point number. -/
def unsignedParts (v : BitView) (first last perUnit : Nat) (start : Nat := 0) :
    Checked Quantity := do
  return ⟨← exact (← unsigned v (start + first) (start + last)), perUnit⟩

def signedParts (v : BitView) (first last perUnit : Nat) (start : Nat := 0) :
    Checked Quantity := do
  return ⟨← exact (← signed v (start + first) (start + last)), perUnit⟩

section

variable (v : BitView) {first last : Nat}

theorem narrow_unsigned {α : Type} (put : Nat → α) {width : Nat} (hwidth : width ≤ 64)
    (h : last ≤ first + width) :
    (do narrow (2 ^ width) put (← unsigned v first last)) = .ok (put (v.unsigned first last)) := by
  have hlt : v.unsigned first last < 2 ^ width := v.unsigned_lt_of_le h
  rw [unsigned_eq_ok v (by omega), ok_bind, narrow_of_lt put hlt]

theorem narrowSigned_signed {α : Type} (put : Int → α) {k : Nat} (hwidth : k < 64)
    (h : last ≤ first + 1 + k) :
    (do narrowSigned ((2 ^ k : Nat) : Int) put (← signed v first last))
      = .ok (put (v.signed first last)) := by
  rw [signed_eq_ok v (by omega), ok_bind, narrowSigned_of_mem put (v.signed_bounds_of_le h)]

variable {perUnit start : Nat}

@[simp] theorem uint8_eq_ok (h : Nat.ble last (first + 8) = true) :
    uint8 v first last start = .ok (v.uint8 first last start h) := by
  have hle := Nat.le_of_ble_eq_true h
  exact narrow_unsigned v UInt8.ofNat (by decide) (by omega)

@[simp] theorem uint16_eq_ok (h : Nat.ble last (first + 16) = true) :
    uint16 v first last start = .ok (v.uint16 first last start h) := by
  have hle := Nat.le_of_ble_eq_true h
  exact narrow_unsigned v UInt16.ofNat (by decide) (by omega)

@[simp] theorem uint32_eq_ok (h : Nat.ble last (first + 32) = true) :
    uint32 v first last start = .ok (v.uint32 first last start h) := by
  have hle := Nat.le_of_ble_eq_true h
  exact narrow_unsigned v UInt32.ofNat (by decide) (by omega)

@[simp] theorem int8_eq_ok (h : Nat.ble last (first + 8) = true) :
    int8 v first last start = .ok (v.int8 first last start h) := by
  have hle := Nat.le_of_ble_eq_true h
  exact narrowSigned_signed v Int8.ofInt (k := 7) (by decide) (by omega)

@[simp] theorem unsignedParts_eq_ok (h : Nat.ble last (first + 32) = true) :
    unsignedParts v first last perUnit start
      = .ok (v.unsignedParts first last perUnit start h) := by
  have hle := Nat.le_of_ble_eq_true h
  have hlt : v.unsigned (start + first) (start + last) < 2 ^ 32 := v.unsigned_lt_of_le (by omega)
  rw [unsignedParts, unsigned_eq_ok v (by omega), ok_bind, exact, narrowSigned_of_mem id (by omega)]
  rfl

@[simp] theorem signedParts_eq_ok (h : Nat.ble last (first + 32) = true) :
    signedParts v first last perUnit start
      = .ok (v.signedParts first last perUnit start h) := by
  have hle := Nat.le_of_ble_eq_true h
  have hbounds := v.signed_bounds_of_le (by omega : start + last ≤ start + first + 1 + 31)
  rw [signedParts, signed_eq_ok v (by omega), ok_bind, exact, narrowSigned_of_mem id (by omega)]
  rfl

end

example : unsigned (BitView.tabulate 65 fun _ => false) 0 65 = .error .tooWide := rfl
example : uint8 (BitView.tabulate 9 fun _ => true) 0 9 = .error .outOfRange := by decide +kernel

/-! ### Writing -/

/-- Sets one bit of some bytes. -/
def setBit (bytes : Array UInt8) (i : Nat) : Checked (Array UInt8) := do
  let b ← entry bytes.toList (i / 8)
  return bytes.setIfInBounds (i / 8) (b ||| 1 <<< UInt8.ofNat (7 - i % 8))

/-- Writes a bit if it is set. -/
def writeBit (read : Nat → Checked Bool) (bytes : Array UInt8) (i : Nat) :
    Checked (Array UInt8) := do
  if ← read i then setBit bytes i else return bytes

/-- The view of `len` bits that are read one after the other and written into zeros. -/
def pack (len : Nat) (read : Nat → Checked Bool) : Checked BitView := do
  let bytes ← (List.range len).foldlM (writeBit read) (Array.replicate ((len + 7) / 8) 0)
  return BitView.ofBytes bytes.toList len

section

variable {len : Nat} {read : Nat → Checked Bool} {f : Nat → Bool}

theorem writeBit_written {k : Nat} (hk : k < len) (hread : read k = .ok (f k)) :
    writeBit read (BitView.written len f k) k = .ok (BitView.written len f (k + 1)) := by
  rw [writeBit, hread, ok_bind]
  cases hf : f k with
  | false =>
    rw [if_neg Bool.false_ne_true, BitView.written_succ_of_clear len hf]
    rfl
  | true =>
    have hbyte : k / 8 < (BitView.written len f k).size := by
      rw [BitView.size_written]
      omega
    have hentry : entry (BitView.written len f k).toList (k / 8)
        = .ok (BitView.written len f k)[k / 8] := entry_eq_ok_iff.mpr (by simp)
    rw [if_pos rfl, setBit, hentry, ok_bind, BitView.written_succ_of_set hf hbyte]
    rfl

theorem pack_eq_ok (h : ∀ i, i < len → read i = .ok (f i)) :
    pack len read = .ok (BitView.tabulate len f) := by
  have key : ∀ k, k ≤ len → (List.range k).foldlM (writeBit read) (BitView.written len f 0)
      = .ok (BitView.written len f k) := by
    intro k hk
    induction k with
    | zero => rfl
    | succ k ih =>
      rw [List.range_succ, List.foldlM_append, ih (by omega), ok_bind, List.foldlM_cons,
        writeBit_written (by omega) (h k (by omega)), ok_bind]
      rfl
  rw [pack, ← BitView.written_zero len f, key len (Nat.le_refl len), ok_bind,
    BitView.ofBytes_written]
  rfl

end

/-- The bits from `first` up to `last`, with zeros for those past the end. -/
def slice (v : BitView) (first last : Nat) : Checked BitView :=
  pack (last - first) fun i => bit v (first + i)

/-- Everything from a position on. -/
def tail (v : BitView) (first : Nat) : Checked BitView := slice v first (max v.len first)

@[simp] theorem slice_eq_ok (v : BitView) (first last : Nat) :
    slice v first last = .ok (v.slice first last) :=
  pack_eq_ok fun i _ => bit_eq_ok v (first + i)

@[simp] theorem tail_eq_ok (v : BitView) (first : Nat) : tail v first = .ok (v.tail first) :=
  slice_eq_ok v first (max v.len first)

/-- A bit of one of some symbols of six bits. -/
def symbolBit (symbols : List UInt8) (i : Nat) : Checked Bool := do
  return (← entry symbols (i / 6)).toNat.testBit (5 - i % 6)

/-- Symbols of six bits one after the other, less `trailing` bits at the end. -/
def ofSymbols (symbols : List UInt8) (trailing : Nat) : Checked BitView := do
  let whole ← pack (6 * symbols.length) (symbolBit symbols)
  return whole.truncate (6 * symbols.length - trailing)

theorem ofSymbols_eq_ok (symbols : List UInt8) (trailing : Nat) :
    ofSymbols symbols trailing = .ok (BitView.ofSymbols symbols.toArray trailing) := by
  have hbit : ∀ i, i < 6 * symbols.length →
      symbolBit symbols i = .ok ((symbols.toArray.getD (i / 6) 0).toNat.testBit (5 - i % 6)) := by
    intro i hi
    have hindex : i / 6 < symbols.length := by omega
    have hentry : entry symbols (i / 6) = .ok symbols[i / 6] :=
      entry_eq_ok_iff.mpr (List.getElem?_eq_getElem hindex)
    rw [symbolBit, hentry, ok_bind]
    simp [hindex]
  rw [ofSymbols, pack_eq_ok hbit]
  rfl

/-! ### Texts -/

/-- The characters of the symbols from 0 to 63. -/
def alphabet : List Char :=
  "@ABCDEFGHIJKLMNOPQRSTUVWXYZ[\\]^_ !\"#$%&'()*+,-./0123456789:;<=>?".toList

/-- The character of the symbol at a position; a padding symbol reads as a space. -/
def symbol (v : BitView) (first : Nat) : Checked Char := do
  let c ← entry alphabet (← unsigned v first (first + 6))
  return if c = '@' then ' ' else c

/-- The text of the whole symbols between two positions. -/
def text (v : BitView) (first last : Nat) : Checked String := do
  let symbols ← (List.range ((last - first) / 6)).mapM fun i => symbol v (first + 6 * i)
  return String.ofList (Text.trim symbols)

/-- The text of the whole symbols from a position to the end of the view. -/
def textToEnd (v : BitView) (first : Nat) : Checked String :=
  text v first (first + 6 * ((v.len - first) / 6))

theorem entry_alphabet {n : Nat} (h : n < 64) : entry alphabet n = .ok (SixBit.char n) := by
  have key : ∀ n : Fin 64, entry alphabet n = .ok (SixBit.char n.val) := by decide +kernel
  exact key ⟨n, h⟩

theorem symbol_eq_ok (v : BitView) (first : Nat) :
    symbol v first = .ok (SixBit.read (v.unsigned first (first + 6))) := by
  have hlt : v.unsigned first (first + 6) < 64 := v.unsigned_lt_of_le (Nat.le_refl _)
  rw [symbol, unsigned_eq_ok v (by omega), ok_bind, entry_alphabet hlt, ok_bind, SixBit.read]
  simp only [SixBit.char_eq_at_iff hlt]
  rfl

@[simp] theorem text_eq_ok (v : BitView) (first last : Nat) :
    text v first last = .ok (v.text first last) := by
  have hsymbol : ∀ i ∈ List.range ((last - first) / 6), symbol v (first + 6 * i)
      = .ok (SixBit.read (v.unsigned (first + 6 * i) (first + 6 * i + 6))) :=
    fun i _ => symbol_eq_ok v (first + 6 * i)
  rw [text, mapM_eq_ok hsymbol, ok_bind, BitView.text, BitView.symbols, List.map_map]
  rfl

@[simp] theorem textToEnd_eq_ok (v : BitView) (first : Nat) :
    textToEnd v first = .ok (v.textToEnd first) := by
  have hcount :
      (first + 6 * ((v.len - first) / 6) - first) / 6 = (max v.len first - first) / 6 := by omega
  rw [textToEnd, text_eq_ok, BitView.textToEnd, BitView.text, BitView.text, BitView.symbols,
    BitView.symbols, hcount]

end Checked

end VesselTraffic
