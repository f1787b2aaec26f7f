import Mathlib.Algebra.Order.Ring.Int
import Mathlib.Data.List.Basic
import VesselTraffic.Message

/-!
# What a read depends on

A number, a text or a block of fields is read from a range of positions. Two views of one
length that have the same bits there give the same value, whatever stands elsewhere. So
a bit that is turned over changes only what is read from a range around it. Numbers and texts
are also the same where the same bits stand at different places.
-/
namespace VesselTraffic

namespace BitView

/-- Two views of one length with the same bits from `first` up to `last`. -/
structure AgreesOn (v w : BitView) (first last : Nat) : Prop where
  len : v.len = w.len
  bit : ∀ i, first ≤ i → i < last → v.bit i = w.bit i

/-- The view with one bit turned over. -/
def flip (v : BitView) (p : Nat) : BitView := tabulate v.len fun i => v.bit i != decide (i = p)

@[simp] theorem len_flip (v : BitView) (p : Nat) : (v.flip p).len = v.len := rfl

theorem bit_flip (v : BitView) {p i : Nat} (hi : i < v.len) :
    (v.flip p).bit i = (v.bit i != decide (i = p)) := by
  rw [flip, bit_tabulate, decide_eq_true hi, Bool.true_and]

theorem agreesOn_flip (v : BitView) {p first last : Nat} (hp : p < first ∨ last ≤ p) :
    v.AgreesOn (v.flip p) first last := by
  refine ⟨rfl, fun i hfirst hlast => ?_⟩
  by_cases hi : i < v.len
  · rw [bit_flip v hi, decide_eq_false (by omega : i ≠ p), Bool.bne_false]
  · rw [bit_of_len_le (by omega), bit_of_len_le (v := v.flip p) (by rw [len_flip]; omega)]

theorem tabulate_congr {len : Nat} {f g : Nat → Bool} (h : ∀ i, i < len → f i = g i) :
    tabulate len f = tabulate len g := by
  have hbits : ∀ k, (fun i => decide (8 * k + i < len) && f (8 * k + i))
      = fun i => decide (8 * k + i < len) && g (8 * k + i) := by
    intro k
    funext i
    by_cases hi : 8 * k + i < len
    · rw [h _ hi]
    · rw [decide_eq_false hi]
      rfl
  simp only [tabulate, hbits]

/-! ### Numbers by parts -/

theorem unsigned_self (v : BitView) (first : Nat) : v.unsigned first first = 0 := by
  rw [unsigned, Nat.sub_self]
  rfl

theorem unsigned_succ (v : BitView) {first last : Nat} (h : first ≤ last) :
    v.unsigned first (last + 1) = 2 * v.unsigned first last + (v.bit last).toNat := by
  have hrange : last + 1 - first = last - first + 1 := by omega
  rw [unsigned, hrange, List.range'_1_concat, List.foldl_append, Nat.add_sub_cancel' h]
  rfl

/-- A number is that of its first bits shifted by the number of the others, and theirs. -/
theorem unsigned_add (v : BitView) {first middle : Nat} (h : first ≤ middle) (k : Nat) :
    v.unsigned first (middle + k)
      = v.unsigned first middle * 2 ^ k + v.unsigned middle (middle + k) := by
  induction k with
  | zero => rw [Nat.add_zero, unsigned_self, Nat.pow_zero, Nat.mul_one, Nat.add_zero]
  | succ k ih =>
    rw [← Nat.add_assoc, unsigned_succ v (by omega), unsigned_succ v (by omega), ih, Nat.pow_succ]
    have hcomm : v.unsigned first middle * (2 ^ k * 2) = 2 * (v.unsigned first middle * 2 ^ k) := by
      rw [Nat.mul_comm (2 ^ k) 2, Nat.mul_left_comm]
    omega

/-! ### Numbers and texts are as good as their bits -/

/-- A number tells every bit that it was read from. -/
theorem bit_of_unsigned_eq {v w : BitView} {first last : Nat}
    (h : v.unsigned first last = w.unsigned first last) :
    ∀ i, first ≤ i → i < last → v.bit i = w.bit i := by
  induction last with
  | zero => intro i _ hi; omega
  | succ last ih =>
    intro i hfirst hlast
    rw [unsigned_succ v (by omega), unsigned_succ w (by omega)] at h
    have hv := Bool.toNat_le (v.bit last)
    have hw := Bool.toNat_le (w.bit last)
    by_cases hi : i = last
    · subst hi
      have hbit : (v.bit i).toNat = (w.bit i).toNat := by omega
      rw [Bool.eq_iff_iff, ← Bool.toNat_eq_one, ← Bool.toNat_eq_one, hbit]
    · exact ih (by omega) i hfirst (by omega)

section congr

variable {v w : BitView} {first last start stop : Nat} (hwidth : last - first = stop - start)
  (h : ∀ i, i < last - first → v.bit (first + i) = w.bit (start + i))
include hwidth h

/-- The same bits at two places, of one view or of two, are the same number. -/
theorem unsigned_congr : v.unsigned first last = w.unsigned start stop := by
  rw [unsigned, unsigned, List.range'_eq_map_range, List.range'_eq_map_range, List.foldl_map,
    List.foldl_map, ← hwidth]
  refine List.foldl_ext _ _ _ fun n i hi => ?_
  rw [h i (List.mem_range.mp hi)]

theorem signed_congr : v.signed first last = w.signed start stop := by
  rw [signed, signed, unsigned_congr hwidth h, hwidth]
  by_cases hrange : first < last
  · have htop : v.bit first = w.bit start := h 0 (by omega)
    rw [htop, decide_eq_true hrange, decide_eq_true (by omega : start < stop)]
  · rw [decide_eq_false hrange, decide_eq_false (by omega : ¬ start < stop)]
    rfl

theorem slice_congr : v.slice first last = w.slice start stop := by
  rw [slice, slice, ← hwidth]
  exact tabulate_congr h

theorem symbols_congr : v.symbols first last = w.symbols start stop := by
  rw [symbols, symbols, ← hwidth]
  refine List.map_congr_left fun i hi => ?_
  have hi := List.mem_range.mp hi
  refine unsigned_congr (by omega) fun j hj => ?_
  rw [Nat.add_assoc, Nat.add_assoc]
  exact h (6 * i + j) (by omega)

theorem text_congr : v.text first last = w.text start stop := by
  rw [text, text, symbols_congr hwidth h]

end congr

section flip

variable {v : BitView} {p first last start : Nat}

/-- Turning over one of the bits that a number is read from changes the number. -/
theorem unsigned_flip_ne (h : first ≤ p ∧ p < last) (hlen : p < v.len) :
    (v.flip p).unsigned first last ≠ v.unsigned first last := by
  intro heq
  have hbit := bit_of_unsigned_eq heq p h.1 h.2
  rw [bit_flip v hlen, decide_eq_true rfl] at hbit
  revert hbit
  cases v.bit p <;> decide

theorem uint8_flip_ne {hwidth : Nat.ble last (first + 8) = true}
    (h : start + first ≤ p ∧ p < start + last) (hlen : p < v.len) :
    (v.flip p).uint8 first last start hwidth ≠ v.uint8 first last start hwidth := by
  intro heq
  have hnat := congrArg UInt8.toNat heq
  rw [toNat_uint8, toNat_uint8] at hnat
  exact unsigned_flip_ne h hlen hnat

theorem uint16_flip_ne {hwidth : Nat.ble last (first + 16) = true}
    (h : start + first ≤ p ∧ p < start + last) (hlen : p < v.len) :
    (v.flip p).uint16 first last start hwidth ≠ v.uint16 first last start hwidth := by
  intro heq
  have hnat := congrArg UInt16.toNat heq
  rw [toNat_uint16, toNat_uint16] at hnat
  exact unsigned_flip_ne h hlen hnat

theorem uint32_flip_ne {hwidth : Nat.ble last (first + 32) = true}
    (h : start + first ≤ p ∧ p < start + last) (hlen : p < v.len) :
    (v.flip p).uint32 first last start hwidth ≠ v.uint32 first last start hwidth := by
  intro heq
  have hnat := congrArg UInt32.toNat heq
  rw [toNat_uint32, toNat_uint32] at hnat
  exact unsigned_flip_ne h hlen hnat

end flip

/-! ### Reads of a range on which two views agree -/

namespace AgreesOn

variable {v w : BitView} {lo hi first last : Nat}

theorem mono (h : v.AgreesOn w lo hi) (hlo : lo ≤ first) (hhi : last ≤ hi) :
    v.AgreesOn w first last :=
  ⟨h.len, fun i hfirst hlast => h.bit i (Nat.le_trans hlo hfirst) (Nat.lt_of_lt_of_le hlast hhi)⟩

theorem bit_add (h : v.AgreesOn w lo hi) (hlo : lo ≤ first) (hhi : last ≤ hi) :
    ∀ i, i < last - first → v.bit (first + i) = w.bit (first + i) :=
  fun i hi => h.bit (first + i) (by omega) (by omega)

theorem unsigned (h : v.AgreesOn w lo hi) (hlo : lo ≤ first) (hhi : last ≤ hi) :
    v.unsigned first last = w.unsigned first last := unsigned_congr rfl (h.bit_add hlo hhi)

theorem signed (h : v.AgreesOn w lo hi) (hlo : lo ≤ first) (hhi : last ≤ hi) :
    v.signed first last = w.signed first last := signed_congr rfl (h.bit_add hlo hhi)

theorem slice (h : v.AgreesOn w lo hi) (hlo : lo ≤ first) (hhi : last ≤ hi) :
    v.slice first last = w.slice first last := slice_congr rfl (h.bit_add hlo hhi)

theorem text (h : v.AgreesOn w lo hi) (hlo : lo ≤ first) (hhi : last ≤ hi) :
    v.text first last = w.text first last := text_congr rfl (h.bit_add hlo hhi)

/-! ### Numbers inside a block -/

variable {start : Nat}

theorem uint8 (h : v.AgreesOn w lo hi) {hwidth : Nat.ble last (first + 8) = true}
    (hlo : lo ≤ start + first) (hhi : start + last ≤ hi) :
    v.uint8 first last start hwidth = w.uint8 first last start hwidth :=
  congrArg UInt8.ofNat (h.unsigned hlo hhi)

theorem uint16 (h : v.AgreesOn w lo hi) {hwidth : Nat.ble last (first + 16) = true}
    (hlo : lo ≤ start + first) (hhi : start + last ≤ hi) :
    v.uint16 first last start hwidth = w.uint16 first last start hwidth :=
  congrArg UInt16.ofNat (h.unsigned hlo hhi)

theorem uint32 (h : v.AgreesOn w lo hi) {hwidth : Nat.ble last (first + 32) = true}
    (hlo : lo ≤ start + first) (hhi : start + last ≤ hi) :
    v.uint32 first last start hwidth = w.uint32 first last start hwidth :=
  congrArg UInt32.ofNat (h.unsigned hlo hhi)

theorem int8 (h : v.AgreesOn w lo hi) {hwidth : Nat.ble last (first + 8) = true}
    (hlo : lo ≤ start + first) (hhi : start + last ≤ hi) :
    v.int8 first last start hwidth = w.int8 first last start hwidth :=
  congrArg Int8.ofInt (h.signed hlo hhi)

theorem unsignedParts (h : v.AgreesOn w lo hi) {perUnit : Nat}
    {hwidth : Nat.ble last (first + 32) = true}
    (hlo : lo ≤ start + first) (hhi : start + last ≤ hi) :
    v.unsignedParts first last perUnit start hwidth
      = w.unsignedParts first last perUnit start hwidth :=
  congrArg (fun n : Nat => Quantity.mk n perUnit) (h.unsigned hlo hhi)

theorem signedParts (h : v.AgreesOn w lo hi) {perUnit : Nat}
    {hwidth : Nat.ble last (first + 32) = true}
    (hlo : lo ≤ start + first) (hhi : start + last ≤ hi) :
    v.signedParts first last perUnit start hwidth
      = w.signedParts first last perUnit start hwidth :=
  congrArg (Quantity.mk · perUnit) (h.signed hlo hhi)

/-! ### Blocks -/

theorem hull (h : v.AgreesOn w start (start + 30)) : Hull.decode v start = Hull.decode w start := by
  simp (disch := omega) only [Hull.decode, h.uint16, h.uint8]

theorem communication (h : v.AgreesOn w start (start + CommunicationState.width))
    (isIncremental : Bool) :
    CommunicationState.decode v start isIncremental
      = CommunicationState.decode w start isIncremental := by
  rw [CommunicationState.width] at h
  simp (disch := omega) only [CommunicationState.decode, Incremental.decode, SelfOrganised.decode,
    SlotReport.decode, h.uint16, h.uint8, h.bit]

theorem selectedCommunication (h : v.AgreesOn w start (start + 1 + CommunicationState.width)) :
    CommunicationState.decodeSelected v start = CommunicationState.decodeSelected w start := by
  rw [CommunicationState.decodeSelected, CommunicationState.decodeSelected,
    h.bit start (by omega) (by omega), communication (h.mono (by omega) (by omega))]

theorem acknowledgedMessage (h : v.AgreesOn w start (start + AcknowledgedMessage.width)) :
    AcknowledgedMessage.decode v start = AcknowledgedMessage.decode w start := by
  rw [AcknowledgedMessage.width] at h
  simp (disch := omega) only [AcknowledgedMessage.decode, h.uint32, h.uint8]

theorem slotReservation (h : v.AgreesOn w start (start + SlotReservation.width)) :
    SlotReservation.decode v start = SlotReservation.decode w start := by
  rw [SlotReservation.width] at h
  simp (disch := omega) only [SlotReservation.decode, h.uint16, h.uint8]

theorem slotAssignment (h : v.AgreesOn w start (start + 52)) :
    SlotAssignment.decode v start = SlotAssignment.decode w start := by
  simp (disch := omega) only [SlotAssignment.decode, h.uint32, h.uint16]

theorem messageRequest (h : v.AgreesOn w start (start + 18)) :
    MessageRequest.decode v start = MessageRequest.decode w start := by
  simp (disch := omega) only [MessageRequest.decode, h.uint8, h.uint16]

theorem channelTarget (h : v.AgreesOn w 69 140) : ChannelTarget.decode v = ChannelTarget.decode w := by
  simp (disch := omega) only [ChannelTarget.decode, Area.decode, Position.coarse, h.bit, h.uint32,
    h.signedParts]

/-- The name of the application is read even where the data ends before it. -/
theorem structuredData {stop : Nat}
    (h : v.AgreesOn w start (max stop (start + BinaryData.applicationWidth))) :
    BinaryData.decodeStructured v start stop = BinaryData.decodeStructured w start stop := by
  rw [BinaryData.applicationWidth] at h
  simp (disch := omega) only [BinaryData.decodeStructured, BinaryData.area, BinaryData.function,
    BinaryData.payload, BinaryData.applicationWidth, h.uint16, h.uint8, h.slice]

theorem unstructuredData {stop : Nat} (h : v.AgreesOn w start (max stop start)) :
    BinaryData.decodeUnstructured v start stop = BinaryData.decodeUnstructured w start stop :=
  congrArg BinaryData.unstructured (h.slice (Nat.le_refl _) (Nat.le_refl _))

end AgreesOn

end BitView

namespace Frame

/-- The frame with one bit of its message turned over. -/
def flip (f : Frame) (p : Nat) : Frame := { f with bits := f.bits.flip p }

theorem code_congr {f g : Frame} (h : f.bits.AgreesOn g.bits 0 6) : f.code = g.code :=
  h.uint8 (Nat.le_refl 0) (Nat.le_refl 6)

theorem header_congr {f g : Frame} (h : f.bits.AgreesOn g.bits 0 38) : f.header = g.header := by
  rw [header, header, code_congr (h.mono (by decide) (by decide)), h.uint8 (by decide) (by decide),
    h.uint32 (by decide) (by decide)]

theorem code_flip (f : Frame) {p : Nat} (hp : 6 ≤ p) : (f.flip p).code = f.code :=
  (code_congr (g := f.flip p) (f.bits.agreesOn_flip (.inr hp))).symm

end Frame

end VesselTraffic
