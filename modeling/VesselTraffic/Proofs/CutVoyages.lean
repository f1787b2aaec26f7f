import VesselTraffic.Proofs.Beginnings
import VesselTraffic.Proofs.Dispatch
import VesselTraffic.Proofs.SixBitTexts

/-!
# Voyage data that ends early

Voyage data ends in a flag and a spare bit, and may lack up to four of its bits. Without the last
two it tells all that the whole message tells, but for the flag. The two in front of them belong
to the last letter of the destination: without these the letter is read with zeros in their place.
-/
namespace VesselTraffic

namespace Frame

variable {f g : Frame}

/-- The frame that ends behind its first `n` bits. -/
def cut (f : Frame) (n : Nat) : Frame := { f with bits := f.bits.slice 0 n }

@[simp] theorem len_cut (f : Frame) (n : Nat) : (f.cut n).len = n := rfl

theorem agreesBelow_cut (f : Frame) (n : Nat) : f.bits.AgreesBelow (f.cut n).bits n :=
  f.bits.agreesBelow_slice n

theorem header_of_agreesBelow (h : f.bits.AgreesBelow g.bits 38) : f.header = g.header := by
  simp (disch := omega) only [header, code, h.uint8, h.uint32]

end Frame

namespace VoyageData

variable {f g : Frame} {n : Nat}

/-- Up to four bits at the end matter to the destination and to the flag alone. -/
theorem read_of_agreesBelow (h : f.bits.AgreesBelow g.bits 420) :
    read g = { read f with destination := (read g).destination, dte := (read g).dte } := by
  have hheader := Frame.header_of_agreesBelow (h.mono (by decide : 38 ≤ 420))
  simp (disch := omega) only [read, hheader, h.uint8, h.uint32, h.text, h.hull, h.arrival,
    h.unsignedParts]

/-- The destination ends at the position 422, and its last letter begins six bits before. -/
theorem destination_eq_iff_last (h : f.bits.AgreesBelow g.bits 416) :
    (read g).destination = (read f).destination ↔
      SixBit.read (g.bits.unsigned 416 422) = SixBit.read (f.bits.unsigned 416 422) :=
  BitView.text_eq_iff_last (k := 19) (h.symbols (Nat.le_refl 416)).symm

/-- A destination that has its first bits keeps its last letter only if the bits that are cut off
are zeros. -/
theorem destination_cut_iff (f : Frame) (hn : 420 ≤ n) :
    (read (f.cut n)).destination = (read f).destination ↔
      ∀ i, n ≤ i → i < 422 → f.bits.bit i = false := by
  have hagrees := f.agreesBelow_cut n
  have hend : ∀ i, n ≤ i → (f.cut n).bits.bit i = false := fun i hi => BitView.bit_of_len_le hi
  have hlt : ∀ v : BitView, v.unsigned 416 422 < 64 := fun v => v.unsigned_lt 416 422
  -- the first bit of the last letter is never cut off, and it tells the padding from a space
  have hfirst : (f.cut n).bits.unsigned 416 422 / 32 = f.bits.unsigned 416 422 / 32 := by
    have hsplit : ∀ v : BitView, v.unsigned 416 422 / 32 = v.unsigned 416 417 := by
      intro v
      have hadd : v.unsigned 416 422 = v.unsigned 416 417 * 32 + v.unsigned 417 422 :=
        v.unsigned_add (by decide) 5
      have hrest : v.unsigned 417 422 < 32 := v.unsigned_lt 417 422
      omega
    rw [hsplit, hsplit, hagrees.unsigned (by omega)]
  rw [destination_eq_iff_last (hagrees.mono (by omega)), SixBit.read_injOn (hlt _) (hlt _) hfirst]
  constructor
  · intro h i hfirst hlast
    rw [← BitView.bit_of_unsigned_eq h i (by omega) hlast, hend i hfirst]
  · intro h
    refine BitView.unsigned_congr rfl fun i hi => ?_
    by_cases hcut : 416 + i < n
    · exact (hagrees.bit (416 + i) hcut).symm
    · rw [hend _ (by omega), h _ (by omega) (by omega)]

theorem dte_cut (f : Frame) (n : Nat) :
    (read (f.cut n)).dte = ((read f).dte && decide (422 < n)) := by
  show (f.cut n).bits.bit 422 = (f.bits.bit 422 && decide (422 < n))
  by_cases hn : 422 < n
  · rw [decide_eq_true hn, Bool.and_true, (f.agreesBelow_cut n).bit 422 hn]
  · rw [decide_eq_false hn, Bool.and_false]
    exact BitView.bit_of_len_le (Nat.le_of_not_lt hn)

/-- A destination of twenty letters at its place, and zeros for everything else. -/
def writtenBits (destination : List Char) : List Bool :=
  BitField.bits [⟨6, 5⟩, ⟨296, 0⟩] ++ (SixBit.write destination ++ [false, false])

/-- Voyage data that tell nothing but a destination. -/
def bound (destination : List Char) : Frame := Frame.ofBits (BitView.ofList (writtenBits destination))

theorem destination_bound {destination : List Char} (hlength : destination.length = 20)
    (hletters : ∀ c ∈ destination, SixBit.IsLetter c) :
    (read (bound destination)).destination = String.ofList (Text.trim destination) := by
  have hwritten : (bound destination).bits.Holds 0 (writtenBits destination) :=
    BitView.holds_ofList _
  obtain ⟨-, hrest⟩ := BitView.holds_append.mp hwritten
  rw [BitField.length_bits] at hrest
  have htext := BitView.text_of_holds hletters (BitView.holds_append.mp hrest).1
  rwa [hlength] at htext

end VoyageData

namespace Message

variable {f : Frame} {n : Nat}

/-- Whole voyage data cut to a length that is allowed tells what it told before, except for the
flag, which is not set if it is cut off, and for the destination. That stays as it is exactly if the
bits of it that are cut off, if any, are zeros. -/
theorem voyageData_cut (hcode : f.code = MessageKind.voyageData.code) (hlen : f.len = 424)
    (hn : MessageKind.voyageData.bounds.allows n) :
    ∃ r r', decode f = .ok (voyageData r) ∧ decode (f.cut n) = .ok (voyageData r') ∧
      r' = { r with destination := r'.destination, dte := r'.dte } ∧
      r'.dte = (r.dte && decide (422 < n)) ∧
      (r'.destination = r.destination ↔ ∀ i, n ≤ i → i < 422 → f.bits.bit i = false) := by
  have hleast : 420 ≤ n := (LengthBounds.allows_iff.mp hn).1
  have hagrees := f.agreesBelow_cut n
  have hcode' : (f.cut n).code = MessageKind.voyageData.code := by
    rw [← hcode]
    exact (congrArg Header.messageType (Frame.header_of_agreesBelow (hagrees.mono (by omega)))).symm
  have hwhole : f.ensure .voyageData = .ok () := Frame.ensure_of_allows hcode (by rw [hlen]; decide)
  have hcut : (f.cut n).ensure .voyageData = .ok () :=
    Frame.ensure_of_allows hcode' (by rwa [Frame.len_cut])
  refine ⟨VoyageData.read f, VoyageData.read (f.cut n), decode_of_ensure hwhole (by decide),
    decode_of_ensure hcut (by decide), ?_, VoyageData.dte_cut f n, VoyageData.destination_cut_iff f hleast⟩
  exact VoyageData.read_of_agreesBelow (hagrees.mono hleast)

/-- The flag and the spare bit are cut off, and with the flag nothing else is lost. -/
theorem flag_cut_off :
    let f := Frame.ofBits (BitView.tabulate 424 fun i => [3, 5, 307, 421, 422].contains i)
    f.code = MessageKind.voyageData.code ∧ f.len = 424 ∧ MessageKind.voyageData.bounds.allows 422 ∧
      ∃ r r', decode f = .ok (voyageData r) ∧ decode (f.cut 422) = .ok (voyageData r') ∧
        r' = { r with destination := r'.destination, dte := r'.dte } ∧
        r'.dte = false ∧ r'.destination = r.destination := by
  intro f
  have hcode : f.code = MessageKind.voyageData.code := by decide +kernel
  have hallows : MessageKind.voyageData.bounds.allows 422 := by decide
  obtain ⟨r, r', hf, hcut, hothers, hdte, hdestination⟩ := voyageData_cut hcode rfl hallows
  refine ⟨hcode, rfl, hallows, r, r', hf, hcut, hothers, ?_,
    hdestination.mpr fun i hfirst hlast => by omega⟩
  rw [hdte]
  exact Bool.and_false _

/-- The last digit of a destination of twenty letters is another one where two bits of it are
missing. -/
theorem last_digit_cut :
    let f := VoyageData.bound "SEATTLE TERMINAL 115".toList
    f.code = MessageKind.voyageData.code ∧ f.len = 424 ∧ MessageKind.voyageData.bounds.allows 420 ∧
      ∃ r r', decode f = .ok (voyageData r) ∧ decode (f.cut 420) = .ok (voyageData r') ∧
        r.destination = "SEATTLE TERMINAL 115" ∧ r'.destination = "SEATTLE TERMINAL 114" ∧
        r' ≠ { r with dte := r'.dte } := by
  intro f
  have hcode : f.code = MessageKind.voyageData.code := by decide +kernel
  have hwhole : f.ensure .voyageData = .ok () := Frame.ensure_of_allows hcode (by decide +kernel)
  have hcut : (f.cut 420).ensure .voyageData = .ok () :=
    Frame.ensure_of_allows (by decide +kernel) (by decide +kernel)
  have hread : (VoyageData.read f).destination = "SEATTLE TERMINAL 115" :=
    (VoyageData.destination_bound (by decide) (SixBit.isLetter_of_all (by decide))).trans
      (by decide +kernel)
  have hread' : (VoyageData.read (f.cut 420)).destination = "SEATTLE TERMINAL 114" := by
    decide +kernel
  refine ⟨hcode, by decide +kernel, by decide, _, _, decode_of_ensure hwhole (by decide),
    decode_of_ensure hcut (by decide), hread, hread', fun h => ?_⟩
  have hsame := (congrArg VoyageData.destination h).symm.trans hread'
  rw [hread] at hsame
  exact absurd hsame (by decide)

end Message

end VesselTraffic
