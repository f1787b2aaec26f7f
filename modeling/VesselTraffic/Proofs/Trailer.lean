import Mathlib.Tactic.Common
import VesselTraffic.Proofs.Dispatch
import VesselTraffic.Proofs.Locality

/-!
# The trailer of binary messages of several slots

Such a message ends in a communication state, and its data stops where that begins. The
destination and the name of the application are not cut there: they stand at places that
two flags select. So the payload depends on the bits of the communication state exactly
if the message is too short to hold these before it.
-/
namespace VesselTraffic

namespace SlotPayload

variable {v w : BitView} {stop p : Nat}

/-- Where the destination and the name of the application end, if there are any. -/
def headEnd (v : BitView) : Nat :=
  if isStructured v then start v + BinaryData.applicationWidth else start v

theorem head_bounds (v : BitView) : 40 ≤ start v ∧ start v ≤ headEnd v ∧ headEnd v ≤ 86 := by
  have hstart : start v = 70 ∨ start v = 40 := ite_eq_or_eq _ _ _
  have hwidth : BinaryData.applicationWidth = 16 := rfl
  unfold headEnd
  split <;> omega

theorem flags_congr (h : v.AgreesOn w 38 40) :
    isAddressed v = isAddressed w ∧ isStructured v = isStructured w ∧ start v = start w := by
  have haddressed : isAddressed v = isAddressed w := h.bit 38 (by decide) (by decide)
  have hstructured : isStructured v = isStructured w := h.bit 39 (by decide) (by decide)
  exact ⟨haddressed, hstructured, by rw [start, start, haddressed]⟩

/-- The payload depends on the bits before the stop alone if its head ends there. -/
theorem read_congr (h : v.AgreesOn w 0 stop) (hhead : headEnd v ≤ stop) :
    read v stop = read w stop := by
  have hstart := head_bounds v
  obtain ⟨haddressed, hstructured, hequal⟩ := flags_congr (h.mono (Nat.zero_le 38) (by omega))
  have hdestination : isAddressed v = true → v.uint32 40 70 = w.uint32 40 70 := by
    intro hv
    rw [start, if_pos hv] at hstart
    exact h.uint32 (Nat.zero_le _) (by omega)
  have hdata : isStructured v = true →
      BinaryData.decodeStructured v (start v) stop = BinaryData.decodeStructured w (start v) stop := by
    intro hv
    rw [headEnd, if_pos hv] at hhead
    exact (h.mono (Nat.zero_le _) (by omega)).structuredData
  have hbits : BinaryData.decodeUnstructured v (start v) stop
      = BinaryData.decodeUnstructured w (start v) stop :=
    (h.mono (Nat.zero_le _) (by omega)).unstructuredData
  unfold read
  rw [← haddressed, ← hstructured, ← hequal, hbits]
  congr 1
  · split
    · rename_i hv; rw [hdestination hv]
    · rfl
  · split
    · rename_i hv; rw [hdata hv]
    · rfl

/-- Every bit of the head counts, wherever the data stops. -/
theorem read_flip_ne (hp : 40 ≤ p ∧ p < headEnd v) (hlen : p < v.len) :
    read (v.flip p) stop ≠ read v stop := by
  obtain ⟨haddressed, hstructured, hequal⟩ := flags_congr (v.agreesOn_flip (.inr hp.1))
  intro heq
  by_cases hdestination : p < start v
  · have hv : isAddressed v = true := by
      by_contra hno
      rw [start, if_neg hno] at hdestination
      omega
    have hread := congrArg SlotPayload.destination heq
    simp only [read, ← haddressed, hv, if_true, Option.some.injEq] at hread
    rw [start, if_pos hv] at hdestination
    exact BitView.uint32_flip_ne (by omega) hlen hread
  · have hv : isStructured v = true := by
      by_contra hno
      rw [headEnd, if_neg hno] at hp
      omega
    have hread := congrArg SlotPayload.data heq
    simp only [read, ← hstructured, ← hequal, hv, if_true, BinaryData.decodeStructured,
      BinaryData.structured.injEq] at hread
    rw [headEnd, if_pos hv, BinaryData.applicationWidth] at hp
    by_cases harea : p < start v + 10
    · exact BitView.uint16_flip_ne (by omega) hlen hread.1
    · exact BitView.uint8_flip_ne (by omega) hlen hread.2.1

end SlotPayload

namespace Message

open MultipleSlotBinary (selector)

variable {f g : Frame}

theorem decode_multipleSlotBinary (hcode : f.code = MessageKind.multipleSlotBinary.code)
    (hlen : 60 ≤ f.len ∧ f.len ≤ 1064) :
    decode f = .ok (multipleSlotBinary (MultipleSlotBinary.read f)) := by
  rw [decode_of_code hcode.symm, decodeAs_of_admits hcode ⟨hlen, fun h => by contradiction⟩]
  rfl

/-- The communication state of a binary message of several slots is read from the last 20
bits alone, and the header from the bits before them. So is the payload if its head ends
before them as well, as it does in a message of 106 bits or more. In a shorter one the
destination or the name of the application may reach into the last 20 bits: turning over
one that they reach changes the payload. -/
theorem multipleSlotBinary_trailer (hcode : f.code = MessageKind.multipleSlotBinary.code)
    (hlen : 60 ≤ f.len ∧ f.len ≤ 1064) :
    ∃ r, decode f = .ok (multipleSlotBinary r) ∧
      (∀ g : Frame, f.bits.AgreesOn g.bits 0 (selector f) →
        ∃ r', decode g = .ok (multipleSlotBinary r') ∧ r'.header = r.header ∧
          (SlotPayload.headEnd f.bits ≤ selector f → r'.payload = r.payload)) ∧
      (106 ≤ f.len → SlotPayload.headEnd f.bits ≤ selector f) ∧
      (∀ g : Frame, g.code = f.code → f.bits.AgreesOn g.bits (selector f) f.len →
        ∃ r', decode g = .ok (multipleSlotBinary r') ∧ r'.communication = r.communication) ∧
      (∀ p, selector f ≤ p → p < SlotPayload.headEnd f.bits → p < f.len →
        ∃ r', decode (f.flip p) = .ok (multipleSlotBinary r') ∧ r'.payload ≠ r.payload) := by
  have hselector : selector f + 20 = f.len := by
    rw [selector, CommunicationState.width]
    omega
  have hdecode : ∀ g : Frame, g.code = f.code → f.bits.len = g.bits.len →
      decode g = .ok (multipleSlotBinary (MultipleSlotBinary.read g)) ∧ selector g = selector f := by
    intro g hgcode hglen
    have hglen : g.len = f.len := hglen.symm
    exact ⟨decode_multipleSlotBinary (hgcode.trans hcode) (by rwa [hglen]), by
      rw [selector, selector, hglen]⟩
  have hhead := SlotPayload.head_bounds f.bits
  refine ⟨_, decode_multipleSlotBinary hcode hlen, ?_, fun hlong => by omega, ?_, ?_⟩
  · intro g hagrees
    have hheader : g.header = f.header :=
      (Frame.header_congr (hagrees.mono (Nat.zero_le 0) (by omega))).symm
    obtain ⟨hg, hstop⟩ := hdecode g (congrArg Header.messageType hheader) hagrees.len
    refine ⟨_, hg, hheader, fun hhead => ?_⟩
    show SlotPayload.read g.bits (selector g) = SlotPayload.read f.bits (selector f)
    rw [hstop]
    exact (SlotPayload.read_congr hagrees hhead).symm
  · intro g hgcode hagrees
    obtain ⟨hg, hstop⟩ := hdecode g hgcode hagrees.len
    refine ⟨_, hg, ?_⟩
    show CommunicationState.decodeSelected g.bits (selector g)
      = CommunicationState.decodeSelected f.bits (selector f)
    rw [hstop]
    have hstate : selector f + 1 + CommunicationState.width = f.len := by
      rw [CommunicationState.width]
      omega
    exact (BitView.AgreesOn.selectedCommunication (hstate ▸ hagrees)).symm
  · intro p hfirst hlast hp
    obtain ⟨hg, hstop⟩ := hdecode (f.flip p) (f.code_flip (by omega)) rfl
    refine ⟨_, hg, ?_⟩
    show SlotPayload.read (f.bits.flip p) (selector (f.flip p)) ≠ SlotPayload.read f.bits (selector f)
    rw [hstop]
    exact SlotPayload.read_flip_ne ⟨by omega, hlast⟩ hp

/-- In the shortest message with a destination the trailer begins where the destination does,
and every one of its bits counts for both. -/
theorem shortest_multipleSlotBinary_trailer :
    let f := Frame.ofBits (BitView.tabulate 60 fun i => [1, 2, 4, 38].contains i)
    ∃ r, decode f = .ok (multipleSlotBinary r) ∧
      ∀ p, 40 ≤ p → p < 60 →
        ∃ r', decode (f.flip p) = .ok (multipleSlotBinary r') ∧ r'.payload ≠ r.payload := by
  intro f
  have hcode : f.code = MessageKind.multipleSlotBinary.code := by decide +kernel
  obtain ⟨r, hdecode, -, -, -, hchanged⟩ := multipleSlotBinary_trailer hcode ⟨by decide, by decide⟩
  have hhead : SlotPayload.headEnd f.bits = 70 := by decide +kernel
  have hstop : selector f = 40 := by decide
  refine ⟨r, hdecode, fun p hfirst hlast => ?_⟩
  exact hchanged p (by omega) (by omega) hlast

/-- Two messages that differ in the first bit of the trailer alone go to two destinations. -/
theorem destination_in_trailer :
    let f := Frame.ofBits (BitView.tabulate 60 fun i => [1, 2, 4, 38].contains i)
    let g := Frame.ofBits (BitView.tabulate 60 fun i => [1, 2, 4, 38, 40].contains i)
    f.bits.AgreesOn g.bits 0 (f.len - 20) ∧
      ∃ r r', decode f = .ok (multipleSlotBinary r) ∧ decode g = .ok (multipleSlotBinary r') ∧
        r.payload.destination = some 0 ∧ r'.payload.destination = some 536870912 := by
  intro f g
  refine ⟨⟨rfl, fun i _ hi => ?_⟩, MultipleSlotBinary.read f, MultipleSlotBinary.read g,
    ?_, ?_, ?_, ?_⟩
  · have hbits : ∀ i < 40, [1, 2, 4, 38].contains i = [1, 2, 4, 38, 40].contains i := by decide
    simp only [f, g, Frame.ofBits, BitView.bit_tabulate, hbits i hi]
  · exact decode_multipleSlotBinary (by decide +kernel) ⟨by decide, by decide⟩
  · exact decode_multipleSlotBinary (by decide +kernel) ⟨by decide, by decide⟩
  · decide +kernel
  · decide +kernel

end Message

end VesselTraffic
