import VesselTraffic.Proofs.SubViews

/-!
# What a beginning tells

Fields that end below a position are read from the bits below it. So they are the same in every
view that has the same bits there, however long it is: a view that ends earlier, if it has zeros
only from its end on, and one that goes on.
-/
namespace VesselTraffic.BitView

/-- Below a position two views have the same bits, zeros standing for those behind an end. -/
structure AgreesBelow (v w : BitView) (stop : Nat) : Prop where
  bit : ∀ i, i < stop → v.bit i = w.bit i

/-- The first bits of a view, filled up with zeros where it has fewer. -/
theorem agreesBelow_slice (v : BitView) (stop : Nat) : v.AgreesBelow (v.slice 0 stop) stop := by
  refine ⟨fun i hi => ?_⟩
  rw [bit_slice (Or.inl (by omega)), Nat.zero_add]

namespace AgreesBelow

variable {v w : BitView} {stop first last start : Nat}

theorem mono (h : v.AgreesBelow w stop) (hlast : last ≤ stop) : v.AgreesBelow w last :=
  ⟨fun i hi => h.bit i (Nat.lt_of_lt_of_le hi hlast)⟩

theorem bit_add (h : v.AgreesBelow w stop) (hlast : last ≤ stop) :
    ∀ i, i < last - first → v.bit (first + i) = w.bit (first + i) :=
  fun i hi => h.bit (first + i) (by omega)

theorem unsigned (h : v.AgreesBelow w stop) (hlast : last ≤ stop) :
    v.unsigned first last = w.unsigned first last := unsigned_congr rfl (h.bit_add hlast)

theorem signed (h : v.AgreesBelow w stop) (hlast : last ≤ stop) :
    v.signed first last = w.signed first last := signed_congr rfl (h.bit_add hlast)

theorem symbols (h : v.AgreesBelow w stop) (hlast : last ≤ stop) :
    v.symbols first last = w.symbols first last := symbols_congr rfl (h.bit_add hlast)

theorem text (h : v.AgreesBelow w stop) (hlast : last ≤ stop) :
    v.text first last = w.text first last := text_congr rfl (h.bit_add hlast)

theorem uint8 (h : v.AgreesBelow w stop) {hwidth : Nat.ble last (first + 8) = true}
    (hlast : start + last ≤ stop) :
    v.uint8 first last start hwidth = w.uint8 first last start hwidth :=
  congrArg UInt8.ofNat (h.unsigned hlast)

theorem uint16 (h : v.AgreesBelow w stop) {hwidth : Nat.ble last (first + 16) = true}
    (hlast : start + last ≤ stop) :
    v.uint16 first last start hwidth = w.uint16 first last start hwidth :=
  congrArg UInt16.ofNat (h.unsigned hlast)

theorem uint32 (h : v.AgreesBelow w stop) {hwidth : Nat.ble last (first + 32) = true}
    (hlast : start + last ≤ stop) :
    v.uint32 first last start hwidth = w.uint32 first last start hwidth :=
  congrArg UInt32.ofNat (h.unsigned hlast)

theorem unsignedParts (h : v.AgreesBelow w stop) {perUnit : Nat}
    {hwidth : Nat.ble last (first + 32) = true} (hlast : start + last ≤ stop) :
    v.unsignedParts first last perUnit start hwidth
      = w.unsignedParts first last perUnit start hwidth :=
  congrArg (fun n : Nat => Quantity.mk n perUnit) (h.unsigned hlast)

theorem signedParts (h : v.AgreesBelow w stop) {perUnit : Nat}
    {hwidth : Nat.ble last (first + 32) = true} (hlast : start + last ≤ stop) :
    v.signedParts first last perUnit start hwidth
      = w.signedParts first last perUnit start hwidth :=
  congrArg (Quantity.mk · perUnit) (h.signed hlast)

/-! ### Blocks -/

theorem hull (h : v.AgreesBelow w stop) (hlast : start + 30 ≤ stop) :
    Hull.decode v start = Hull.decode w start := by
  simp (disch := omega) only [Hull.decode, h.uint16, h.uint8]

theorem arrival (h : v.AgreesBelow w stop) (hlast : start + 20 ≤ stop) :
    ArrivalTime.decode v start = ArrivalTime.decode w start := by
  simp (disch := omega) only [ArrivalTime.decode, h.uint8]

theorem mediumPosition (h : v.AgreesBelow w stop) (hlast : start + 49 ≤ stop) :
    Position.medium v start = Position.medium w start := by
  simp (disch := omega) only [Position.medium, h.signedParts]

end AgreesBelow

end VesselTraffic.BitView
