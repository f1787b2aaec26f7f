import VesselTraffic.Proofs.BitLists
import VesselTraffic.Proofs.Trailer

/-!
# Binary payloads

A binary payload begins with what its message says about it: the destination, if it has one, and
the name of the application, if it is structured. Of the rest a payload without a known layout
keeps every bit. So its fields and the kept bits, one behind the other, are the bits of the
message, as long as the message holds the fields. A message of one slot may be too short for
them: it is read all the same, with zeros for the bits that it lacks.
-/
namespace VesselTraffic

namespace BinaryData

variable {v : BitView} {start stop first last : Nat} {d : BinaryData}

def isStructured : BinaryData → Bool
  | structured .. => true
  | unstructured _ => false

/-- The name of the application. -/
def nameFields : BinaryData → List BitField
  | structured area function _ => [⟨10, area.toNat⟩, ⟨6, function.toNat⟩]
  | unstructured _ => []

/-- Some bits are kept as they are. -/
inductive Keeps : BinaryData → BitView → Prop
  | unknown {area : UInt16} {function : UInt8} {kept : BitView} :
      Keeps (structured area function (.unknown area function kept)) kept
  | unstructured {kept : BitView} : Keeps (unstructured kept) kept

/-- Some bits are those of the fields in front, which have room for their values, and then those
that the data keeps. -/
def Spells (d : BinaryData) (front : List BitField) (bs : List Bool) : Prop :=
  (∀ e ∈ front, e.Fits) ∧ ∃ kept, d.Keeps kept ∧ bs = BitField.bits front ++ kept.toList

/-- No layout is known for the name at a position. -/
def IsUnknown (v : BitView) (start : Nat) : Prop :=
  ApplicationLayout.of? (area v start) (function v start) = none

instance (v : BitView) (start : Nat) : Decidable (IsUnknown v start) :=
  inferInstanceAs (Decidable (_ = none))

theorem keeps_decodeStructured (stop : Nat) (h : IsUnknown v start) :
    (decodeStructured v start stop).Keeps (payload v start stop) := by
  rw [decodeStructured, ApplicationMessage.decode, h]
  exact .unknown

theorem nameFields_decodeStructured :
    (decodeStructured v start stop).nameFields = v.fields start [10, 6] := by
  simp only [decodeStructured, nameFields, area, function, BitView.toNat_uint16,
    BitView.toNat_uint8, BitView.fields, Nat.add_zero, Nat.add_assoc, Nat.reduceAdd]

/-- Fields that were read, and behind them the kept bits, are what stands there. -/
theorem spells_fields {widths : List Nat} (hwidth : first + widths.sum ≤ last)
    (hkeeps : d.Keeps (v.slice (first + widths.sum) last)) :
    d.Spells (v.fields first widths) (v.slice first last).toList := by
  refine ⟨BitView.fits_fields, _, hkeeps, ?_⟩
  rw [BitView.bits_fields]
  exact BitView.toList_slice_append (Nat.le_add_right _ _) hwidth

/-- The name of an application without a known layout, and the data behind it. -/
theorem spells_decodeStructured (hunknown : IsUnknown v start) (hname : start + applicationWidth ≤ stop) :
    (decodeStructured v start stop).Spells (decodeStructured v start stop).nameFields
      (v.slice start stop).toList := by
  have hkeeps := keeps_decodeStructured stop hunknown
  rw [payload, Nat.max_eq_left hname] at hkeeps
  rw [nameFields_decodeStructured]
  exact spells_fields hname hkeeps

end BinaryData

namespace SlotPayload

variable {v : BitView} {stop : Nat}

/-- The destination and the name of the application. -/
def headFields (p : SlotPayload) : List BitField :=
  (p.destination.map fun mmsi => ⟨30, mmsi.toNat⟩).toList ++ p.data.nameFields

/-- The payload has what the two flags announce. -/
structure Follows (p : SlotPayload) (v : BitView) : Prop where
  destination : p.destination.isSome = v.bit 38
  data : p.data.isStructured = v.bit 39

/-- A message of this length has the whole destination and the whole name that are told. -/
structure IsHeld (p : SlotPayload) (len : Nat) : Prop where
  destination : p.destination.isSome = true → 70 ≤ len
  name : p.data.isStructured = true → (if p.destination.isSome then 86 else 56) ≤ len

def IsUnknown (v : BitView) : Prop := isStructured v = true → BinaryData.IsUnknown v (start v)

instance (v : BitView) : Decidable (IsUnknown v) :=
  inferInstanceAs (Decidable (isStructured v = true → BinaryData.IsUnknown v (start v)))

def headWidths (v : BitView) : List Nat :=
  (if isAddressed v then [30] else []) ++ if isStructured v then [10, 6] else []

theorem headEnd_eq (v : BitView) : headEnd v = 40 + (headWidths v).sum := by
  unfold headEnd headWidths start
  cases isAddressed v <;> cases isStructured v <;> rfl

theorem follows_read : (read v stop).Follows v := by
  constructor
  · rw [read, isAddressed]
    cases v.bit 38 <;> rfl
  · rw [read, isStructured]
    cases v.bit 39 <;> rfl

theorem nameFields_read :
    (read v stop).data.nameFields = v.fields (start v) (if isStructured v then [10, 6] else []) := by
  rw [read]
  cases isStructured v
  · rfl
  · exact BinaryData.nameFields_decodeStructured

theorem headFields_read : (read v stop).headFields = v.fields 40 (headWidths v) := by
  rw [headFields, nameFields_read, headWidths, read, start]
  cases isAddressed v
  · rfl
  · have hdestination : (v.uint32 40 70).toNat = v.unsigned 40 70 := by
      rw [BitView.toNat_uint32, Nat.zero_add, Nat.zero_add]
    simp only [if_true, Option.map_some, Option.toList_some, List.singleton_append, BitView.fields,
      hdestination, Nat.reduceAdd]

theorem keeps_read (stop : Nat) (h : IsUnknown v) :
    (read v stop).data.Keeps (v.slice (headEnd v) (max stop (headEnd v))) := by
  unfold read headEnd
  cases hstructured : isStructured v
  · exact .unstructured
  · exact BinaryData.keeps_decodeStructured stop (h hstructured)

theorem spells_read (hhead : headEnd v ≤ stop) (hunknown : IsUnknown v) :
    (read v stop).data.Spells (read v stop).headFields (v.slice 40 stop).toList := by
  have hkeeps := keeps_read stop hunknown
  rw [Nat.max_eq_left hhead, headEnd_eq] at hkeeps
  rw [headFields_read]
  exact BinaryData.spells_fields (headEnd_eq v ▸ hhead) hkeeps

/-- The head is what the message has of it, and zeros for the rest. -/
theorem bits_headFields_read (h : 40 ≤ v.len) :
    BitField.bits (read v stop).headFields
      = (v.toList.take (headEnd v)).drop 40 ++ List.replicate (headEnd v - v.len) false := by
  rw [headFields_read, BitView.bits_fields, ← headEnd_eq]
  exact BitView.toList_slice_of_first_le h

theorem isHeld_read {len : Nat} (h : 40 ≤ len) : (read v stop).IsHeld len ↔ headEnd v ≤ len := by
  -- With the flags in place of what they announce, each of their four values is one comparison.
  have hfollows : (read v stop).Follows v := follows_read
  have hiff : (read v stop).IsHeld len ↔ (isAddressed v = true → 70 ≤ len) ∧
      (isStructured v = true → (if isAddressed v then 86 else 56) ≤ len) := by
    rw [isAddressed, isStructured, ← hfollows.destination, ← hfollows.data]
    exact ⟨fun ⟨hdestination, hname⟩ => ⟨hdestination, hname⟩, fun ⟨hdestination, hname⟩ =>
      ⟨hdestination, hname⟩⟩
  rw [hiff, headEnd, start, BinaryData.applicationWidth]
  cases isAddressed v <;> cases isStructured v <;>
    simp only [if_true, if_false, Bool.false_eq_true, false_imp_iff, true_imp_iff, true_and,
      and_true, true_iff, Nat.reduceAdd] <;>
    omega

end SlotPayload

namespace Message

variable {f : Frame}

/-- A payload whose layout is not known is lost in no part. Behind the fields that the kind has
before it, the bits of an addressed message or a broadcast are the name of the application and
the data that is kept. So are those of a message of one or several slots that has room for
what its flags announce: a destination, a name or both, and then the data, which in a message of
several slots ends where the last 20 bits begin. -/
theorem decode_spells_payload :
    (f.ensure .addressedBinary = .ok () → BinaryData.IsUnknown f.bits 72 →
      ∃ r, decode f = .ok (addressedBinary r) ∧ r.data.isStructured = true ∧
        r.data.Spells r.data.nameFields (f.bits.toList.drop 72)) ∧
    (f.ensure .binaryBroadcast = .ok () → BinaryData.IsUnknown f.bits 40 →
      ∃ r, decode f = .ok (binaryBroadcast r) ∧ r.data.isStructured = true ∧
        r.data.Spells r.data.nameFields (f.bits.toList.drop 40)) ∧
    (f.ensure .singleSlotBinary = .ok () → SlotPayload.headEnd f.bits ≤ f.len →
      SlotPayload.IsUnknown f.bits →
      ∃ r, decode f = .ok (singleSlotBinary r) ∧ r.payload.Follows f.bits ∧
        r.payload.data.Spells r.payload.headFields (f.bits.toList.drop 40)) ∧
    (f.ensure .multipleSlotBinary = .ok () → SlotPayload.headEnd f.bits ≤ f.len - 20 →
      SlotPayload.IsUnknown f.bits →
      ∃ r, decode f = .ok (multipleSlotBinary r) ∧ r.payload.Follows f.bits ∧
        r.payload.data.Spells r.payload.headFields ((f.bits.toList.take (f.len - 20)).drop 40)) := by
  refine ⟨fun h hunknown => ?_, fun h hunknown => ?_, fun h hhead hunknown => ?_,
    fun h hhead hunknown => ?_⟩
  · have hlen := Frame.least_le_of_ensure h
    rw [← BitView.toList_slice_len]
    exact ⟨_, decode_of_ensure h (by decide), rfl, BinaryData.spells_decodeStructured hunknown hlen⟩
  · have hlen := Frame.least_le_of_ensure h
    rw [← BitView.toList_slice_len]
    exact ⟨_, decode_of_ensure h (by decide), rfl, BinaryData.spells_decodeStructured hunknown hlen⟩
  · rw [← BitView.toList_slice_len]
    exact ⟨_, decode_of_ensure h (by decide), SlotPayload.follows_read,
      SlotPayload.spells_read hhead hunknown⟩
  · rw [← BitView.toList_slice_of_le (Nat.sub_le f.len 20)]
    exact ⟨_, decode_of_ensure h (by decide), SlotPayload.follows_read,
      SlotPayload.spells_read hhead hunknown⟩

/-- One message of each kind, with three bits of data behind a name of zeros. -/
theorem data_behind_names_of_zeros :
    let addressed := Frame.ofBits (BitView.tabulate 91 fun i => [3, 4, 88, 90].contains i)
    let broadcast := Frame.ofBits (BitView.tabulate 59 fun i => [2, 56, 58].contains i)
    let single := Frame.ofBits (BitView.tabulate 89 fun i => [1, 2, 5, 38, 39, 86, 88].contains i)
    let multiple := Frame.ofBits (BitView.tabulate 109 fun i => [1, 2, 4, 38, 39, 86, 88].contains i)
    (∃ r, decode addressed = .ok (addressedBinary r) ∧ r.data.isStructured = true ∧
      r.data.Spells r.data.nameFields (addressed.bits.toList.drop 72)) ∧
    (∃ r, decode broadcast = .ok (binaryBroadcast r) ∧ r.data.isStructured = true ∧
      r.data.Spells r.data.nameFields (broadcast.bits.toList.drop 40)) ∧
    (∃ r, decode single = .ok (singleSlotBinary r) ∧ r.payload.Follows single.bits ∧
      r.payload.data.Spells r.payload.headFields (single.bits.toList.drop 40)) ∧
    ∃ r, decode multiple = .ok (multipleSlotBinary r) ∧ r.payload.Follows multiple.bits ∧
      r.payload.data.Spells r.payload.headFields ((multiple.bits.toList.take 89).drop 40) := by
  intro addressed broadcast single multiple
  have haddressed : addressed.ensure .addressedBinary = .ok () :=
    Frame.ensure_of_allows (by decide +kernel) (by decide)
  have hbroadcast : broadcast.ensure .binaryBroadcast = .ok () :=
    Frame.ensure_of_allows (by decide +kernel) (by decide)
  have hsingle : single.ensure .singleSlotBinary = .ok () :=
    Frame.ensure_of_allows (by decide +kernel) (by decide)
  have hmultiple : multiple.ensure .multipleSlotBinary = .ok () :=
    Frame.ensure_of_allows (by decide +kernel) (by decide)
  refine ⟨decode_spells_payload.1 haddressed ?_, decode_spells_payload.2.1 hbroadcast ?_,
    decode_spells_payload.2.2.1 hsingle ?_ ?_, decode_spells_payload.2.2.2 hmultiple ?_ ?_⟩ <;>
    decide +kernel

/-- A message of one slot tells a destination or the name of an application also where it is too
short for them: it has them exactly if they end before it does, as they do in one of 86 bits or more.
The bits that it lacks are zeros. -/
theorem singleSlotBinary_head (h : f.ensure .singleSlotBinary = .ok ()) :
    ∃ r, decode f = .ok (singleSlotBinary r) ∧ r.payload.Follows f.bits ∧
      (r.payload.IsHeld f.len ↔ SlotPayload.headEnd f.bits ≤ f.len) ∧
      (86 ≤ f.len → r.payload.IsHeld f.len) ∧
      BitField.bits r.payload.headFields
        = (f.bits.toList.take (SlotPayload.headEnd f.bits)).drop 40
          ++ List.replicate (SlotPayload.headEnd f.bits - f.len) false := by
  have hlen : 40 ≤ f.len := Frame.least_le_of_ensure h
  have hheld : (SingleSlotBinary.read f).payload.IsHeld f.len ↔ SlotPayload.headEnd f.bits ≤ f.len :=
    SlotPayload.isHeld_read hlen
  have hhead := (SlotPayload.head_bounds f.bits).2.2
  refine ⟨_, decode_of_ensure h (by decide), SlotPayload.follows_read, hheld, ?_,
    SlotPayload.bits_headFields_read hlen⟩
  intro hlong
  exact hheld.mpr (Nat.le_trans hhead hlong)

/-- The first ten bits of a name are there, and six zeros make it whole. -/
theorem cut_name_read_with_zeros :
    let f := Frame.ofBits (BitView.tabulate 80 fun i => [1, 2, 5, 38, 39, 78, 79].contains i)
    ∃ r, decode f = .ok (singleSlotBinary r) ∧ ¬ r.payload.IsHeld f.len ∧
      BitField.bits r.payload.headFields
        = List.replicate 38 false ++ [true, true] ++ List.replicate 6 false := by
  intro f
  have hensure : f.ensure .singleSlotBinary = .ok () :=
    Frame.ensure_of_allows (by decide +kernel) (by decide)
  obtain ⟨r, hdecode, -, hheld, -, hbits⟩ := singleSlotBinary_head hensure
  refine ⟨r, hdecode, ?_, ?_⟩
  · rw [hheld]
    decide +kernel
  · rw [hbits]
    decide +kernel

/-- A message that ends where its destination would begin goes to the station zero. -/
theorem missing_destination_told :
    let f := Frame.ofBits (BitView.tabulate 40 fun i => [1, 2, 5, 38].contains i)
    ∃ r, decode f = .ok (singleSlotBinary r) ∧ r.payload.destination = some 0 ∧
      ¬ r.payload.IsHeld f.len := by
  intro f
  have hensure : f.ensure .singleSlotBinary = .ok () :=
    Frame.ensure_of_allows (by decide +kernel) (by decide)
  have hdestination : (SingleSlotBinary.read f).payload.destination = some 0 := by decide +kernel
  refine ⟨_, decode_of_ensure hensure (by decide), hdestination, fun hheld => ?_⟩
  have hlong := hheld.destination (by rw [hdestination]; rfl)
  exact absurd hlong (by decide)

end Message
end VesselTraffic
