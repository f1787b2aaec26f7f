import VesselTraffic.Proofs.BitLists
import VesselTraffic.Proofs.Dispatch
import VesselTraffic.Proofs.Locality

/-!
# Lists of groups

Acknowledgements, slot reservations, assignments and interrogations end in groups of fields, as
many as their length has room for. The groups stand in slots, one behind the other, and they are
read up to the first slot that is not there as a whole. So what was written in the slots is read
back, whatever stands in the gaps before them and in the part of a slot at the end, and a message
that goes on reads at least the same groups.
-/
namespace VesselTraffic

/-! ### Groups -/

/-- The groups of fields that the lists are made of: a station is named together with the first
thing that it is asked for. -/
inductive GroupForm
  | acknowledged
  | reserved
  | assigned
  | station
  | request
  deriving DecidableEq, Repr

inductive MessageGroup
  | acknowledged (a : AcknowledgedMessage)
  | reserved (r : SlotReservation)
  | assigned (a : SlotAssignment)
  | station (mmsi : UInt32) (r : MessageRequest)
  | request (r : MessageRequest)
  deriving DecidableEq, Repr

namespace GroupForm

/-- The widths of the fields. -/
def widths : GroupForm → List Nat
  | acknowledged => [30, 2]
  | reserved => [12, 4, 3, 11]
  | assigned => [30, 12, 10]
  | station => [30, 6, 12]
  | request => [6, 12]

def width (form : GroupForm) : Nat := form.widths.sum

theorem width_pos (form : GroupForm) : 0 < form.width := by
  cases form <;> decide

def read (form : GroupForm) (v : BitView) (start : Nat) : MessageGroup :=
  match form with
  | acknowledged => .acknowledged (AcknowledgedMessage.decode v start)
  | reserved => .reserved (SlotReservation.decode v start)
  | assigned => .assigned (SlotAssignment.decode v start)
  | station => .station (v.uint32 0 30 start) (MessageRequest.decode v (start + 30))
  | request => .request (MessageRequest.decode v start)

end GroupForm

namespace MessageGroup

def form : MessageGroup → GroupForm
  | acknowledged _ => .acknowledged
  | reserved _ => .reserved
  | assigned _ => .assigned
  | station .. => .station
  | request _ => .request

def fields : MessageGroup → List BitField
  | acknowledged a => [⟨30, a.mmsi.toNat⟩, ⟨2, a.sequence.toNat⟩]
  | reserved r =>
    [⟨12, r.offset.toNat⟩, ⟨4, r.slots.toNat⟩, ⟨3, r.timeoutMinutes.toNat⟩, ⟨11, r.increment.toNat⟩]
  | assigned a => [⟨30, a.destination.toNat⟩, ⟨12, a.offset.toNat⟩, ⟨10, a.increment.toNat⟩]
  | station mmsi r => [⟨30, mmsi.toNat⟩, ⟨6, r.messageType.toNat⟩, ⟨12, r.slotOffset.toNat⟩]
  | request r => [⟨6, r.messageType.toNat⟩, ⟨12, r.slotOffset.toNat⟩]

/-- The fields of the group one behind the other. -/
def bits (g : MessageGroup) : List Bool := BitField.bits g.fields

/-- Every field has room for its value. -/
def Fits (g : MessageGroup) : Prop := ∀ e ∈ g.fields, e.Fits

instance (g : MessageGroup) : Decidable g.Fits := inferInstanceAs (Decidable (∀ e ∈ g.fields, e.Fits))

theorem widths_fields (g : MessageGroup) : g.fields.map BitField.width = g.form.widths := by
  cases g <;> rfl

theorem length_bits (g : MessageGroup) : g.bits.length = g.form.width := by
  rw [bits, BitField.length_bits, widths_fields, GroupForm.width]

/-- A group is known by its form and its fields. -/
theorem eq_of_fields {g g' : MessageGroup} (hform : g.form = g'.form) (h : g.fields = g'.fields) :
    g = g' := by
  cases g <;> cases g' <;> simp only [form, reduceCtorEq] at hform <;>
    simp only [fields, List.cons.injEq, BitField.mk.injEq, true_and, and_true, UInt8.toNat_inj,
      UInt16.toNat_inj, UInt32.toNat_inj] at h
  case acknowledged a a' =>
    cases a
    cases a'
    obtain ⟨rfl, rfl⟩ := h
    rfl
  case reserved r r' =>
    cases r
    cases r'
    obtain ⟨rfl, rfl, rfl, rfl⟩ := h
    rfl
  case assigned a a' =>
    cases a
    cases a'
    obtain ⟨rfl, rfl, rfl⟩ := h
    rfl
  case station mmsi r mmsi' r' =>
    cases r
    cases r'
    obtain ⟨rfl, rfl, rfl⟩ := h
    rfl
  case request r r' =>
    cases r
    cases r'
    obtain ⟨rfl, rfl⟩ := h
    rfl

end MessageGroup

namespace GroupForm

variable {v w : BitView} {form : GroupForm} {start : Nat} {g : MessageGroup}

@[simp] theorem form_read : (form.read v start).form = form := by
  cases form <;> rfl

/-- A group that is read has the numbers that stand there. -/
theorem fields_read : (form.read v start).fields = v.fields start form.widths := by
  cases form <;>
    simp only [read, MessageGroup.fields, widths, BitView.fields, AcknowledgedMessage.decode,
      SlotReservation.decode, SlotAssignment.decode, MessageRequest.decode, BitView.toNat_uint8,
      BitView.toNat_uint16, BitView.toNat_uint32, Nat.add_assoc, Nat.add_zero, Nat.reduceAdd]

/-- A group that was written is read back. -/
theorem read_of_holds (hform : g.form = form) (hfits : g.Fits) (h : v.Holds start g.bits) :
    form.read v start = g := by
  subst hform
  refine MessageGroup.eq_of_fields form_read ?_
  rw [fields_read, ← g.widths_fields]
  exact BitView.fields_of_holds hfits h

theorem fits_read : (form.read v start).Fits := by
  rw [MessageGroup.Fits, fields_read]
  exact BitView.fits_fields

/-- A group that was read, written again. -/
theorem bits_read : (form.read v start).bits = (v.slice start (start + form.width)).toList := by
  rw [MessageGroup.bits, fields_read, BitView.bits_fields]
  rfl

theorem read_congr (h : ∀ i, start ≤ i → i < start + form.width → v.bit i = w.bit i) :
    form.read v start = form.read w start := by
  refine MessageGroup.eq_of_fields (form_read.trans form_read.symm) ?_
  rw [fields_read, fields_read]
  exact BitView.fields_congr h

end GroupForm

/-! ### Slots -/

/-- A place for a group behind some spare bits. -/
structure GroupSlot where
  gap : Nat
  form : GroupForm
  deriving DecidableEq, Repr

def GroupSlot.width (s : GroupSlot) : Nat := s.gap + s.form.width

/-- The groups in some slots one behind the other, up to the first slot that the view does not
hold as a whole. -/
def BitView.groupsIn (v : BitView) : Nat → List GroupSlot → List MessageGroup
  | _, [] => []
  | position, s :: slots =>
    if position + s.width ≤ v.len then
      s.form.read v (position + s.gap) :: v.groupsIn (position + s.width) slots
    else []

/-- Some bits spell groups in slots: each group stands behind its gap, and behind the last one
there are fewer bits than the next slot has, or any if no slot is left. -/
inductive Spells : List GroupSlot → List MessageGroup → List Bool → Prop
  | full {tail : List Bool} : Spells [] [] tail
  | short {s : GroupSlot} {slots : List GroupSlot} {tail : List Bool} (short : tail.length < s.width) :
      Spells (s :: slots) [] tail
  | group {s : GroupSlot} {slots : List GroupSlot} {g : MessageGroup} {gs : List MessageGroup}
      {spare bs : List Bool} (gap : spare.length = s.gap) (form : g.form = s.form) (fits : g.Fits)
      (rest : Spells slots gs bs) : Spells (s :: slots) (g :: gs) (spare ++ g.bits ++ bs)

namespace BitView

variable {v w : BitView} {position : Nat} {slots : List GroupSlot}

/-- The groups that some bits spell are read from where these bits are the rest of the view. -/
theorem groupsIn_of_spells {gs : List MessageGroup} {bs : List Bool} (h : Spells slots gs bs)
    (hbits : v.toList.drop position = bs) : v.groupsIn position slots = gs := by
  have hlength : v.len - position = bs.length := by
    rw [← hbits, List.length_drop, length_toList]
  -- The rest of the spelling is what stands behind the slot, so the position moves on with it.
  induction h generalizing position with
  | full => rfl
  | short hshort => exact if_neg (by omega)
  | @group s slots g gs spare bs hgap hform hfits _ ih =>
    have hwidth : (spare ++ g.bits).length = s.width := by
      rw [List.length_append, hgap, g.length_bits, hform, GroupSlot.width]
    have hheld : v.Holds position (spare ++ g.bits) := holds_of_drop hbits
    have hread : s.form.read v (position + s.gap) = g :=
      GroupForm.read_of_holds hform hfits (hgap ▸ (holds_append.mp hheld).2)
    have hrest : v.toList.drop (position + s.width) = bs := by
      rw [← List.drop_drop, hbits, ← hwidth, List.drop_left]
    rw [List.length_append, hwidth] at hlength
    have hpos := s.form.width_pos
    have hroom : position + s.width ≤ v.len := by
      rw [GroupSlot.width] at hlength ⊢
      omega
    rw [groupsIn, if_pos hroom, hread, ih hrest (by omega)]

/-- The rest of a view spells the groups that are read from it. -/
theorem spells_groupsIn (h : position ≤ v.len) :
    Spells slots (v.groupsIn position slots) (v.toList.drop position) := by
  induction slots generalizing position with
  | nil => exact .full
  | cons s slots ih =>
    -- Either the slot is there and is cut off from the rest, or the rest is the tail.
    by_cases hheld : position + s.width ≤ v.len
    · have hslot : (v.slice position (position + s.width)).toList
          = (v.slice position (position + s.gap)).toList
            ++ (s.form.read v (position + s.gap)).bits := by
        rw [GroupForm.bits_read, Nat.add_assoc]
        exact toList_slice_append (Nat.le_add_right _ _) (by rw [GroupSlot.width]; omega)
      have hgap : (v.slice position (position + s.gap)).toList.length = s.gap := by
        rw [length_toList_slice, Nat.add_sub_cancel_left]
      rw [groupsIn, if_pos hheld, drop_toList (Nat.le_add_right _ _) hheld, hslot]
      exact .group hgap GroupForm.form_read GroupForm.fits_read (ih hheld)
    · rw [groupsIn, if_neg hheld]
      refine .short ?_
      rw [List.length_drop, length_toList]
      omega

/-- A view that goes on where another one ends has at least the same groups. -/
theorem groupsIn_mono (hlen : v.len ≤ w.len) (hbit : ∀ i, i < v.len → v.bit i = w.bit i) :
    v.groupsIn position slots <+: w.groupsIn position slots := by
  induction slots generalizing position with
  | nil => exact List.prefix_rfl
  | cons s slots ih =>
    unfold groupsIn
    by_cases hheld : position + s.width ≤ v.len
    · have hread : s.form.read v (position + s.gap) = s.form.read w (position + s.gap) := by
        refine GroupForm.read_congr fun i _ hi => hbit i ?_
        rw [GroupSlot.width] at hheld
        omega
      rw [if_pos hheld, if_pos (by omega), hread]
      exact (List.prefix_cons_inj _).mpr ih
    · rw [if_neg hheld]
      exact List.nil_prefix

end BitView

/-! ### Messages that end in groups -/

namespace MessageKind

/-- The kinds whose messages end in groups. -/
def grouped : List MessageKind :=
  [binaryAcknowledge, safetyAcknowledge, interrogation, modeAssignment, linkManagement]

/-- The slots for groups, the first one right behind the header. -/
def slots : MessageKind → List GroupSlot
  | binaryAcknowledge | safetyAcknowledge => ⟨2, .acknowledged⟩ :: List.replicate 3 ⟨0, .acknowledged⟩
  | linkManagement => ⟨2, .reserved⟩ :: List.replicate 3 ⟨0, .reserved⟩
  | modeAssignment => [⟨2, .assigned⟩, ⟨0, .assigned⟩]
  | interrogation => [⟨2, .station⟩, ⟨2, .request⟩, ⟨2, .station⟩]
  | _ => []

end MessageKind

def InterrogatedStation.groups (s : InterrogatedStation) : List MessageGroup :=
  .station s.mmsi s.first :: (s.second.map .request).toList

namespace Message

/-- The groups that a message tells, in their order. -/
def groups : Message → List MessageGroup
  | binaryAcknowledge r | safetyAcknowledge r => r.acknowledged.map .acknowledged
  | linkManagement r => r.reservations.map .reserved
  | modeAssignment r => .assigned r.first :: (r.second.map .assigned).toList
  | interrogation r => r.station1.groups ++ (r.station2.map InterrogatedStation.groups).getD []
  | _ => []

end Message

namespace BitView

variable {v : BitView} {start width most : Nat}

theorem groups_zero {α : Type} (read : Nat → α) : v.groups start width 0 read = [] := by
  rw [groups, groupCount, Nat.zero_min]
  rfl

theorem groups_succ {α : Type} (read : Nat → α) (hwidth : 0 < width) :
    v.groups start width (most + 1) read =
      if start + width ≤ v.len then read start :: v.groups (start + width) width most read else [] := by
  split
  case isTrue h =>
    have hcount : v.groupCount start width (most + 1) = v.groupCount (start + width) width most + 1 := by
      have hrest : v.len - start = v.len - (start + width) + width := by omega
      rw [groupCount, groupCount, hrest, Nat.add_div_right _ hwidth]
      omega
    have hnext : (fun i => read (start + width * i)) ∘ Nat.succ
        = fun i => read (start + width + width * i) := by
      funext i
      rw [Function.comp_apply, Nat.mul_succ, Nat.add_assoc, Nat.add_comm width]
    rw [groups, groups, hcount, List.range_succ_eq_map, List.map_cons, List.map_map, hnext]
    rfl
  case isFalse h =>
    have hcount : v.groupCount start width (most + 1) = 0 := by
      rw [groupCount, Nat.div_eq_of_lt (by omega), Nat.min_zero]
    rw [groups, hcount]
    rfl

theorem map_groups {α β : Type} (f : α → β) (read : Nat → α) :
    (v.groups start width most read).map f = v.groups start width most fun i => f (read i) := by
  rw [groups, groups, List.map_map]
  rfl

/-- Groups of one form are those in slots without gaps. -/
theorem groupsIn_replicate (form : GroupForm) (most position : Nat) :
    v.groupsIn position (List.replicate most ⟨0, form⟩)
      = v.groups position form.width most (form.read v) := by
  induction most generalizing position with
  | zero =>
    rw [groups_zero]
    rfl
  | succ most ih =>
    rw [groups_succ _ form.width_pos, List.replicate_succ, groupsIn, ih, GroupSlot.width,
      Nat.zero_add]
    rfl

/-- Nor does it matter that the first one stands behind a gap. -/
theorem groupsIn_gap_replicate (gap most position : Nat) (form : GroupForm) :
    v.groupsIn position (⟨gap, form⟩ :: List.replicate most ⟨0, form⟩)
      = v.groups (position + gap) form.width (most + 1) (form.read v) := by
  rw [groups_succ _ form.width_pos, groupsIn, groupsIn_replicate, GroupSlot.width, Nat.add_assoc]

end BitView

/-! ### Headers -/

namespace Header

def fields (h : Header) : List BitField :=
  [⟨6, h.messageType.toNat⟩, ⟨2, h.repeatIndicator.toNat⟩, ⟨30, h.mmsi.toNat⟩]

/-- Every field has room for its value. -/
def Fits (h : Header) : Prop := ∀ e ∈ h.fields, e.Fits

instance (h : Header) : Decidable h.Fits := inferInstanceAs (Decidable (∀ e ∈ h.fields, e.Fits))

theorem eq_of_fields {h h' : Header} (heq : h.fields = h'.fields) : h = h' := by
  simp only [fields, List.cons.injEq, BitField.mk.injEq, true_and, and_true, UInt8.toNat_inj,
    UInt32.toNat_inj] at heq
  cases h
  cases h'
  obtain ⟨rfl, rfl, rfl⟩ := heq
  rfl

end Header

namespace Frame

variable {f : Frame} {h : Header}

theorem fields_header (f : Frame) : f.header.fields = f.bits.fields 0 [6, 2, 30] := by
  simp only [header, code, Header.fields, BitView.fields, BitView.toNat_uint8, BitView.toNat_uint32,
    Nat.zero_add, Nat.reduceAdd]

/-- A header that was written is read back. -/
theorem header_of_holds (hfits : h.Fits) (hheld : f.bits.Holds 0 (BitField.bits h.fields)) :
    f.header = h := by
  refine Header.eq_of_fields ?_
  rw [fields_header]
  exact BitView.fields_of_holds hfits hheld

theorem fits_header (f : Frame) : f.header.Fits := by
  rw [Header.Fits, fields_header]
  exact BitView.fits_fields

/-- A header that was read, written again. -/
theorem bits_header (f : Frame) : BitField.bits f.header.fields = (f.bits.slice 0 38).toList := by
  rw [fields_header, BitView.bits_fields]
  rfl

end Frame

namespace Message

open MessageKind (grouped)

variable {f g : Frame} {kind : MessageKind}

/-- The lengths from which on the parts of an interrogation are read are where their slots end. -/
theorem groups_interrogation (hlen : 88 ≤ f.len) :
    groups (interrogation (Interrogation.read f))
      = f.bits.groupsIn 38 MessageKind.interrogation.slots := by
  have hfirst : 38 + GroupSlot.width ⟨2, .station⟩ ≤ f.bits.len := hlen
  have hsecond : 38 + GroupSlot.width ⟨2, .station⟩ + GroupSlot.width ⟨2, .request⟩ = 108 := rfl
  have hthird : 108 + GroupSlot.width ⟨2, .station⟩ = 158 := rfl
  simp only [MessageKind.slots, BitView.groupsIn, if_pos hfirst, hsecond, hthird, groups,
    InterrogatedStation.groups, Interrogation.read]
  by_cases h108 : 108 ≤ f.bits.len
  · by_cases h158 : 158 ≤ f.bits.len
    · rw [if_pos h108, if_pos h158, if_pos h108, if_pos h158]
      rfl
    · rw [if_pos h108, if_neg h158, if_pos h108, if_neg h158]
      rfl
  · rw [if_neg h108, if_neg (by omega), if_neg h108]
    rfl

theorem groups_modeAssignment (hlen : 92 ≤ f.len) :
    groups (modeAssignment (ModeAssignment.read f))
      = f.bits.groupsIn 38 MessageKind.modeAssignment.slots := by
  have hfirst : 38 + GroupSlot.width ⟨2, .assigned⟩ ≤ f.bits.len := hlen
  have hsecond : 38 + GroupSlot.width ⟨2, .assigned⟩ + GroupSlot.width ⟨0, .assigned⟩ = 144 := rfl
  simp only [MessageKind.slots, BitView.groupsIn, if_pos hfirst, hsecond, groups, ModeAssignment.read]
  by_cases h144 : 144 ≤ f.bits.len
  · rw [if_pos h144, if_pos h144]
    rfl
  · rw [if_neg h144, if_neg h144]
    rfl

/-- A message that ends in groups tells those that its frame holds in the slots of its kind. -/
theorem groups_readAs (hkind : kind ∈ grouped) (hlen : kind.bounds.least ≤ f.len) :
    (readAs kind f).groups = f.bits.groupsIn 38 kind.slots := by
  simp only [grouped, List.mem_cons, List.not_mem_nil, or_false] at hkind
  rcases hkind with rfl | rfl | rfl | rfl | rfl
  · exact (BitView.map_groups _ _).trans (BitView.groupsIn_gap_replicate 2 3 38 .acknowledged).symm
  · exact (BitView.map_groups _ _).trans (BitView.groupsIn_gap_replicate 2 3 38 .acknowledged).symm
  · exact groups_interrogation hlen
  · exact groups_modeAssignment (Nat.le_trans (by decide) hlen)
  · exact (BitView.map_groups _ _).trans (BitView.groupsIn_gap_replicate 2 3 38 .reserved).symm

theorem ne_staticData_of_grouped (hkind : kind ∈ grouped) : kind ≠ .staticData := by
  rintro rfl
  contradiction

theorem decode_of_allows (hkind : kind ∈ grouped) (hcode : f.code = kind.code)
    (hlen : kind.bounds.allows f.len) : decode f = .ok (readAs kind f) :=
  decode_of_ensure (Frame.ensure_of_allows hcode hlen) (ne_staticData_of_grouped hkind)

/-- A frame of a kind that ends in groups decodes as a header and groups exactly if its bits are
those of the header, and behind them spell the groups. -/
theorem decode_iff_spells {h : Header} {gs : List MessageGroup} (hkind : kind ∈ grouped)
    (hlen : kind.bounds.allows f.len) (htype : h.messageType = kind.code) :
    (∃ m, decode f = .ok m ∧ kind ∈ m.kinds ∧ m.header = h ∧ m.groups = gs) ↔
      h.Fits ∧ ∃ bs, f.bits.toList = BitField.bits h.fields ++ bs ∧ Spells kind.slots gs bs := by
  have hbounds := LengthBounds.allows_iff.mp hlen
  constructor
  · rintro ⟨m, hm, -, hheader, hgroups⟩
    obtain ⟨kind', hcode, -, rfl⟩ := exists_admits_of_decode hm
    rw [header_readAs] at hheader
    have hsame : kind' = kind :=
      MessageKind.code_injective (hcode.trans ((congrArg Header.messageType hheader).trans htype))
    have hlong : 38 ≤ f.bits.len := Nat.le_trans (kind.header_le_least) hbounds.1
    subst hsame hheader hgroups
    rw [groups_readAs hkind hbounds.1]
    refine ⟨f.fits_header, f.bits.toList.drop 38, ?_, BitView.spells_groupsIn hlong⟩
    rw [f.bits_header]
    exact BitView.drop_toList (Nat.zero_le 38) hlong
  · rintro ⟨hfits, bs, hbits, hspells⟩
    have hheader : f.header = h := Frame.header_of_holds hfits (BitView.holds_of_drop hbits)
    have hcode : f.code = kind.code := (congrArg Header.messageType hheader).trans htype
    have hwidth : (BitField.bits h.fields).length = 38 := BitField.length_bits h.fields
    refine ⟨readAs kind f, decode_of_allows hkind hcode hlen, mem_kinds_readAs kind f,
      (header_readAs kind f).trans hheader, ?_⟩
    rw [groups_readAs hkind hbounds.1]
    refine BitView.groupsIn_of_spells hspells ?_
    rw [hbits, ← hwidth, List.drop_left]

/-- A message that goes on where another one ends has at least the same groups. -/
theorem groups_mono (hkind : kind ∈ grouped) (hcode : f.code = kind.code)
    (hf : kind.bounds.allows f.len) (hg : kind.bounds.allows g.len)
    (hbits : f.bits.toList <+: g.bits.toList) :
    ∃ m m', decode f = .ok m ∧ decode g = .ok m' ∧ m.groups <+: m'.groups := by
  have hleast := (LengthBounds.allows_iff.mp hf).1
  have hlong := Nat.le_trans kind.header_le_least hleast
  have hbit : ∀ i, i < f.bits.len → f.bits.bit i = g.bits.bit i := fun i hi =>
    BitView.bit_eq_of_isPrefix hbits hi
  -- The longer frame is of the same kind, since its first six bits are the same.
  have hcodes : f.code = g.code := by
    rw [← UInt8.toNat_inj, toNat_code, toNat_code]
    refine BitView.unsigned_congr rfl fun i hi => hbit (0 + i) ?_
    rw [Frame.len] at hlong
    omega
  refine ⟨_, _, decode_of_allows hkind hcode hf, decode_of_allows hkind (hcodes ▸ hcode) hg, ?_⟩
  rw [groups_readAs hkind hleast, groups_readAs hkind (LengthBounds.allows_iff.mp hg).1]
  exact BitView.groupsIn_mono (BitView.len_le_of_isPrefix hbits) hbit

/-- Of a message that ends in groups every length that its kind allows is read, as the header and
the groups that the bits spell and as nothing else. If the message goes on, the groups that it
told before are told again, and first. -/
theorem groups_read_back (hkind : kind ∈ grouped) :
    (∀ (f : Frame) (h : Header) (gs : List MessageGroup), h.messageType = kind.code →
      kind.bounds.allows f.len →
      ((∃ m, decode f = .ok m ∧ kind ∈ m.kinds ∧ m.header = h ∧ m.groups = gs) ↔
        h.Fits ∧ ∃ bs, f.bits.toList = BitField.bits h.fields ++ bs ∧ Spells kind.slots gs bs)) ∧
    (∀ f g : Frame, f.code = kind.code → kind.bounds.allows f.len → kind.bounds.allows g.len →
      f.bits.toList <+: g.bits.toList →
      ∃ m m', decode f = .ok m ∧ decode g = .ok m' ∧ m.groups <+: m'.groups) := by
  refine ⟨fun f h gs htype hlen => decode_iff_spells hkind hlen htype, ?_⟩
  intro f g hcode hf hg hbits
  exact groups_mono hkind hcode hf hg hbits

/-- Two requests to one station and the greater part of a second station, and the same bits
with the rest of it. -/
theorem cut_interrogation_read_back :
    let h : Header := ⟨15, 0, 123456789⟩
    let first : MessageGroup := .station 234567890 ⟨3, 0⟩
    let second : MessageGroup := .request ⟨5, 100⟩
    let bs := [true, false] ++ first.bits ++ ([false, true] ++ second.bits ++ List.replicate 30 true)
    let whole := BitField.bits h.fields ++ bs
    let f := Frame.ofBits (BitView.ofList whole)
    let g := Frame.ofBits (BitView.ofList (whole ++ List.replicate 20 true))
    (∃ m, decode f = .ok m ∧ MessageKind.interrogation ∈ m.kinds ∧ m.header = h ∧
      m.groups = [first, second]) ∧
    ∃ m m', decode f = .ok m ∧ decode g = .ok m' ∧ m.groups <+: m'.groups := by
  intro h first second bs whole f g
  have hkind : MessageKind.interrogation ∈ grouped := by decide
  obtain ⟨hread, hgoes⟩ := groups_read_back hkind
  have hf : f.bits.toList = whole := BitView.toList_ofList whole
  have hg : g.bits.toList = whole ++ List.replicate 20 true := BitView.toList_ofList _
  have hspells : Spells MessageKind.interrogation.slots [first, second] bs :=
    .group rfl rfl (by decide) (.group rfl rfl (by decide) (.short (by decide)))
  constructor
  · exact (hread f h [first, second] rfl (by decide +kernel)).mpr ⟨by decide, bs, hf, hspells⟩
  · refine hgoes f g (by decide +kernel) (by decide +kernel) (by decide +kernel) ?_
    rw [hf, hg]
    exact List.prefix_append _ _

end Message

end VesselTraffic
