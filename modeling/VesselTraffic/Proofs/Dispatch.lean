import Mathlib.Tactic.Common
import VesselTraffic.Message

/-!
# Which frames decode

A frame decodes if its first six bits name a kind and its length is one that the kind
allows; static data must have a known part besides. Nothing else in a frame makes it
refused, and the refusal says which of the two is missing.
-/
namespace VesselTraffic

theorem LengthBounds.allows_iff {b : LengthBounds} {len : Nat} :
    b.allows len ↔ b.least ≤ len ∧ len ≤ b.most := by
  simp [allows]

namespace MessageKind

theorem ofCode?_eq_some_iff {code : UInt8} {kind : MessageKind} :
    ofCode? code = some kind ↔ kind.code = code := by
  constructor
  · intro h
    simpa using List.find?_some h
  · rintro rfl
    exact ofCode?_code kind

theorem code_injective {kind kind' : MessageKind} (h : kind.code = kind'.code) : kind = kind' :=
  Option.some.inj ((ofCode?_code kind).symm.trans (ofCode?_eq_some_iff.mpr h.symm))

theorem code_bounds (kind : MessageKind) : 1 ≤ kind.code.toNat ∧ kind.code.toNat ≤ 27 := by
  cases kind <;> decide

/-- Every length that some kind allows has room for a header. -/
theorem header_le_least (kind : MessageKind) : 38 ≤ kind.bounds.least := by
  cases kind <;> decide

theorem exists_code_eq {n : Nat} (h : 1 ≤ n ∧ n ≤ 27) : ∃ kind : MessageKind, kind.code.toNat = n := by
  have key : ∀ i : Fin 28, 1 ≤ i.val → ∃ kind ∈ all, kind.code.toNat = i.val := by decide
  obtain ⟨kind, -, hkind⟩ := key ⟨n, by omega⟩ h.1
  exact ⟨kind, hkind⟩

end MessageKind

namespace Frame

theorem ensure_of_allows {f : Frame} {kind : MessageKind} (hcode : f.code = kind.code)
    (h : kind.bounds.allows f.len) : f.ensure kind = .ok () := by
  simp [ensure, hcode, h]

theorem ensure_of_not_allows {f : Frame} {kind : MessageKind} (hcode : f.code = kind.code)
    (h : ¬ kind.bounds.allows f.len) :
    f.ensure kind = .error (.invalidFrame kind.code (.wrongLength kind.bounds f.len)) := by
  simp [ensure, hcode, h, refuse]

theorem ensure_eq_ok_iff {f : Frame} {kind : MessageKind} :
    f.ensure kind = .ok () ↔ f.code = kind.code ∧ kind.bounds.allows f.len := by
  constructor
  · intro h
    by_cases hcode : f.code = kind.code
    · refine ⟨hcode, ?_⟩
      by_contra hallows
      rw [ensure_of_not_allows hcode hallows] at h
      contradiction
    · rw [ensure, if_pos hcode] at h
      contradiction
  · rintro ⟨hcode, hallows⟩
    exact ensure_of_allows hcode hallows

theorem least_le_of_ensure {f : Frame} {kind : MessageKind} (h : f.ensure kind = .ok ()) :
    kind.bounds.least ≤ f.len :=
  (LengthBounds.allows_iff.mp (ensure_eq_ok_iff.mp h).2).1

end Frame

namespace Message

/-- The kinds whose messages have the form of this one. -/
def kinds : Message → List MessageKind
  | classA _ => [.scheduledPosition, .assignedPosition, .polledPosition]
  | baseStation _ => [.baseStation]
  | voyageData _ => [.voyageData]
  | addressedBinary _ => [.addressedBinary]
  | binaryAcknowledge _ => [.binaryAcknowledge]
  | binaryBroadcast _ => [.binaryBroadcast]
  | aircraft _ => [.aircraftPosition]
  | timeInquiry _ => [.timeInquiry]
  | timeResponse _ => [.timeResponse]
  | addressedSafety _ => [.addressedSafety]
  | safetyAcknowledge _ => [.safetyAcknowledge]
  | safetyBroadcast _ => [.safetyBroadcast]
  | interrogation _ => [.interrogation]
  | modeAssignment _ => [.modeAssignment]
  | corrections _ => [.corrections]
  | classB _ => [.classBPosition]
  | extendedClassB _ => [.extendedClassB]
  | linkManagement _ => [.linkManagement]
  | navigationAid _ => [.navigationAid]
  | channelManagement _ => [.channelManagement]
  | groupAssignment _ => [.groupAssignment]
  | staticData _ => [.staticData]
  | singleSlotBinary _ => [.singleSlotBinary]
  | multipleSlotBinary _ => [.multipleSlotBinary]
  | longRange _ => [.longRange]

end Message

/-- The fields of static data, of the second part unless the part number is zero. -/
def StaticData.read (f : Frame) : StaticData :=
  ⟨f.header, if f.bits.unsigned 38 40 = 0 then .a (f.bits.text 40 160)
    else .b (PartB.read f.bits f.header.mmsi)⟩

namespace Message

/-- The message of a kind that the bits of a frame make, before any check. -/
def readAs (kind : MessageKind) (f : Frame) : Message :=
  match kind with
  | .scheduledPosition | .assignedPosition | .polledPosition => classA (ClassAReport.read f kind)
  | .baseStation => baseStation (BaseStationReport.read f)
  | .voyageData => voyageData (VoyageData.read f)
  | .addressedBinary => addressedBinary (AddressedBinary.read f)
  | .binaryAcknowledge => binaryAcknowledge (Acknowledgement.read f)
  | .binaryBroadcast => binaryBroadcast (BinaryBroadcast.read f)
  | .aircraftPosition => aircraft (AircraftReport.read f)
  | .timeInquiry => timeInquiry (TimeInquiry.read f)
  | .timeResponse => timeResponse (BaseStationReport.read f)
  | .addressedSafety => addressedSafety (AddressedSafety.read f)
  | .safetyAcknowledge => safetyAcknowledge (Acknowledgement.read f)
  | .safetyBroadcast => safetyBroadcast (SafetyBroadcast.read f)
  | .interrogation => interrogation (Interrogation.read f)
  | .modeAssignment => modeAssignment (ModeAssignment.read f)
  | .corrections => corrections (Corrections.read f)
  | .classBPosition => classB (ClassBReport.read f)
  | .extendedClassB => extendedClassB (ExtendedClassBReport.read f)
  | .linkManagement => linkManagement (LinkManagement.read f)
  | .navigationAid => navigationAid (NavigationAid.read f)
  | .channelManagement => channelManagement (ChannelManagement.read f)
  | .groupAssignment => groupAssignment (GroupAssignment.read f)
  | .staticData => staticData (StaticData.read f)
  | .singleSlotBinary => singleSlotBinary (SingleSlotBinary.read f)
  | .multipleSlotBinary => multipleSlotBinary (MultipleSlotBinary.read f)
  | .longRange => longRange (LongRangeReport.read f)

theorem mem_kinds_readAs (kind : MessageKind) (f : Frame) : kind ∈ (readAs kind f).kinds := by
  cases kind <;> simp [readAs, kinds]

@[simp] theorem header_readAs (kind : MessageKind) (f : Frame) :
    (readAs kind f).header = f.header := by
  cases kind <;> rfl

/-- Reading fields after a check refuses nothing more. -/
theorem map_read_after {α β : Type} (check : Except Refusal Unit) (a : α) (g : α → β) :
    (do check; return a : Except Refusal α).map g = check.map fun _ => g a := by
  cases check <;> rfl

/-- Every kind but static data decodes as soon as the frame passes the check for it. -/
theorem decodeAs_eq_ensure {f : Frame} {kind : MessageKind} (hcode : f.code = kind.code)
    (hkind : kind ≠ .staticData) :
    decodeAs kind f = (f.ensure kind).map fun _ => readAs kind f := by
  cases kind with
  | staticData => exact absurd rfl hkind
  | scheduledPosition | assignedPosition | polledPosition =>
    simp only [decodeAs, ClassAReport.decode, hcode]
    exact map_read_after _ _ _
  | baseStation | timeResponse =>
    simp only [decodeAs, BaseStationReport.decode, hcode]
    exact map_read_after _ _ _
  | binaryAcknowledge | safetyAcknowledge =>
    simp only [decodeAs, Acknowledgement.decode, hcode]
    exact map_read_after _ _ _
  | _ => exact map_read_after _ _ _

/-- What a kind asks of a frame besides its code: a length within bounds, and of static
data one of its two parts, the second one at its only length. -/
structure Admits (kind : MessageKind) (v : BitView) : Prop where
  length : kind.bounds.least ≤ v.len ∧ v.len ≤ kind.bounds.most
  part : kind = .staticData → v.unsigned 38 40 = 0 ∨ v.unsigned 38 40 = 1 ∧ v.len = 168

theorem decodeAs_of_admits {f : Frame} {kind : MessageKind} (hcode : f.code = kind.code)
    (h : Admits kind f.bits) : decodeAs kind f = .ok (readAs kind f) := by
  have hensure := Frame.ensure_of_allows hcode (LengthBounds.allows_iff.mpr h.length)
  by_cases hkind : kind = .staticData
  · subst hkind
    have hdecode : StaticData.decode f = .ok (StaticData.read f) := by
      simp only [StaticData.decode, hensure, bind, Except.bind]
      rcases h.part rfl with hzero | ⟨hone, hlen⟩
      · simp [StaticData.read, hzero, pure, Except.pure]
      · simp [StaticData.read, hone, Frame.len, hlen, PartB.bits, pure, Except.pure]
    rw [decodeAs, hdecode]
    rfl
  · rw [decodeAs_eq_ensure hcode hkind, hensure]
    rfl

theorem decodeAs_of_not_admits {f : Frame} {kind : MessageKind} (hcode : f.code = kind.code)
    (h : ¬ Admits kind f.bits) :
    ∃ flaw, decodeAs kind f = .error (.invalidFrame kind.code flaw) := by
  by_cases hlength : kind.bounds.allows f.len
  · have hensure := Frame.ensure_of_allows hcode hlength
    have hpart := mt (Admits.mk (LengthBounds.allows_iff.mp hlength)) h
    simp only [Classical.not_imp, not_or, not_and] at hpart
    obtain ⟨rfl, hzero, hone⟩ := hpart
    have hdecode : ∃ flaw, StaticData.decode f = .error (.invalidFrame 24 flaw) := by
      simp only [StaticData.decode, hensure, bind, Except.bind, if_neg hzero]
      split_ifs with hnumber hlen
      · exact absurd hlen (hone hnumber)
      · exact ⟨_, rfl⟩
      · exact ⟨_, rfl⟩
    obtain ⟨flaw, hdecode⟩ := hdecode
    exact ⟨flaw, by rw [decodeAs, hdecode]; rfl⟩
  · have hensure := Frame.ensure_of_not_allows hcode hlength
    by_cases hkind : kind = .staticData
    · subst hkind
      exact ⟨_, by rw [decodeAs, StaticData.decode, hensure]; rfl⟩
    · exact ⟨_, by rw [decodeAs_eq_ensure hcode hkind, hensure]; rfl⟩

theorem decode_of_code {f : Frame} {kind : MessageKind} (hcode : kind.code = f.code) :
    decode f = decodeAs kind f := by
  rw [decode, Frame.kind, MessageKind.ofCode?_eq_some_iff.mpr hcode]
  rfl

theorem decode_of_ensure {f : Frame} {kind : MessageKind} (h : f.ensure kind = .ok ())
    (hkind : kind ≠ .staticData) : decode f = .ok (readAs kind f) := by
  obtain ⟨hcode, hlen⟩ := Frame.ensure_eq_ok_iff.mp h
  rw [decode_of_code hcode.symm]
  exact decodeAs_of_admits hcode
    ⟨LengthBounds.allows_iff.mp hlen, fun hstatic => absurd hstatic hkind⟩

theorem decode_of_no_kind {f : Frame} (h : ∀ kind : MessageKind, kind.code ≠ f.code) :
    decode f = .error (.unsupportedKind f.code) := by
  have hnone : MessageKind.ofCode? f.code = none := by
    rw [Option.eq_none_iff_forall_ne_some]
    intro kind hkind
    exact h kind (MessageKind.ofCode?_eq_some_iff.mp hkind)
  rw [decode, Frame.kind, hnone]
  rfl

/-- The code of a frame is the number in the first six bits, zeros standing for those
behind the end. -/
@[simp] theorem toNat_code (f : Frame) : f.code.toNat = f.bits.unsigned 0 6 :=
  f.bits.toNat_uint8 0 6 0 rfl

/-- What a view must satisfy for its frame to decode. -/
structure Decodable (v : BitView) : Prop where
  code : 1 ≤ v.unsigned 0 6 ∧ v.unsigned 0 6 ≤ 27
  length : ∀ kind : MessageKind, kind.code.toNat = v.unsigned 0 6 →
    kind.bounds.least ≤ v.len ∧ v.len ≤ kind.bounds.most
  part : v.unsigned 0 6 = 24 → v.unsigned 38 40 = 0 ∨ v.unsigned 38 40 = 1 ∧ v.len = 168

theorem decodable_iff_admits {v : BitView} {kind : MessageKind}
    (hcode : kind.code.toNat = v.unsigned 0 6) : Decodable v ↔ Admits kind v := by
  have hstatic : v.unsigned 0 6 = 24 ↔ kind = .staticData := by
    rw [← hcode]
    cases kind <;> simp [MessageKind.code]
  have hunique : ∀ kind' : MessageKind, kind'.code.toNat = v.unsigned 0 6 → kind' = kind := by
    intro kind' hkind'
    exact MessageKind.code_injective (UInt8.toNat_inj.mp (hkind'.trans hcode.symm))
  constructor
  · intro h
    exact ⟨h.length kind hcode, fun hkind => h.part (hstatic.mpr hkind)⟩
  · intro h
    refine ⟨hcode ▸ kind.code_bounds, ?_, fun hcode => h.part (hstatic.mp hcode)⟩
    intro kind' hkind'
    rw [hunique kind' hkind']
    exact h.length

theorem decode_of_decodable {f : Frame} (h : Decodable f.bits) :
    ∃ kind : MessageKind, kind.code = f.code ∧ decode f = .ok (readAs kind f) := by
  obtain ⟨kind, hkind⟩ := MessageKind.exists_code_eq h.code
  have hcode : kind.code = f.code := UInt8.toNat_inj.mp (hkind.trans (toNat_code f).symm)
  refine ⟨kind, hcode, ?_⟩
  rw [decode_of_code hcode, decodeAs_of_admits hcode.symm ((decodable_iff_admits hkind).mp h)]

theorem decode_of_not_decodable {f : Frame} (h : ¬ Decodable f.bits) :
    ∃ r, decode f = .error r ∧
      (1 ≤ f.code.toNat ∧ f.code.toNat ≤ 27 → ∃ flaw, r = .invalidFrame f.code flaw) ∧
      (¬ (1 ≤ f.code.toNat ∧ f.code.toNat ≤ 27) → r = .unsupportedKind f.code) := by
  by_cases hrange : 1 ≤ f.code.toNat ∧ f.code.toNat ≤ 27
  · obtain ⟨kind, hkind⟩ := MessageKind.exists_code_eq hrange
    have hcode : kind.code = f.code := UInt8.toNat_inj.mp hkind
    have hadmits := mt (decodable_iff_admits (hkind.trans (toNat_code f))).mpr h
    obtain ⟨flaw, hflaw⟩ := decodeAs_of_not_admits hcode.symm hadmits
    rw [decode_of_code hcode, hflaw]
    exact ⟨_, rfl, fun _ => ⟨flaw, by rw [hcode]⟩, fun hno => absurd hrange hno⟩
  · have hkinds : ∀ kind : MessageKind, kind.code ≠ f.code :=
      fun kind hkind => hrange (hkind ▸ kind.code_bounds)
    exact ⟨_, decode_of_no_kind hkinds, fun hyes => absurd hyes hrange, fun _ => rfl⟩

/-- A decoded message was read as the kind that its frame names, which admits the frame. -/
theorem exists_admits_of_decode {f : Frame} {m : Message} (h : decode f = .ok m) :
    ∃ kind : MessageKind, kind.code = f.code ∧ Admits kind f.bits ∧ m = readAs kind f := by
  by_cases hdecodable : Decodable f.bits
  · obtain ⟨kind, hcode, hok⟩ := decode_of_decodable hdecodable
    have hadmits := (decodable_iff_admits ((congrArg UInt8.toNat hcode).trans (toNat_code f))).mp
      hdecodable
    exact ⟨kind, hcode, hadmits, Except.ok.inj (h.symm.trans hok)⟩
  · obtain ⟨r, hr, -⟩ := decode_of_not_decodable hdecodable
    rw [h] at hr
    contradiction

/-- A frame around some bits decodes exactly when they are decodable, and then as the
form that is registered for the number in its first six bits. Refused is a number that
names no kind, or else a frame that does not fit its kind. -/
theorem decode_ofBits (v : BitView) :
    ((∃ m, decode (Frame.ofBits v) = .ok m) ↔ Decodable v) ∧
    (∀ r, decode (Frame.ofBits v) = .error r →
      (1 ≤ v.unsigned 0 6 ∧ v.unsigned 0 6 ≤ 27 →
        ∃ flaw, r = .invalidFrame (UInt8.ofNat (v.unsigned 0 6)) flaw) ∧
      (¬ (1 ≤ v.unsigned 0 6 ∧ v.unsigned 0 6 ≤ 27) →
        r = .unsupportedKind (UInt8.ofNat (v.unsigned 0 6)))) ∧
    (∀ m, decode (Frame.ofBits v) = .ok m →
      m.header.messageType.toNat = v.unsigned 0 6 ∧
      m.header.repeatIndicator.toNat = v.unsigned 6 8 ∧
      m.header.mmsi.toNat = v.unsigned 8 38 ∧
      ∃ kind ∈ m.kinds, kind.code.toNat = v.unsigned 0 6) := by
  have hcode : (Frame.ofBits v).code = UInt8.ofNat (v.unsigned 0 6) := by
    rw [← UInt8.ofNat_toNat (x := (Frame.ofBits v).code), toNat_code]
    rfl
  by_cases h : Decodable v
  · obtain ⟨kind, hkind, hdecode⟩ := decode_of_decodable (f := Frame.ofBits v) h
    rw [hdecode]
    refine ⟨iff_of_true ⟨_, rfl⟩ h, fun r hr => by contradiction, ?_⟩
    rintro m hm
    obtain rfl := Except.ok.inj hm
    rw [header_readAs]
    exact ⟨toNat_code _, v.toNat_uint8 6 8 0 rfl, v.toNat_uint32 8 38 0 rfl, kind,
      mem_kinds_readAs kind _, by rw [hkind, toNat_code]; rfl⟩
  · obtain ⟨r, hdecode, hinside, houtside⟩ := decode_of_not_decodable (f := Frame.ofBits v) h
    rw [hdecode]
    rw [toNat_code, hcode] at hinside houtside
    refine ⟨iff_of_false (by simp) h, ?_, fun m hm => by contradiction⟩
    rintro r' hr
    obtain rfl := Except.error.inj hr
    exact ⟨hinside, houtside⟩

end Message
end VesselTraffic
