import VesselTraffic.Proofs.Checked.Applications
import VesselTraffic.Proofs.Checked.Frames

/-!
# Checked decoding of messages

Every form of a message is read with checked operations. The frames that are let through to
a read are long enough for the one subtraction that the reads make: the communication state
at the end of a message of several slots.
-/
namespace VesselTraffic.Checked

/-! ### Position reports -/

def classA (f : Frame) (kind : MessageKind) : Checked ClassAReport := do
  let v := f.bits
  return {
    header := ← header f
    status := NavigationStatus.ofCode (← uint8 v 38 42)
    rateOfTurn := ← int8 v 42 50
    speed := ← unsignedParts v 50 60 10
    accurate := ← bit v 60
    position := ← finePosition v 61
    course := ← unsignedParts v 116 128 10
    heading := ← uint16 v 128 137
    second := ← uint8 v 137 143
    maneuver := Maneuver.ofCode (← uint8 v 143 145)
    raim := ← bit v 148
    communication := ← communication v 149 (kind == .polledPosition) }

def aircraft (f : Frame) : Checked AircraftReport := do
  let v := f.bits
  return {
    header := ← header f
    altitude := ← uint16 v 38 50
    speed := ← uint16 v 50 60
    accurate := ← bit v 60
    position := ← finePosition v 61
    course := ← unsignedParts v 116 128 10
    second := ← uint8 v 128 134
    regional := ← uint8 v 134 142
    dte := ← bit v 142
    assigned := ← bit v 146
    raim := ← bit v 147
    communication := ← selectedCommunication v 148 }

def classB (f : Frame) : Checked ClassBReport := do
  let v := f.bits
  return {
    header := ← header f
    regional := ← uint8 v 38 46
    speed := ← unsignedParts v 46 56 10
    accurate := ← bit v 56
    position := ← finePosition v 57
    course := ← unsignedParts v 112 124 10
    heading := ← uint16 v 124 133
    second := ← uint8 v 133 139
    regional2 := ← uint8 v 139 141
    carrierSense := ← bit v 141
    display := ← bit v 142
    dsc := ← bit v 143
    band := ← bit v 144
    acceptsChannelPlan := ← bit v 145
    assigned := ← bit v 146
    raim := ← bit v 147
    communication := ← selectedCommunication v 148 }

def extendedClassB (f : Frame) : Checked ExtendedClassBReport := do
  let v := f.bits
  return {
    header := ← header f
    regional := ← uint8 v 38 46
    speed := ← unsignedParts v 46 56 10
    accurate := ← bit v 56
    position := ← finePosition v 57
    course := ← unsignedParts v 112 124 10
    heading := ← uint16 v 124 133
    second := ← uint8 v 133 139
    regional2 := ← uint8 v 139 143
    name := ← text v 143 263
    shipType := ← uint8 v 263 271
    hull := ← hull v 271
    fix := PositionFix.ofCode (← uint8 v 301 305)
    raim := ← bit v 305
    dte := ← bit v 306
    assigned := ← bit v 307 }

def longRange (f : Frame) : Checked LongRangeReport := do
  let v := f.bits
  return {
    header := ← header f
    accurate := ← bit v 38
    raim := ← bit v 39
    status := NavigationStatus.ofCode (← uint8 v 40 44)
    position := ← coarsePosition v 44
    speed := ← uint8 v 79 85
    course := ← uint16 v 85 94
    isOld := ← bit v 94 }

def navigationAid (f : Frame) : Checked NavigationAid := do
  let v := f.bits
  let rest ← textToEnd v 272
  return {
    header := ← header f
    aidType := ← uint8 v 38 43
    name := ← text v 43 163
    accurate := ← bit v 163
    position := ← finePosition v 164
    hull := ← hull v 219
    fix := PositionFix.ofCode (← uint8 v 249 253)
    second := ← uint8 v 253 259
    offPosition := ← bit v 259
    regional := ← uint8 v 260 268
    raim := ← bit v 268
    isVirtual := ← bit v 269
    assigned := ← bit v 270
    nameExtension := if rest.isEmpty then none else some rest }

section

variable (f : Frame)

@[simp] theorem classA_eq_ok (kind : MessageKind) :
    classA f kind = .ok (ClassAReport.read f kind) := by
  simp [classA, ClassAReport.read]

@[simp] theorem aircraft_eq_ok : aircraft f = .ok (AircraftReport.read f) := by
  simp [aircraft, AircraftReport.read]

@[simp] theorem classB_eq_ok : classB f = .ok (ClassBReport.read f) := by
  simp [classB, ClassBReport.read]

@[simp] theorem extendedClassB_eq_ok : extendedClassB f = .ok (ExtendedClassBReport.read f) := by
  simp [extendedClassB, ExtendedClassBReport.read]

@[simp] theorem longRange_eq_ok : longRange f = .ok (LongRangeReport.read f) := by
  simp [longRange, LongRangeReport.read]

@[simp] theorem navigationAid_eq_ok : navigationAid f = .ok (NavigationAid.read f) := by
  simp [navigationAid, NavigationAid.read]

end

/-! ### Times, voyages and static data -/

def baseStation (f : Frame) : Checked BaseStationReport := do
  let v := f.bits
  return {
    header := ← header f
    year := ← uint16 v 38 52
    month := ← uint8 v 52 56
    day := ← uint8 v 56 61
    hour := ← uint8 v 61 66
    minute := ← uint8 v 66 72
    second := ← uint8 v 72 78
    accurate := ← bit v 78
    position := ← finePosition v 79
    fix := PositionFix.ofCode (← uint8 v 134 138)
    raim := ← bit v 148
    communication := ← communication v 149 false }

def timeInquiry (f : Frame) : Checked TimeInquiry := do
  return ⟨← header f, ← uint32 f.bits 40 70⟩

def voyageData (f : Frame) : Checked VoyageData := do
  let v := f.bits
  return {
    header := ← header f
    version := ← uint8 v 38 40
    imoNumber := ← uint32 v 40 70
    callSign := ← text v 70 112
    name := ← text v 112 232
    shipType := ← uint8 v 232 240
    hull := ← hull v 240
    fix := PositionFix.ofCode (← uint8 v 270 274)
    arrival := ← arrivalTime v 274
    draught := ← unsignedParts v 294 302 10
    destination := ← text v 302 422
    dte := ← bit v 422 }

def partBReference (v : BitView) (mmsi : UInt32) : Checked PartBReference := do
  if isAuxiliaryCraft mmsi then return .parent (← uint32 v 132 162)
  else return .hull (← hull v 132)

def partB (v : BitView) (mmsi : UInt32) : Checked PartB := do
  return {
    shipType := ← uint8 v 40 48
    vendor := ← text v 48 66
    model := ← uint8 v 66 70
    serial := ← uint32 v 70 90
    callSign := ← text v 90 132
    reference := ← partBReference v mmsi
    fix := PositionFix.ofCode (← uint8 v 162 166) }

/-- The length of the second part is checked before its fields are read. -/
def staticData (f : Frame) : Checked (Except Refusal StaticData) := do
  let v := f.bits
  let header ← header f
  let number ← unsigned v 38 40
  if number = 0 then return .ok ⟨header, .a (← text v 40 160)⟩
  else if number = 1 then
    if f.len = PartB.bits then return .ok ⟨header, .b (← partB v header.mmsi)⟩
    else return Frame.refuse .staticData (.partBLength PartB.bits f.len)
  else return Frame.refuse .staticData (.reservedPart number)

section

variable (f : Frame)

@[simp] theorem baseStation_eq_ok : baseStation f = .ok (BaseStationReport.read f) := by
  simp [baseStation, BaseStationReport.read]

@[simp] theorem timeInquiry_eq_ok : timeInquiry f = .ok (TimeInquiry.read f) := by
  simp [timeInquiry, TimeInquiry.read]

@[simp] theorem voyageData_eq_ok : voyageData f = .ok (VoyageData.read f) := by
  simp [voyageData, VoyageData.read]

@[simp] theorem partB_eq_ok (v : BitView) (mmsi : UInt32) :
    partB v mmsi = .ok (PartB.read v mmsi) := by
  have hreference : partBReference v mmsi = .ok (if isAuxiliaryCraft mmsi then
      .parent (v.uint32 132 162) else .hull (Hull.decode v 132)) := by
    rw [partBReference]
    split_ifs <;> simp
  simp [partB, PartB.read, hreference]

theorem ensured_staticData :
    ensured f .staticData (staticData f) = .ok (StaticData.decode f) := by
  have hnumber : unsigned f.bits 38 40 = .ok (f.bits.unsigned 38 40) :=
    unsigned_eq_ok f.bits (by decide)
  refine ensured_eq_ok fun _ => ?_
  simp only [staticData, header_eq_ok, hnumber, text_eq_ok, partB_eq_ok, ok_bind]
  split_ifs <;> rfl

end

/-! ### Binary messages -/

def structured (v : BitView) (start stop : Nat) : Checked BinaryData := do
  let area ← uint16 v 0 10 start
  let function ← uint8 v 10 16 start
  let first := start + BinaryData.applicationWidth
  return .structured area function (← application area function (← slice v first (max stop first)))

def unstructured (v : BitView) (start stop : Nat) : Checked BinaryData := do
  return .unstructured (← slice v start (max stop start))

def addressedBinary (f : Frame) : Checked AddressedBinary := do
  let v := f.bits
  return {
    header := ← header f
    sequence := ← uint8 v 38 40
    destination := ← uint32 v 40 70
    retransmit := ← bit v 70
    data := ← structured v AddressedBinary.start v.len }

def binaryBroadcast (f : Frame) : Checked BinaryBroadcast := do
  return ⟨← header f, ← structured f.bits BinaryBroadcast.start f.len⟩

/-- The destination and where the data begins. -/
def slotDestination (v : BitView) : Checked (Option UInt32 × Nat) := do
  if ← bit v 38 then return (some (← uint32 v 40 70), 70) else return (none, 40)

/-- The part of a message of one or several slots that two flags lay out. -/
def slotPayload (v : BitView) (stop : Nat) : Checked SlotPayload := do
  let (destination, start) ← slotDestination v
  if ← bit v 39 then return ⟨destination, ← structured v start stop⟩
  else return ⟨destination, ← unstructured v start stop⟩

def singleSlotBinary (f : Frame) : Checked SingleSlotBinary := do
  return ⟨← header f, ← slotPayload f.bits f.len⟩

def multipleSlotBinary (f : Frame) : Checked MultipleSlotBinary := do
  let selector ← difference (← difference f.len CommunicationState.width) 1
  return {
    header := ← header f
    payload := ← slotPayload f.bits selector
    communication := ← selectedCommunication f.bits selector }

section

variable (f : Frame) (v : BitView) (start stop : Nat)

@[simp] theorem structured_eq_ok :
    structured v start stop = .ok (BinaryData.decodeStructured v start stop) := by
  simp [structured, BinaryData.decodeStructured, BinaryData.area, BinaryData.function,
    BinaryData.payload]

@[simp] theorem unstructured_eq_ok :
    unstructured v start stop = .ok (BinaryData.decodeUnstructured v start stop) := by
  simp [unstructured, BinaryData.decodeUnstructured]

@[simp] theorem addressedBinary_eq_ok : addressedBinary f = .ok (AddressedBinary.read f) := by
  simp [addressedBinary, AddressedBinary.read]

@[simp] theorem binaryBroadcast_eq_ok : binaryBroadcast f = .ok (BinaryBroadcast.read f) := by
  simp [binaryBroadcast, BinaryBroadcast.read]

theorem slotDestination_eq_ok : slotDestination v = .ok
    (if SlotPayload.isAddressed v then some (v.uint32 40 70) else none, SlotPayload.start v) := by
  rw [slotDestination, bit_eq_ok, ok_bind, SlotPayload.start, SlotPayload.isAddressed]
  split_ifs <;> simp

@[simp] theorem slotPayload_eq_ok : slotPayload v stop = .ok (SlotPayload.read v stop) := by
  cases hstructured : v.bit 39 <;>
    simp [slotPayload, slotDestination_eq_ok, SlotPayload.read, SlotPayload.isStructured,
      hstructured]

@[simp] theorem singleSlotBinary_eq_ok : singleSlotBinary f = .ok (SingleSlotBinary.read f) := by
  simp [singleSlotBinary, SingleSlotBinary.read]

/-- A message of several slots has at least 60 bits, of which the last 20 are the selector
and the communication state. -/
theorem multipleSlotBinary_eq_ok (h : f.ensure .multipleSlotBinary = .ok ()) :
    multipleSlotBinary f = .ok (MultipleSlotBinary.read f) := by
  have hlen : 60 ≤ f.len := Frame.least_le_of_ensure h
  have hwidth : CommunicationState.width ≤ f.len := Nat.le_trans (by decide) hlen
  have hselector : 1 ≤ f.len - CommunicationState.width := by
    rw [CommunicationState.width]
    omega
  rw [multipleSlotBinary, difference_of_le hwidth, ok_bind, difference_of_le hselector]
  simp [MultipleSlotBinary.read, MultipleSlotBinary.selector]

end

/-! ### Acknowledgements and safety texts -/

def acknowledgedMessage (v : BitView) (start : Nat) : Checked AcknowledgedMessage := do
  return ⟨← uint32 v 0 30 start, ← uint8 v 30 32 start⟩

def acknowledgement (f : Frame) : Checked Acknowledgement := do
  return ⟨← header f, ← groups f.bits 40 AcknowledgedMessage.width 4 (acknowledgedMessage f.bits)⟩

def addressedSafety (f : Frame) : Checked AddressedSafety := do
  let v := f.bits
  return {
    header := ← header f
    sequence := ← uint8 v 38 40
    destination := ← uint32 v 40 70
    retransmit := ← bit v 70
    text := ← textToEnd v 72 }

def safetyBroadcast (f : Frame) : Checked SafetyBroadcast := do
  return ⟨← header f, ← textToEnd f.bits 40⟩

def corrections (f : Frame) : Checked Corrections := do
  return ⟨← header f, ← coarsePosition f.bits 40, ← tail f.bits 80⟩

section

variable (f : Frame)

theorem acknowledgedMessage_eq_ok (v : BitView) (start : Nat) :
    acknowledgedMessage v start = .ok (AcknowledgedMessage.decode v start) := by
  simp [acknowledgedMessage, AcknowledgedMessage.decode]

@[simp] theorem acknowledgement_eq_ok : acknowledgement f = .ok (Acknowledgement.read f) := by
  simp [acknowledgement, Acknowledgement.read, groups_eq_ok (acknowledgedMessage_eq_ok f.bits)]

@[simp] theorem addressedSafety_eq_ok : addressedSafety f = .ok (AddressedSafety.read f) := by
  simp [addressedSafety, AddressedSafety.read]

@[simp] theorem safetyBroadcast_eq_ok : safetyBroadcast f = .ok (SafetyBroadcast.read f) := by
  simp [safetyBroadcast, SafetyBroadcast.read]

@[simp] theorem corrections_eq_ok : corrections f = .ok (Corrections.read f) := by
  simp [corrections, Corrections.read]

end

/-! ### Management of stations and of the link -/

def messageRequest (v : BitView) (start : Nat) : Checked MessageRequest := do
  return ⟨← uint8 v 0 6 start, ← uint16 v 6 18 start⟩

/-- Reads a part that is there only in a frame that is long enough. -/
def part {α : Type} (v : BitView) (least : Nat) (read : Checked α) : Checked (Option α) := do
  if least ≤ v.len then return some (← read) else return none

def interrogation (f : Frame) : Checked Interrogation := do
  let v := f.bits
  return {
    header := ← header f
    station1 := {
      mmsi := ← uint32 v 40 70
      first := ← messageRequest v 70
      second := ← part v 108 (messageRequest v 90) }
    station2 := ← part v 158 do
      return ⟨← uint32 v 110 140, ← messageRequest v 140, none⟩ }

def slotAssignment (v : BitView) (start : Nat) : Checked SlotAssignment := do
  return ⟨← uint32 v 0 30 start, ← uint16 v 30 42 start, ← uint16 v 42 52 start⟩

def modeAssignment (f : Frame) : Checked ModeAssignment := do
  let v := f.bits
  return {
    header := ← header f
    first := ← slotAssignment v 40
    second := ← part v 144 (slotAssignment v 92) }

def groupAssignment (f : Frame) : Checked GroupAssignment := do
  let v := f.bits
  return {
    header := ← header f
    area := ← area v 40
    stationType := ← uint8 v 110 114
    shipType := ← uint8 v 114 122
    mode := ← uint8 v 144 146
    interval := ← uint8 v 146 150
    quietMinutes := ← uint8 v 150 154 }

def slotReservation (v : BitView) (start : Nat) : Checked SlotReservation := do
  return {
    offset := ← uint16 v 0 12 start
    slots := ← uint8 v 12 16 start
    timeoutMinutes := ← uint8 v 16 19 start
    increment := ← uint16 v 19 30 start }

def linkManagement (f : Frame) : Checked LinkManagement := do
  return ⟨← header f, ← groups f.bits 40 SlotReservation.width 4 (slotReservation f.bits)⟩

def channelTarget (v : BitView) : Checked ChannelTarget := do
  if ← bit v 139 then return .addressed (← uint32 v 69 99) (← uint32 v 104 134)
  else return .area (← area v 69)

def channelManagement (f : Frame) : Checked ChannelManagement := do
  let v := f.bits
  return {
    header := ← header f
    channelA := ← uint16 v 40 52
    channelB := ← uint16 v 52 64
    mode := ← uint8 v 64 68
    lowPower := ← bit v 68
    target := ← channelTarget v
    narrowA := ← bit v 140
    narrowB := ← bit v 141
    zoneSize := ← uint8 v 142 145 }

section

variable (f : Frame) (v : BitView) (start : Nat)

@[simp] theorem messageRequest_eq_ok :
    messageRequest v start = .ok (MessageRequest.decode v start) := by
  simp [messageRequest, MessageRequest.decode]

@[simp] theorem part_eq_ok {α : Type} (least : Nat) (a : α) :
    part v least (.ok a) = .ok (if least ≤ v.len then some a else none) := by
  rw [part]
  split_ifs <;> rfl

@[simp] theorem interrogation_eq_ok : interrogation f = .ok (Interrogation.read f) := by
  simp [interrogation, Interrogation.read]

@[simp] theorem slotAssignment_eq_ok :
    slotAssignment v start = .ok (SlotAssignment.decode v start) := by
  simp [slotAssignment, SlotAssignment.decode]

@[simp] theorem modeAssignment_eq_ok : modeAssignment f = .ok (ModeAssignment.read f) := by
  simp [modeAssignment, ModeAssignment.read]

@[simp] theorem groupAssignment_eq_ok : groupAssignment f = .ok (GroupAssignment.read f) := by
  simp [groupAssignment, GroupAssignment.read]

theorem slotReservation_eq_ok :
    slotReservation v start = .ok (SlotReservation.decode v start) := by
  simp [slotReservation, SlotReservation.decode]

@[simp] theorem linkManagement_eq_ok : linkManagement f = .ok (LinkManagement.read f) := by
  simp [linkManagement, LinkManagement.read, groups_eq_ok (slotReservation_eq_ok f.bits)]

@[simp] theorem channelTarget_eq_ok : channelTarget v = .ok (ChannelTarget.decode v) := by
  rw [channelTarget, bit_eq_ok, ok_bind, ChannelTarget.decode]
  split_ifs <;> simp

@[simp] theorem channelManagement_eq_ok : channelManagement f = .ok (ChannelManagement.read f) := by
  simp [channelManagement, ChannelManagement.read]

end

/-! ### Every kind -/

/-- Reads a form of message from a frame of a kind. -/
def form {α : Type} (f : Frame) (kind : MessageKind) (form : α → Message) (read : Checked α) :
    Checked (Except Refusal Message) :=
  ensured f kind do return .ok (form (← read))

theorem form_eq_ok {α : Type} {f : Frame} {kind : MessageKind} {form : α → Message}
    {read : Checked α} {a : α} (h : f.ensure kind = .ok () → read = .ok a) :
    Checked.form f kind form read = .ok (Except.map form (do f.ensure kind; return a)) := by
  have hread : f.ensure kind = .ok () →
      (do return .ok (form (← read)) : Checked (Except Refusal Message)) = .ok (.ok (form a)) := by
    intro hensure
    rw [h hensure]
    rfl
  rw [Checked.form, ensured_eq_ok hread]
  cases f.ensure kind <;> rfl

/-- Decodes a frame as a message of one kind. -/
def decodeAs (kind : MessageKind) (f : Frame) : Checked (Except Refusal Message) :=
  match kind with
  | .scheduledPosition | .assignedPosition | .polledPosition =>
    match ClassAReport.kind? f.code with
    | none => return .error (.invalidFrame f.code .notClassA)
    | some kind => form f kind .classA (classA f kind)
  | .baseStation => form f (BaseStationReport.kindFor f.code) .baseStation (baseStation f)
  | .voyageData => form f .voyageData .voyageData (voyageData f)
  | .addressedBinary => form f .addressedBinary .addressedBinary (addressedBinary f)
  | .binaryAcknowledge =>
    form f (Acknowledgement.kindFor f.code) .binaryAcknowledge (acknowledgement f)
  | .binaryBroadcast => form f .binaryBroadcast .binaryBroadcast (binaryBroadcast f)
  | .aircraftPosition => form f .aircraftPosition .aircraft (aircraft f)
  | .timeInquiry => form f .timeInquiry .timeInquiry (timeInquiry f)
  | .timeResponse => form f (BaseStationReport.kindFor f.code) .timeResponse (baseStation f)
  | .addressedSafety => form f .addressedSafety .addressedSafety (addressedSafety f)
  | .safetyAcknowledge =>
    form f (Acknowledgement.kindFor f.code) .safetyAcknowledge (acknowledgement f)
  | .safetyBroadcast => form f .safetyBroadcast .safetyBroadcast (safetyBroadcast f)
  | .interrogation => form f .interrogation .interrogation (interrogation f)
  | .modeAssignment => form f .modeAssignment .modeAssignment (modeAssignment f)
  | .corrections => form f .corrections .corrections (corrections f)
  | .classBPosition => form f .classBPosition .classB (classB f)
  | .extendedClassB => form f .extendedClassB .extendedClassB (extendedClassB f)
  | .linkManagement => form f .linkManagement .linkManagement (linkManagement f)
  | .navigationAid => form f .navigationAid .navigationAid (navigationAid f)
  | .channelManagement => form f .channelManagement .channelManagement (channelManagement f)
  | .groupAssignment => form f .groupAssignment .groupAssignment (groupAssignment f)
  | .staticData => do return (← ensured f .staticData (staticData f)).map .staticData
  | .singleSlotBinary => form f .singleSlotBinary .singleSlotBinary (singleSlotBinary f)
  | .multipleSlotBinary => form f .multipleSlotBinary .multipleSlotBinary (multipleSlotBinary f)
  | .longRange => form f .longRange .longRange (longRange f)

theorem decodeAs_eq_ok (kind : MessageKind) (f : Frame) :
    decodeAs kind f = .ok (Message.decodeAs kind f) := by
  have hclassA : decodeAs .scheduledPosition f = .ok ((ClassAReport.decode f).map .classA) := by
    rw [decodeAs, ClassAReport.decode]
    cases ClassAReport.kind? f.code with
    | none => rfl
    | some kind => exact form_eq_ok fun _ => classA_eq_ok f kind
  cases kind with
  | scheduledPosition | assignedPosition | polledPosition => exact hclassA
  | multipleSlotBinary => exact form_eq_ok fun h => multipleSlotBinary_eq_ok f h
  | staticData => rw [decodeAs, ensured_staticData]; rfl
  | _ => exact form_eq_ok fun _ => by simp

/-- Decodes a frame as the kind that its first bits name. -/
def decode (f : Frame) : Checked (Except Refusal Message) := do
  match ← kind f with
  | .error r => return .error r
  | .ok kind => decodeAs kind f

theorem decode_eq_ok (f : Frame) : decode f = .ok (Message.decode f) := by
  rw [decode, kind_eq_ok, ok_bind, Message.decode]
  cases f.kind with
  | error r => rfl
  | ok kind => exact decodeAs_eq_ok kind f

end VesselTraffic.Checked
