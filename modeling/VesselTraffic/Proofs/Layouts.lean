import Mathlib.Tactic.Common
import VesselTraffic.Proofs.Dispatch
import VesselTraffic.Proofs.Locality

/-!
# Layouts of messages

The layout of a kind lists the fields behind one another, each with the range of
positions that it is read from and with its read, which depends on that range alone. The
fields of a decoded message are the reads of the layout of its kind.
-/
namespace VesselTraffic

/-! ### The fields of a description -/

/-- An alternative that is told beside the members of a record is one of its fields. -/
def Mark.fields : Mark → List (List String × Datum)
  | .member name value => [([name], .word value)]
  | _ => []

mutual

/-- A plain record counts as its fields and a list as its entries. Everything else counts
as one: a number or text, an alternative, an optional part. -/
def Datum.fields : Datum → List (List String × Datum)
  | .record _ .silent members => Member.fields members
  | .list entries => entries.map fun entry => ([], entry)
  | content => [([], content)]

/-- The fields of the members of a record, each with the names that lead to it. -/
def Member.fields : List Member → List (List String × Datum)
  | [] => []
  | .named name content :: rest =>
    content.fields.map (fun field => (name :: field.1, field.2)) ++ Member.fields rest
  | .merged _ (.record _ mark members) :: rest =>
    mark.fields ++ Member.fields members ++ Member.fields rest
  | .merged name content :: rest => ([name], content) :: Member.fields rest

end

def Message.fields (m : Message) : List (List String × Datum) := m.report.fields

namespace Member

@[simp] theorem fields_nil : Member.fields [] = [] := rfl

@[simp] theorem fields_named (name : String) (content : Datum) (rest : List Member) :
    Member.fields (.named name content :: rest)
      = content.fields.map (fun field => (name :: field.1, field.2)) ++ Member.fields rest := rfl

@[simp] theorem fields_merged (name type : String) (mark : Mark) (members rest : List Member) :
    Member.fields (.merged name (.record type mark members) :: rest)
      = mark.fields ++ Member.fields members ++ Member.fields rest := rfl

@[simp] theorem fields_header (h : Header) (rest : List Member) :
    Member.fields (h.member :: rest)
      = (["message_type"], .byte h.messageType) :: (["repeat_indicator"], .byte h.repeatIndicator)
        :: (["mmsi"], .full h.mmsi) :: Member.fields rest := rfl

end Member

namespace Datum

@[simp] theorem fields_truth (b : Bool) : (truth b).fields = [([], truth b)] := rfl
@[simp] theorem fields_number (n : Int) : (number n).fields = [([], number n)] := rfl
@[simp] theorem fields_byte (n : UInt8) : (byte n).fields = [([], byte n)] := rfl
@[simp] theorem fields_half (n : UInt16) : (half n).fields = [([], half n)] := rfl
@[simp] theorem fields_full (n : UInt32) : (full n).fields = [([], full n)] := rfl
@[simp] theorem fields_real (x : Binary64) : (real x).fields = [([], real x)] := rfl
@[simp] theorem fields_text (s : String) : (text s).fields = [([], text s)] := rfl
@[simp] theorem fields_bits (v : BitView) : (bits v).fields = [([], bits v)] := rfl

@[simp] theorem fields_list (entries : List Datum) :
    (list entries).fields = entries.map fun entry => ([], entry) := rfl

@[simp] theorem fields_ofOption {α : Type} (f : α → Datum) (a : Option α) :
    (ofOption f a).fields = [([], ofOption f a)] := by
  cases a <;> rfl

end Datum

@[simp] theorem NavigationStatus.fields_datum (s : NavigationStatus) :
    s.datum.fields = [([], s.datum)] := by
  cases s <;> rfl

@[simp] theorem Maneuver.fields_datum (m : Maneuver) : m.datum.fields = [([], m.datum)] := by
  cases m <;> rfl

@[simp] theorem PositionFix.fields_datum (fix : PositionFix) :
    fix.datum.fields = [([], fix.datum)] := by
  cases fix <;> rfl

@[simp] theorem CommunicationState.fields_datum (s : CommunicationState) :
    s.datum.fields = [([], s.datum)] := by
  cases s <;> rfl

@[simp] theorem ChannelTarget.fields_datum (t : ChannelTarget) :
    t.datum.fields = [([], t.datum)] := by
  cases t <;> rfl

@[simp] theorem BinaryData.fields_datum (d : BinaryData) : d.datum.fields = [([], d.datum)] := by
  cases d <;> rfl

/-! ### Fields with their positions -/

/-- A field that is read from the positions `first` up to `last` and from no others. -/
structure PlacedField where
  path : List String
  first : Nat
  last : Nat
  read : BitView → Datum
  isLocal : ∀ {v w : BitView}, v.AgreesOn w first last → read v = read w

namespace PlacedField

/-- The field as it stands in a view. -/
def value (e : PlacedField) (v : BitView) : List String × Datum := (e.path, e.read v)

theorem value_congr {e : PlacedField} {v w : BitView} (h : v.AgreesOn w e.first e.last) :
    e.value v = e.value w :=
  congrArg (Prod.mk e.path) (e.isLocal h)

/-- The field whose content is the description of something read. -/
def of {α : Type} (path : List String) (first last : Nat) (datum : α → Datum) (read : BitView → α)
    (isLocal : ∀ {v w : BitView}, v.AgreesOn w first last → read v = read w) : PlacedField :=
  ⟨path, first, last, fun v => datum (read v), fun h => congrArg datum (isLocal h)⟩

/-- A field that the layout itself decides. -/
def fixed (path : List String) (first last : Nat) (content : Datum) : PlacedField :=
  of path first last id (fun _ => content) fun _ => rfl

/-- A number of at most eight bits that stands for something. -/
def coded (path : List String) (datum : UInt8 → Datum) (first last : Nat) (start : Nat := 0)
    (hwidth : Nat.ble last (first + 8) = true := by exact @rfl Bool true) : PlacedField :=
  of path (start + first) (start + last) datum (·.uint8 first last start hwidth)
    fun h => h.uint8 (Nat.le_refl _) (Nat.le_refl _)

def byte (path : List String) (first last : Nat) (start : Nat := 0)
    (hwidth : Nat.ble last (first + 8) = true := by exact @rfl Bool true) : PlacedField :=
  coded path .byte first last start hwidth

def half (path : List String) (first last : Nat) (start : Nat := 0)
    (hwidth : Nat.ble last (first + 16) = true := by exact @rfl Bool true) : PlacedField :=
  of path (start + first) (start + last) .half (·.uint16 first last start hwidth)
    fun h => h.uint16 (Nat.le_refl _) (Nat.le_refl _)

def full (path : List String) (first last : Nat) (start : Nat := 0)
    (hwidth : Nat.ble last (first + 32) = true := by exact @rfl Bool true) : PlacedField :=
  of path (start + first) (start + last) .full (·.uint32 first last start hwidth)
    fun h => h.uint32 (Nat.le_refl _) (Nat.le_refl _)

/-- A number of at most eight bits in two's complement. -/
def offset (path : List String) (first last : Nat)
    (hwidth : Nat.ble last (first + 8) = true := by exact @rfl Bool true) : PlacedField :=
  of path (0 + first) (0 + last) (fun n : Int8 => .number n.toInt) (·.int8 first last 0 hwidth)
    fun h => h.int8 (Nat.le_refl _) (Nat.le_refl _)

/-- A quantity that is never negative. -/
def amount (path : List String) (first last perUnit : Nat)
    (hwidth : Nat.ble last (first + 32) = true := by exact @rfl Bool true) : PlacedField :=
  of path (0 + first) (0 + last) (fun q : Quantity => .real q.value)
    (·.unsignedParts first last perUnit 0 hwidth)
    fun h => h.unsignedParts (Nat.le_refl _) (Nat.le_refl _)

/-- A quantity in two's complement. -/
def angle (path : List String) (first last perUnit start : Nat)
    (hwidth : Nat.ble last (first + 32) = true := by exact @rfl Bool true) : PlacedField :=
  of path (start + first) (start + last) (fun q : Quantity => .real q.value)
    (·.signedParts first last perUnit start hwidth)
    fun h => h.signedParts (Nat.le_refl _) (Nat.le_refl _)

def flag (path : List String) (i : Nat) : PlacedField :=
  of path i (i + 1) .truth (·.bit i) fun h => h.bit i (Nat.le_refl _) (Nat.lt_succ_self _)

def text (path : List String) (first last : Nat) : PlacedField :=
  of path first last .text (·.text first last) fun h => h.text (Nat.le_refl _) (Nat.le_refl _)

/-- A text that goes on to the end of a view of some length. -/
def textToEnd (path : List String) (first len : Nat) : PlacedField :=
  text path first (max len first)

/-- A code for the device that fixes positions. -/
def positionFix (first last : Nat)
    (hwidth : Nat.ble last (first + 8) = true := by exact @rfl Bool true) : PlacedField :=
  coded ["position_fixing_device"] (fun code => (PositionFix.ofCode code).datum) first last 0 hwidth

def communication (start : Nat) (isIncremental : Bool) : PlacedField :=
  of ["communication_state"] start (start + CommunicationState.width) CommunicationState.datum
    (CommunicationState.decode · start isIncremental) fun h => h.communication isIncremental

def selectedCommunication (selector : Nat) : PlacedField :=
  of ["communication_state"] selector (selector + 1 + CommunicationState.width)
    CommunicationState.datum (CommunicationState.decodeSelected · selector)
    fun h => h.selectedCommunication

def structuredData (start stop : Nat) : PlacedField :=
  of ["data"] start (max stop (start + BinaryData.applicationWidth)) BinaryData.datum
    (BinaryData.decodeStructured · start stop) fun h => h.structuredData

def unstructuredData (start stop : Nat) : PlacedField :=
  of ["data"] start (max stop start) BinaryData.datum (BinaryData.decodeUnstructured · start stop)
    fun h => h.unstructuredData

def acknowledged (start : Nat) : PlacedField :=
  of ["acknowledgements"] start (start + AcknowledgedMessage.width) AcknowledgedMessage.datum
    (AcknowledgedMessage.decode · start) fun h => h.acknowledgedMessage

def reservation (start : Nat) : PlacedField :=
  of ["reservations"] start (start + SlotReservation.width) SlotReservation.datum
    (SlotReservation.decode · start) fun h => h.slotReservation

/-- The bits from a position to the end of a view of some length. -/
def remainder (first len : Nat) : PlacedField :=
  of ["data"] first (max len first) .bits (·.slice first (max len first))
    fun h => h.slice (Nat.le_refl _) (Nat.le_refl _)

/-- The last bit of a target tells how the others are read. -/
def target : PlacedField :=
  of ["target"] 69 140 ChannelTarget.datum ChannelTarget.decode fun h => h.channelTarget

/-- The parts that a message holds only if it is long enough are there or not by its length. -/
def secondRequest : PlacedField :=
  of ["station_1", "second"] 90 108 (Datum.ofOption MessageRequest.datum)
    (fun v => if 108 ≤ v.len then some (MessageRequest.decode v 90) else none)
    fun h => by rw [h.len, h.messageRequest]

def secondStation : PlacedField :=
  of ["station_2"] 110 158 (Datum.ofOption InterrogatedStation.datum)
    (fun v => if 158 ≤ v.len then some ⟨v.uint32 110 140, MessageRequest.decode v 140, none⟩
      else none)
    fun h => by
      rw [h.len, h.uint32 (by decide) (by decide), (h.mono (by decide) (by decide)).messageRequest]

def secondAssignment : PlacedField :=
  of ["assignment_b"] 92 144 (Datum.ofOption SlotAssignment.datum)
    (fun v => if 144 ≤ v.len then some (SlotAssignment.decode v 92) else none)
    fun h => by rw [h.len, h.slotAssignment]

def nameExtension (len : Nat) : PlacedField :=
  of ["name_extension"] 272 (max len 272)
    (fun s : String => Datum.ofOption .text (if s.isEmpty then none else some s))
    (·.text 272 (max len 272)) fun h => h.text (Nat.le_refl _) (Nat.le_refl _)

def parent : PlacedField :=
  of ["reference"] 132 162
    (fun mmsi => Datum.wrapped "MothershipMmsi" (.key "mothership_mmsi") (.full mmsi))
    (·.uint32 132 162) fun h => h.uint32 (by decide) (by decide)

def ownHull : PlacedField :=
  of ["reference"] 132 162 (fun h : Hull => Datum.wrapped "Dimensions" (.key "dimensions") h.datum)
    (Hull.decode · 132) fun h => h.hull

def destination : PlacedField :=
  of ["destination_mmsi"] 40 70 (fun mmsi => Datum.present (.full mmsi)) (·.uint32 40 70)
    fun h => h.uint32 (by decide) (by decide)

/-! ### Parts that several layouts share -/

def header : List PlacedField :=
  [byte ["message_type"] 0 6, byte ["repeat_indicator"] 6 8, full ["mmsi"] 8 38]

def finePosition (start : Nat) : List PlacedField :=
  [angle ["longitude"] 0 28 Position.fineParts start,
   angle ["latitude"] 28 55 Position.fineParts start]

def coarsePosition (longitude latitude : String) (start : Nat) : List PlacedField :=
  [angle [longitude] 0 18 Position.coarseParts start,
   angle [latitude] 18 35 Position.coarseParts start]

def hull (start : Nat) : List PlacedField :=
  [half ["dimensions", "to_bow"] 0 9 start, half ["dimensions", "to_stern"] 9 18 start,
   byte ["dimensions", "to_port"] 18 24 start, byte ["dimensions", "to_starboard"] 24 30 start]

/-- What the reports of small vessels begin with. -/
def smallVessel : List PlacedField :=
  [byte ["regional_reserved"] 38 46,
   amount ["speed_over_ground"] 46 56 10,
   flag ["position_accuracy"] 56] ++ finePosition 57 ++
  [amount ["course_over_ground"] 112 124 10,
   half ["true_heading"] 124 133,
   byte ["timestamp"] 133 139]

/-- What the addressed messages begin with. -/
def addressed : List PlacedField :=
  [byte ["sequence_number"] 38 40, full ["destination_mmsi"] 40 70, flag ["retransmit"] 70]

def partA : List PlacedField := [fixed ["part"] 38 40 (.word "A"), text ["ship_name"] 40 160]

/-- The number of an auxiliary craft selects what stands where others give their hull. -/
def partB (v : BitView) : List PlacedField :=
  [fixed ["part"] 38 40 (.word "B"),
   byte ["ship_type"] 40 48,
   text ["vendor_id"] 48 66,
   byte ["unit_model_code"] 66 70,
   full ["serial_number"] 70 90,
   text ["call_sign"] 90 132,
   if isAuxiliaryCraft (v.uint32 8 38) then parent else ownHull,
   positionFix 162 166]

/-- Two flags select whether there is a destination and how the data is read. -/
def slotPayload (v : BitView) (stop : Nat) : List PlacedField :=
  [if SlotPayload.isAddressed v then destination else fixed ["destination_mmsi"] 40 40 .missing,
   if SlotPayload.isStructured v then structuredData (SlotPayload.start v) stop
   else unstructuredData (SlotPayload.start v) stop]

end PlacedField

open PlacedField

namespace MessageKind

/-- The fields behind the header in the messages of a kind. Most layouts do not look at
the view, and of the others all but the last three ask for its length only. -/
def body (kind : MessageKind) (v : BitView) : List PlacedField :=
  match kind with
  | scheduledPosition | assignedPosition | polledPosition =>
    [coded ["navigation_status"] (fun code => (NavigationStatus.ofCode code).datum) 38 42,
     offset ["rate_of_turn"] 42 50,
     amount ["speed_over_ground"] 50 60 10,
     flag ["position_accuracy"] 60] ++ finePosition 61 ++
    [amount ["course_over_ground"] 116 128 10,
     half ["true_heading"] 128 137,
     byte ["timestamp"] 137 143,
     coded ["maneuver"] (fun code => (Maneuver.ofCode code).datum) 143 145,
     flag ["raim"] 148,
     communication 149 (kind == .polledPosition)]
  | baseStation | timeResponse =>
    [half ["year"] 38 52, byte ["month"] 52 56, byte ["day"] 56 61, byte ["hour"] 61 66,
     byte ["minute"] 66 72, byte ["second"] 72 78,
     flag ["position_accuracy"] 78] ++ finePosition 79 ++
    [positionFix 134 138, flag ["raim"] 148, communication 149 false]
  | voyageData =>
    [byte ["ais_version"] 38 40,
     full ["imo_number"] 40 70,
     text ["call_sign"] 70 112,
     text ["ship_name"] 112 232,
     byte ["ship_type"] 232 240] ++ hull 240 ++
    [positionFix 270 274,
     byte ["eta", "month"] 274 278, byte ["eta", "day"] 278 283,
     byte ["eta", "hour"] 283 288, byte ["eta", "minute"] 288 294,
     amount ["draught"] 294 302 10,
     text ["destination"] 302 422,
     flag ["dte"] 422]
  | addressedBinary => addressed ++ [structuredData 72 v.len]
  | binaryAcknowledge | safetyAcknowledge =>
    (List.range (v.groupCount 40 AcknowledgedMessage.width 4)).map fun i =>
      acknowledged (40 + AcknowledgedMessage.width * i)
  | binaryBroadcast => [structuredData 40 v.len]
  | aircraftPosition =>
    [half ["altitude"] 38 50,
     half ["speed_over_ground"] 50 60,
     flag ["position_accuracy"] 60] ++ finePosition 61 ++
    [amount ["course_over_ground"] 116 128 10,
     byte ["timestamp"] 128 134,
     byte ["regional_reserved"] 134 142,
     flag ["dte"] 142, flag ["assigned"] 146, flag ["raim"] 147,
     selectedCommunication 148]
  | timeInquiry => [full ["destination_mmsi"] 40 70]
  | addressedSafety => addressed ++ [textToEnd ["text"] 72 v.len]
  | safetyBroadcast => [textToEnd ["text"] 40 v.len]
  | interrogation =>
    [full ["station_1", "mmsi"] 40 70,
     byte ["station_1", "first", "message_type"] 70 76,
     half ["station_1", "first", "slot_offset"] 76 88,
     secondRequest,
     secondStation]
  | modeAssignment =>
    [full ["assignment_a", "destination_mmsi"] 40 70,
     half ["assignment_a", "offset"] 70 82,
     half ["assignment_a", "increment"] 82 92,
     secondAssignment]
  | corrections => coarsePosition "longitude" "latitude" 40 ++ [remainder 80 v.len]
  | classBPosition =>
    smallVessel ++
    [byte ["regional_reserved_2"] 139 141,
     flag ["cs_unit"] 141, flag ["display"] 142, flag ["dsc"] 143, flag ["band"] 144,
     flag ["accepts_message_22"] 145, flag ["assigned"] 146, flag ["raim"] 147,
     selectedCommunication 148]
  | extendedClassB =>
    smallVessel ++
    [byte ["regional_reserved_2"] 139 143,
     text ["ship_name"] 143 263,
     byte ["ship_type"] 263 271] ++ hull 271 ++
    [positionFix 301 305, flag ["raim"] 305, flag ["dte"] 306, flag ["assigned"] 307]
  | linkManagement =>
    (List.range (v.groupCount 40 SlotReservation.width 4)).map fun i =>
      reservation (40 + SlotReservation.width * i)
  | navigationAid =>
    [byte ["aid_type"] 38 43,
     text ["name"] 43 163,
     flag ["position_accuracy"] 163] ++ finePosition 164 ++ hull 219 ++
    [positionFix 249 253,
     byte ["timestamp"] 253 259,
     flag ["off_position"] 259,
     byte ["regional_reserved"] 260 268,
     flag ["raim"] 268, flag ["virtual_aid"] 269, flag ["assigned"] 270,
     nameExtension v.len]
  | channelManagement =>
    [half ["channel_a"] 40 52,
     half ["channel_b"] 52 64,
     byte ["tx_rx_mode"] 64 68,
     flag ["power"] 68,
     target,
     flag ["channel_a_band"] 140, flag ["channel_b_band"] 141,
     byte ["zone_size"] 142 145]
  | groupAssignment =>
    coarsePosition "ne_longitude" "ne_latitude" 40
      ++ coarsePosition "sw_longitude" "sw_latitude" 75 ++
    [byte ["station_type"] 110 114,
     byte ["ship_type"] 114 122,
     byte ["tx_rx_mode"] 144 146,
     byte ["report_interval"] 146 150,
     byte ["quiet_time"] 150 154]
  | longRange =>
    [flag ["position_accuracy"] 38,
     flag ["raim"] 39,
     coded ["navigation_status"] (fun code => (NavigationStatus.ofCode code).datum) 40 44]
      ++ coarsePosition "longitude" "latitude" 44 ++
    [byte ["speed_over_ground"] 79 85,
     half ["course_over_ground"] 85 94,
     flag ["position_latency"] 94]
  | staticData => if v.unsigned 38 40 = 0 then partA else partB v
  | singleSlotBinary => slotPayload v v.len
  | multipleSlotBinary =>
    let selector := v.len - CommunicationState.width - 1
    slotPayload v selector ++ [selectedCommunication selector]

def layout (kind : MessageKind) (v : BitView) : List PlacedField := header ++ kind.body v

end MessageKind

/-! ### The fields of a message are the reads of its layout -/

theorem PlacedField.values_slotPayload (v : BitView) (stop : Nat) :
    (slotPayload v stop).map (value · v) =
      [(["destination_mmsi"], .ofOption .full (SlotPayload.read v stop).destination),
       (["data"], (SlotPayload.read v stop).data.datum)] := by
  unfold slotPayload SlotPayload.read
  cases SlotPayload.isAddressed v <;> cases SlotPayload.isStructured v <;> rfl

theorem PlacedField.values_partB (v : BitView) :
    (partB v).map (value · v)
      = (["part"], .word "B") :: Member.fields (PartB.read v (v.uint32 8 38)).members := by
  cases hcraft : isAuxiliaryCraft (v.uint32 8 38) <;>
    simp only [partB, PartB.members, PartB.read, hcraft, Member.fields_named,
      PositionFix.fields_datum] <;> rfl

namespace Message

/-- The fields of a message are those of the layout of its kind, each read at its place. -/
theorem fields_readAs (kind : MessageKind) (f : Frame) :
    (readAs kind f).fields = (kind.layout f.bits).map (PlacedField.value · f.bits) := by
  -- Where the content of a field is not known to be one value, the lemmas on fields say so
  -- before the two sides are compared.
  cases kind with
  | timeInquiry | addressedSafety | safetyBroadcast => rfl
  | scheduledPosition | assignedPosition | polledPosition =>
    simp [readAs, fields, report, ClassAReport.datum, Position.members, Datum.fields]
    rfl
  | baseStation | timeResponse =>
    simp [readAs, fields, report, BaseStationReport.datum, Position.members, Datum.fields]
    rfl
  | voyageData =>
    simp [readAs, fields, report, VoyageData.datum, Datum.fields]
    rfl
  | addressedBinary =>
    simp [readAs, fields, report, AddressedBinary.datum, Datum.fields]
    rfl
  | binaryAcknowledge | safetyAcknowledge =>
    simp [readAs, fields, report, Acknowledgement.datum, Datum.fields, Acknowledgement.read,
      BitView.groups, MessageKind.layout, MessageKind.body]
    rfl
  | binaryBroadcast =>
    simp [readAs, fields, report, BinaryBroadcast.datum, Datum.fields]
    rfl
  | aircraftPosition =>
    simp [readAs, fields, report, AircraftReport.datum, Position.members, Datum.fields]
    rfl
  | interrogation =>
    simp [readAs, fields, report, Interrogation.datum, InterrogatedStation.datum, Datum.fields]
    rfl
  | modeAssignment =>
    simp [readAs, fields, report, ModeAssignment.datum, Datum.fields]
    rfl
  | corrections =>
    simp [readAs, fields, report, Corrections.datum, Position.members, Datum.fields]
    rfl
  | classBPosition =>
    simp [readAs, fields, report, ClassBReport.datum, Position.members, Datum.fields]
    rfl
  | extendedClassB =>
    simp [readAs, fields, report, ExtendedClassBReport.datum, Position.members, Datum.fields]
    rfl
  | linkManagement =>
    simp [readAs, fields, report, LinkManagement.datum, Datum.fields, LinkManagement.read,
      BitView.groups, MessageKind.layout, MessageKind.body]
    rfl
  | navigationAid =>
    simp [readAs, fields, report, NavigationAid.datum, Position.members, Datum.fields]
    rfl
  | channelManagement =>
    simp [readAs, fields, report, ChannelManagement.datum, Datum.fields]
    rfl
  | groupAssignment =>
    simp [readAs, fields, report, GroupAssignment.datum, Area.members, Datum.fields]
    rfl
  | longRange =>
    simp [readAs, fields, report, LongRangeReport.datum, Position.members, Datum.fields]
    rfl
  | staticData =>
    by_cases hpart : f.bits.unsigned 38 40 = 0
    · simp [readAs, fields, report, StaticData.datum, Datum.fields, StaticData.read,
        MessageKind.layout, MessageKind.body, hpart]
      rfl
    · simp [readAs, fields, report, StaticData.datum, Datum.fields, StaticData.read,
        MessageKind.layout, MessageKind.body, hpart, PlacedField.values_partB, Mark.fields]
      rfl
  | singleSlotBinary =>
    simp [readAs, fields, report, SingleSlotBinary.datum, SlotPayload.members, Datum.fields,
      MessageKind.layout, MessageKind.body, PlacedField.values_slotPayload]
    rfl
  | multipleSlotBinary =>
    simp [readAs, fields, report, MultipleSlotBinary.datum, SlotPayload.members, Datum.fields,
      MessageKind.layout, MessageKind.body, PlacedField.values_slotPayload]
    rfl

end Message

end VesselTraffic
