/-!
# The kinds of messages

The first six bits of a message select one of 27 kinds. Each kind has a title and
bounds on the length of its messages in bits.
-/
namespace VesselTraffic

inductive MessageKind
  | scheduledPosition
  | assignedPosition
  | polledPosition
  | baseStation
  | voyageData
  | addressedBinary
  | binaryAcknowledge
  | binaryBroadcast
  | aircraftPosition
  | timeInquiry
  | timeResponse
  | addressedSafety
  | safetyAcknowledge
  | safetyBroadcast
  | interrogation
  | modeAssignment
  | corrections
  | classBPosition
  | extendedClassB
  | linkManagement
  | navigationAid
  | channelManagement
  | groupAssignment
  | staticData
  | singleSlotBinary
  | multipleSlotBinary
  | longRange
  deriving DecidableEq, Repr

/-- The least and the greatest length of a message, in bits. -/
structure LengthBounds where
  least : Nat
  most : Nat
  deriving DecidableEq, Repr

namespace LengthBounds

def isFixed (b : LengthBounds) : Bool := b.least == b.most

def allows (b : LengthBounds) (len : Nat) : Bool := b.least ≤ len && len ≤ b.most

end LengthBounds

namespace MessageKind

def all : List MessageKind :=
  [.scheduledPosition, .assignedPosition, .polledPosition, .baseStation, .voyageData,
   .addressedBinary, .binaryAcknowledge, .binaryBroadcast, .aircraftPosition, .timeInquiry,
   .timeResponse, .addressedSafety, .safetyAcknowledge, .safetyBroadcast, .interrogation,
   .modeAssignment, .corrections, .classBPosition, .extendedClassB, .linkManagement,
   .navigationAid, .channelManagement, .groupAssignment, .staticData, .singleSlotBinary,
   .multipleSlotBinary, .longRange]

/-- The number that selects the kind, from 1 to 27. -/
def code : MessageKind → UInt8
  | .scheduledPosition => 1
  | .assignedPosition => 2
  | .polledPosition => 3
  | .baseStation => 4
  | .voyageData => 5
  | .addressedBinary => 6
  | .binaryAcknowledge => 7
  | .binaryBroadcast => 8
  | .aircraftPosition => 9
  | .timeInquiry => 10
  | .timeResponse => 11
  | .addressedSafety => 12
  | .safetyAcknowledge => 13
  | .safetyBroadcast => 14
  | .interrogation => 15
  | .modeAssignment => 16
  | .corrections => 17
  | .classBPosition => 18
  | .extendedClassB => 19
  | .linkManagement => 20
  | .navigationAid => 21
  | .channelManagement => 22
  | .groupAssignment => 23
  | .staticData => 24
  | .singleSlotBinary => 25
  | .multipleSlotBinary => 26
  | .longRange => 27

def ofCode? (code : UInt8) : Option MessageKind := all.find? fun kind => kind.code == code

def title : MessageKind → String
  | .scheduledPosition => "Position report class A (scheduled)"
  | .assignedPosition => "Position report class A (assigned schedule)"
  | .polledPosition => "Position report class A (response to interrogation)"
  | .baseStation => "Base station report"
  | .voyageData => "Static and voyage related data"
  | .addressedBinary => "Binary addressed message"
  | .binaryAcknowledge => "Binary acknowledge"
  | .binaryBroadcast => "Binary broadcast message"
  | .aircraftPosition => "Standard SAR aircraft position report"
  | .timeInquiry => "UTC and date inquiry"
  | .timeResponse => "UTC and date response"
  | .addressedSafety => "Addressed safety related message"
  | .safetyAcknowledge => "Safety related acknowledge"
  | .safetyBroadcast => "Safety related broadcast message"
  | .interrogation => "Interrogation"
  | .modeAssignment => "Assigned mode command"
  | .corrections => "DGNSS binary broadcast message"
  | .classBPosition => "Standard class B CS position report"
  | .extendedClassB => "Extended class B equipment position report"
  | .linkManagement => "Data link management"
  | .navigationAid => "Aid-to-navigation report"
  | .channelManagement => "Channel management"
  | .groupAssignment => "Group assignment command"
  | .staticData => "Static data report"
  | .singleSlotBinary => "Single slot binary message"
  | .multipleSlotBinary => "Multiple slot binary message"
  | .longRange => "Long range AIS broadcast message"

/-- Some transmitters leave out the last bits of voyage data, and some pad the first
part of static data to whole bytes. -/
def bounds : MessageKind → LengthBounds
  | .voyageData => ⟨420, 424⟩
  | .addressedBinary => ⟨88, 1008⟩
  | .binaryAcknowledge => ⟨72, 168⟩
  | .binaryBroadcast => ⟨56, 1008⟩
  | .timeInquiry => ⟨72, 72⟩
  | .addressedSafety => ⟨72, 1008⟩
  | .safetyAcknowledge => ⟨72, 168⟩
  | .safetyBroadcast => ⟨40, 1008⟩
  | .interrogation => ⟨88, 160⟩
  | .modeAssignment => ⟨96, 144⟩
  | .corrections => ⟨80, 816⟩
  | .extendedClassB => ⟨312, 312⟩
  | .linkManagement => ⟨72, 160⟩
  | .navigationAid => ⟨272, 360⟩
  | .groupAssignment => ⟨160, 160⟩
  | .staticData => ⟨160, 168⟩
  | .singleSlotBinary => ⟨40, 168⟩
  | .multipleSlotBinary => ⟨60, 1064⟩
  | .longRange => ⟨96, 96⟩
  | .scheduledPosition | .assignedPosition | .polledPosition | .baseStation | .aircraftPosition
  | .timeResponse | .classBPosition | .channelManagement => ⟨168, 168⟩

/-- The name of the kind where names stand for values. -/
def word : MessageKind → String
  | .scheduledPosition => "PositionReportClassAScheduled"
  | .assignedPosition => "PositionReportClassAAssigned"
  | .polledPosition => "PositionReportClassAResponse"
  | .baseStation => "BaseStationReport"
  | .voyageData => "ShipAndVoyageData"
  | .addressedBinary => "AddressedBinary"
  | .binaryAcknowledge => "BinaryAcknowledge"
  | .binaryBroadcast => "BinaryBroadcast"
  | .aircraftPosition => "SarAircraftPositionReport"
  | .timeInquiry => "UtcAndDateInquiry"
  | .timeResponse => "UtcAndDateResponse"
  | .addressedSafety => "AddressedSafetyRelated"
  | .safetyAcknowledge => "SafetyRelatedAcknowledge"
  | .safetyBroadcast => "SafetyRelatedBroadcast"
  | .interrogation => "Interrogation"
  | .modeAssignment => "AssignedModeCommand"
  | .corrections => "GnssBinaryBroadcast"
  | .classBPosition => "StandardClassBPositionReport"
  | .extendedClassB => "ExtendedClassBPositionReport"
  | .linkManagement => "DataLinkManagement"
  | .navigationAid => "AidToNavigationReport"
  | .channelManagement => "ChannelManagement"
  | .groupAssignment => "GroupAssignmentCommand"
  | .staticData => "StaticDataReport"
  | .singleSlotBinary => "SingleSlotBinary"
  | .multipleSlotBinary => "MultipleSlotBinary"
  | .longRange => "LongRangeBroadcast"

/-- The number and the title together. -/
def label (kind : MessageKind) : String := toString kind.code.toNat ++ " (" ++ kind.title ++ ")"

theorem ofCode?_code (kind : MessageKind) : ofCode? kind.code = some kind := by
  cases kind <;> rfl

example : all.length = 27 := rfl

end MessageKind

end VesselTraffic
