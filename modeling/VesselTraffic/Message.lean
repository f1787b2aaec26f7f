import VesselTraffic.Report.Acknowledgement
import VesselTraffic.Report.Aircraft
import VesselTraffic.Report.Assignment
import VesselTraffic.Report.BaseStation
import VesselTraffic.Report.Binary
import VesselTraffic.Report.ClassA
import VesselTraffic.Report.ClassB
import VesselTraffic.Report.Corrections
import VesselTraffic.Report.Interrogation
import VesselTraffic.Report.LinkManagement
import VesselTraffic.Report.LongRange
import VesselTraffic.Report.NavigationAid
import VesselTraffic.Report.Safety
import VesselTraffic.Report.VoyageData

/-!
# Messages

A message is a report of one of 25 forms. The kind of a frame selects the form in
which it is decoded; the notices of a message are computed apart from it.
-/
namespace VesselTraffic

inductive Message
  | classA (r : ClassAReport)
  | baseStation (r : BaseStationReport)
  | voyageData (r : VoyageData)
  | addressedBinary (r : AddressedBinary)
  | binaryAcknowledge (r : Acknowledgement)
  | binaryBroadcast (r : BinaryBroadcast)
  | aircraft (r : AircraftReport)
  | timeInquiry (r : TimeInquiry)
  | timeResponse (r : BaseStationReport)
  | addressedSafety (r : AddressedSafety)
  | safetyAcknowledge (r : Acknowledgement)
  | safetyBroadcast (r : SafetyBroadcast)
  | interrogation (r : Interrogation)
  | modeAssignment (r : ModeAssignment)
  | corrections (r : Corrections)
  | classB (r : ClassBReport)
  | extendedClassB (r : ExtendedClassBReport)
  | linkManagement (r : LinkManagement)
  | navigationAid (r : NavigationAid)
  | channelManagement (r : ChannelManagement)
  | groupAssignment (r : GroupAssignment)
  | staticData (r : StaticData)
  | singleSlotBinary (r : SingleSlotBinary)
  | multipleSlotBinary (r : MultipleSlotBinary)
  | longRange (r : LongRangeReport)
  deriving DecidableEq

namespace Message

def header : Message → Header
  | classA r => r.header
  | baseStation r | timeResponse r => r.header
  | voyageData r => r.header
  | addressedBinary r => r.header
  | binaryAcknowledge r | safetyAcknowledge r => r.header
  | binaryBroadcast r => r.header
  | aircraft r => r.header
  | timeInquiry r => r.header
  | addressedSafety r => r.header
  | safetyBroadcast r => r.header
  | interrogation r => r.header
  | modeAssignment r => r.header
  | corrections r => r.header
  | classB r => r.header
  | extendedClassB r => r.header
  | linkManagement r => r.header
  | navigationAid r => r.header
  | channelManagement r => r.header
  | groupAssignment r => r.header
  | staticData r => r.header
  | singleSlotBinary r => r.header
  | multipleSlotBinary r => r.header
  | longRange r => r.header

def messageType (m : Message) : UInt8 := m.header.messageType

def mmsi (m : Message) : UInt32 := m.header.mmsi

/-- The position as it was sent, if the form has one. -/
def sentPosition? : Message → Option Position
  | classA r => some r.position
  | baseStation r | timeResponse r => some r.position
  | aircraft r => some r.position
  | corrections r => some r.position
  | classB r => some r.position
  | extendedClassB r => some r.position
  | navigationAid r => some r.position
  | longRange r => some r.position
  | _ => none

/-- The position of the sender, if it is known. -/
def position? (m : Message) : Option Position := m.sentPosition?.bind Position.known?

/-- Decodes a frame as a message of a kind. Each form checks the frame itself. -/
def decodeAs (kind : MessageKind) (f : Frame) : Except Refusal Message :=
  match kind with
  | .scheduledPosition | .assignedPosition | .polledPosition => (ClassAReport.decode f).map classA
  | .baseStation => (BaseStationReport.decode f).map baseStation
  | .voyageData => (VoyageData.decode f).map voyageData
  | .addressedBinary => (AddressedBinary.decode f).map addressedBinary
  | .binaryAcknowledge => (Acknowledgement.decode f).map binaryAcknowledge
  | .binaryBroadcast => (BinaryBroadcast.decode f).map binaryBroadcast
  | .aircraftPosition => (AircraftReport.decode f).map aircraft
  | .timeInquiry => (TimeInquiry.decode f).map timeInquiry
  | .timeResponse => (BaseStationReport.decode f).map timeResponse
  | .addressedSafety => (AddressedSafety.decode f).map addressedSafety
  | .safetyAcknowledge => (Acknowledgement.decode f).map safetyAcknowledge
  | .safetyBroadcast => (SafetyBroadcast.decode f).map safetyBroadcast
  | .interrogation => (Interrogation.decode f).map interrogation
  | .modeAssignment => (ModeAssignment.decode f).map modeAssignment
  | .corrections => (Corrections.decode f).map corrections
  | .classBPosition => (ClassBReport.decode f).map classB
  | .extendedClassB => (ExtendedClassBReport.decode f).map extendedClassB
  | .linkManagement => (LinkManagement.decode f).map linkManagement
  | .navigationAid => (NavigationAid.decode f).map navigationAid
  | .channelManagement => (ChannelManagement.decode f).map channelManagement
  | .groupAssignment => (GroupAssignment.decode f).map groupAssignment
  | .staticData => (StaticData.decode f).map staticData
  | .singleSlotBinary => (SingleSlotBinary.decode f).map singleSlotBinary
  | .multipleSlotBinary => (MultipleSlotBinary.decode f).map multipleSlotBinary
  | .longRange => (LongRangeReport.decode f).map longRange

/-- Decodes a frame as the kind that its first bits name. -/
def decode (f : Frame) : Except Refusal Message := do decodeAs (← f.kind) f

/-- The notices of a message decoded from a frame. -/
def notices (f : Frame) : Message → List Notice
  | classA r => r.notices
  | baseStation r | timeResponse r => r.notices
  | voyageData r => r.notices
  | addressedBinary _ => AddressedBinary.notices f
  | binaryBroadcast _ => BinaryBroadcast.notices f
  | aircraft r => r.notices
  | corrections r => r.notices
  | classB r => r.notices
  | extendedClassB r => r.notices
  | navigationAid r => r.notices
  | channelManagement r => r.notices
  | groupAssignment r => r.notices
  | singleSlotBinary _ => SingleSlotBinary.notices f
  | multipleSlotBinary r => r.notices f
  | longRange r => r.notices
  | _ => []

/-- The name of the form where names stand for values. -/
def form : Message → String
  | classA _ => "PositionReport"
  | baseStation _ => "BaseStationReport"
  | voyageData _ => "ShipStaticData"
  | addressedBinary _ => "AddressedBinary"
  | binaryAcknowledge _ => "BinaryAcknowledge"
  | binaryBroadcast _ => "BinaryBroadcast"
  | aircraft _ => "SarAircraftPosition"
  | timeInquiry _ => "UtcDateInquiry"
  | timeResponse _ => "UtcDateResponse"
  | addressedSafety _ => "AddressedSafety"
  | safetyAcknowledge _ => "SafetyAcknowledge"
  | safetyBroadcast _ => "SafetyBroadcast"
  | interrogation _ => "Interrogation"
  | modeAssignment _ => "AssignedModeCommand"
  | corrections _ => "GnssBroadcast"
  | classB _ => "ClassBPosition"
  | extendedClassB _ => "ExtendedClassBPosition"
  | linkManagement _ => "DataLinkManagement"
  | navigationAid _ => "AidToNavigation"
  | channelManagement _ => "ChannelManagement"
  | groupAssignment _ => "GroupAssignment"
  | staticData _ => "StaticDataReport"
  | singleSlotBinary _ => "SingleSlotBinary"
  | multipleSlotBinary _ => "MultipleSlotBinary"
  | longRange _ => "LongRangeBroadcast"

def report : Message → Datum
  | classA r => r.datum
  | baseStation r | timeResponse r => r.datum
  | voyageData r => r.datum
  | addressedBinary r => r.datum
  | binaryAcknowledge r | safetyAcknowledge r => r.datum
  | binaryBroadcast r => r.datum
  | aircraft r => r.datum
  | timeInquiry r => r.datum
  | addressedSafety r => r.datum
  | safetyBroadcast r => r.datum
  | interrogation r => r.datum
  | modeAssignment r => r.datum
  | corrections r => r.datum
  | classB r => r.datum
  | extendedClassB r => r.datum
  | linkManagement r => r.datum
  | navigationAid r => r.datum
  | channelManagement r => r.datum
  | groupAssignment r => r.datum
  | staticData r => r.datum
  | singleSlotBinary r => r.datum
  | multipleSlotBinary r => r.datum
  | longRange r => r.datum

def datum (m : Message) : Datum := .wrapped m.form .silent m.report

end Message

end VesselTraffic
