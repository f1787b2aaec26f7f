import VesselTraffic.CommunicationState
import VesselTraffic.Frame
import VesselTraffic.Hull
import VesselTraffic.Position
import VesselTraffic.SixBitText

/-!
# Position reports of small vessels

The standard report and the extended one begin alike. The extended one goes on with
the name, type and hull of the vessel and has no communication state.
-/
namespace VesselTraffic

structure ClassBReport where
  header : Header
  regional : UInt8
  speed : Quantity
  accurate : Bool
  position : Position
  course : Quantity
  heading : UInt16
  second : UInt8
  regional2 : UInt8
  carrierSense : Bool
  display : Bool
  dsc : Bool
  band : Bool
  acceptsChannelPlan : Bool
  assigned : Bool
  raim : Bool
  communication : CommunicationState
  deriving DecidableEq, Repr

namespace ClassBReport

def read (f : Frame) : ClassBReport :=
  let v := f.bits
  { header := f.header
    regional := v.uint8 38 46
    speed := v.unsignedParts 46 56 10
    accurate := v.bit 56
    position := Position.fine v 57
    course := v.unsignedParts 112 124 10
    heading := v.uint16 124 133
    second := v.uint8 133 139
    regional2 := v.uint8 139 141
    carrierSense := v.bit 141
    display := v.bit 142
    dsc := v.bit 143
    band := v.bit 144
    acceptsChannelPlan := v.bit 145
    assigned := v.bit 146
    raim := v.bit 147
    communication := CommunicationState.decodeSelected v 148 }

def decode (f : Frame) : Except Refusal ClassBReport := do
  f.ensure .classBPosition
  return read f

def notices (r : ClassBReport) : List Notice :=
  r.communication.notices ++ Notice.position r.header.mmsi r.position
    ++ Notice.course r.header.mmsi r.course ++ Notice.heading r.header.mmsi r.heading

def datum (r : ClassBReport) : Datum :=
  .record "ClassBPositionReport" .silent
    ([r.header.member,
      .named "regional_reserved" (.byte r.regional),
      .named "speed_over_ground" (.real r.speed.value),
      .named "position_accuracy" (.truth r.accurate)]
      ++ r.position.members ++
     [.named "course_over_ground" (.real r.course.value),
      .named "true_heading" (.half r.heading),
      .named "timestamp" (.byte r.second),
      .named "regional_reserved_2" (.byte r.regional2),
      .named "cs_unit" (.truth r.carrierSense),
      .named "display" (.truth r.display),
      .named "dsc" (.truth r.dsc),
      .named "band" (.truth r.band),
      .named "accepts_message_22" (.truth r.acceptsChannelPlan),
      .named "assigned" (.truth r.assigned),
      .named "raim" (.truth r.raim),
      .named "communication_state" r.communication.datum])

end ClassBReport

structure ExtendedClassBReport where
  header : Header
  regional : UInt8
  speed : Quantity
  accurate : Bool
  position : Position
  course : Quantity
  heading : UInt16
  second : UInt8
  regional2 : UInt8
  name : String
  shipType : UInt8
  hull : Hull
  fix : PositionFix
  raim : Bool
  dte : Bool
  assigned : Bool
  deriving DecidableEq, Repr

namespace ExtendedClassBReport

def read (f : Frame) : ExtendedClassBReport :=
  let v := f.bits
  { header := f.header
    regional := v.uint8 38 46
    speed := v.unsignedParts 46 56 10
    accurate := v.bit 56
    position := Position.fine v 57
    course := v.unsignedParts 112 124 10
    heading := v.uint16 124 133
    second := v.uint8 133 139
    regional2 := v.uint8 139 143
    name := v.text 143 263
    shipType := v.uint8 263 271
    hull := Hull.decode v 271
    fix := PositionFix.ofCode (v.uint8 301 305)
    raim := v.bit 305
    dte := v.bit 306
    assigned := v.bit 307 }

def decode (f : Frame) : Except Refusal ExtendedClassBReport := do
  f.ensure .extendedClassB
  return read f

def notices (r : ExtendedClassBReport) : List Notice :=
  Notice.position r.header.mmsi r.position
    ++ Notice.course r.header.mmsi r.course ++ Notice.heading r.header.mmsi r.heading

def datum (r : ExtendedClassBReport) : Datum :=
  .record "ExtendedClassBPositionReport" .silent
    ([r.header.member,
      .named "regional_reserved" (.byte r.regional),
      .named "speed_over_ground" (.real r.speed.value),
      .named "position_accuracy" (.truth r.accurate)]
      ++ r.position.members ++
     [.named "course_over_ground" (.real r.course.value),
      .named "true_heading" (.half r.heading),
      .named "timestamp" (.byte r.second),
      .named "regional_reserved_2" (.byte r.regional2),
      .named "ship_name" (.text r.name),
      .named "ship_type" (.byte r.shipType),
      .named "dimensions" r.hull.datum,
      .named "position_fixing_device" r.fix.datum,
      .named "raim" (.truth r.raim),
      .named "dte" (.truth r.dte),
      .named "assigned" (.truth r.assigned)])

end ExtendedClassBReport

end VesselTraffic
