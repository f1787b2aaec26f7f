import VesselTraffic.CommunicationState
import VesselTraffic.Frame
import VesselTraffic.Position

/-!
# Position reports of search and rescue aircraft

Altitude is in metres, 4095 standing for an unknown one, and speed in knots, 1023
standing for an unknown one.
-/
namespace VesselTraffic

structure AircraftReport where
  header : Header
  altitude : UInt16
  speed : UInt16
  accurate : Bool
  position : Position
  course : Quantity
  second : UInt8
  regional : UInt8
  dte : Bool
  assigned : Bool
  raim : Bool
  communication : CommunicationState
  deriving DecidableEq, Repr

namespace AircraftReport

def read (f : Frame) : AircraftReport :=
  let v := f.bits
  { header := f.header
    altitude := v.uint16 38 50
    speed := v.uint16 50 60
    accurate := v.bit 60
    position := Position.fine v 61
    course := v.unsignedParts 116 128 10
    second := v.uint8 128 134
    regional := v.uint8 134 142
    dte := v.bit 142
    assigned := v.bit 146
    raim := v.bit 147
    communication := CommunicationState.decodeSelected v 148 }

def decode (f : Frame) : Except Refusal AircraftReport := do
  f.ensure .aircraftPosition
  return read f

def notices (r : AircraftReport) : List Notice :=
  r.communication.notices ++ Notice.position r.header.mmsi r.position
    ++ Notice.course r.header.mmsi r.course

def datum (r : AircraftReport) : Datum :=
  .record "SarAircraftPositionReport" .silent
    ([r.header.member,
      .named "altitude" (.half r.altitude),
      .named "speed_over_ground" (.half r.speed),
      .named "position_accuracy" (.truth r.accurate)]
      ++ r.position.members ++
     [.named "course_over_ground" (.real r.course.value),
      .named "timestamp" (.byte r.second),
      .named "regional_reserved" (.byte r.regional),
      .named "dte" (.truth r.dte),
      .named "assigned" (.truth r.assigned),
      .named "raim" (.truth r.raim),
      .named "communication_state" r.communication.datum])

end AircraftReport

end VesselTraffic
