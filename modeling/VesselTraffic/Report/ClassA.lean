import VesselTraffic.CommunicationState
import VesselTraffic.Frame
import VesselTraffic.Position

/-!
# Position reports of large vessels

The kinds 1, 2 and 3 share a layout. Only the third one, the answer to an
interrogation, carries an incremental communication state.
-/
namespace VesselTraffic

structure ClassAReport where
  header : Header
  status : NavigationStatus
  rateOfTurn : Int8
  speed : Quantity
  accurate : Bool
  position : Position
  course : Quantity
  heading : UInt16
  second : UInt8
  maneuver : Maneuver
  raim : Bool
  communication : CommunicationState
  deriving DecidableEq, Repr

namespace ClassAReport

def kind? (code : UInt8) : Option MessageKind :=
  if code = 1 then some .scheduledPosition
  else if code = 2 then some .assignedPosition
  else if code = 3 then some .polledPosition
  else none

/-- The fields of a message of one of the three kinds. -/
def read (f : Frame) (kind : MessageKind) : ClassAReport :=
  let v := f.bits
  { header := f.header
    status := NavigationStatus.ofCode (v.uint8 38 42)
    rateOfTurn := v.int8 42 50
    speed := v.unsignedParts 50 60 10
    accurate := v.bit 60
    position := Position.fine v 61
    course := v.unsignedParts 116 128 10
    heading := v.uint16 128 137
    second := v.uint8 137 143
    maneuver := Maneuver.ofCode (v.uint8 143 145)
    raim := v.bit 148
    communication := CommunicationState.decode v 149 (kind == .polledPosition) }

def decode (f : Frame) : Except Refusal ClassAReport := do
  let some kind := kind? f.code | .error (.invalidFrame f.code .notClassA)
  f.ensure kind
  return read f kind

/-- The sensor's reading is `4.733` times the square root of degrees per minute. -/
def sensorFactor : Binary64 := Binary64.ofRatio false 4733 1000

/-- Degrees per minute, unless the rate is unknown or only its direction is known. -/
def degreesPerMinute? (r : ClassAReport) : Option Binary64 :=
  let n := r.rateOfTurn.toInt
  if n = -128 ∨ n = -127 ∨ n = 127 then none
  else
    let root := (Binary64.ofInt n).div sensorFactor
    let rate := root.mul root
    some (if n < 0 then rate.neg else rate)

def notices (r : ClassAReport) : List Notice :=
  r.communication.notices ++ Notice.position r.header.mmsi r.position
    ++ Notice.course r.header.mmsi r.course ++ Notice.heading r.header.mmsi r.heading

def datum (r : ClassAReport) : Datum :=
  .record "PositionReport" .silent
    ([r.header.member,
      .named "navigation_status" r.status.datum,
      .named "rate_of_turn" (.number r.rateOfTurn.toInt),
      .named "speed_over_ground" (.real r.speed.value),
      .named "position_accuracy" (.truth r.accurate)]
      ++ r.position.members ++
     [.named "course_over_ground" (.real r.course.value),
      .named "true_heading" (.half r.heading),
      .named "timestamp" (.byte r.second),
      .named "maneuver" r.maneuver.datum,
      .named "raim" (.truth r.raim),
      .named "communication_state" r.communication.datum])

end ClassAReport

end VesselTraffic
