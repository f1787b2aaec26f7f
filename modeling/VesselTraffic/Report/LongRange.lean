import VesselTraffic.Codes
import VesselTraffic.Frame
import VesselTraffic.Position

/-!
# Long-range broadcasts

A short report for reception by satellites. Speed is in knots, 63 standing for an
unknown one, and course in degrees, 511 standing for an unknown one.
-/
namespace VesselTraffic

structure LongRangeReport where
  header : Header
  accurate : Bool
  raim : Bool
  status : NavigationStatus
  position : Position
  speed : UInt8
  course : UInt16
  isOld : Bool
  deriving DecidableEq, Repr

namespace LongRangeReport

def read (f : Frame) : LongRangeReport :=
  let v := f.bits
  { header := f.header
    accurate := v.bit 38
    raim := v.bit 39
    status := NavigationStatus.ofCode (v.uint8 40 44)
    position := Position.coarse v 44
    speed := v.uint8 79 85
    course := v.uint16 85 94
    isOld := v.bit 94 }

def decode (f : Frame) : Except Refusal LongRangeReport := do
  f.ensure .longRange
  return read f

def notices (r : LongRangeReport) : List Notice :=
  Notice.position r.header.mmsi r.position ++
    if r.course = 511 then []
    else Notice.range r.header.mmsi "course_over_ground" (.count r.course.toNat) 0 359

def datum (r : LongRangeReport) : Datum :=
  .record "LongRangeBroadcast" .silent
    ([r.header.member,
      .named "position_accuracy" (.truth r.accurate),
      .named "raim" (.truth r.raim),
      .named "navigation_status" r.status.datum]
      ++ r.position.members ++
     [.named "speed_over_ground" (.byte r.speed),
      .named "course_over_ground" (.half r.course),
      .named "position_latency" (.truth r.isOld)])

end LongRangeReport

end VesselTraffic
