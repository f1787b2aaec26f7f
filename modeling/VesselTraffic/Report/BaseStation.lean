import VesselTraffic.CommunicationState
import VesselTraffic.Frame
import VesselTraffic.Position

/-!
# Time and date

Base stations report the time and their position; a mobile station answers an
inquiry for the time in the same layout.
-/
namespace VesselTraffic

structure BaseStationReport where
  header : Header
  year : UInt16
  month : UInt8
  day : UInt8
  hour : UInt8
  minute : UInt8
  second : UInt8
  accurate : Bool
  position : Position
  fix : PositionFix
  raim : Bool
  communication : CommunicationState
  deriving DecidableEq, Repr

namespace BaseStationReport

/-- Every code but that of an answer is taken to be a base station's. -/
def kindFor (code : UInt8) : MessageKind := if code = 11 then .timeResponse else .baseStation

def read (f : Frame) : BaseStationReport :=
  let v := f.bits
  { header := f.header
    year := v.uint16 38 52
    month := v.uint8 52 56
    day := v.uint8 56 61
    hour := v.uint8 61 66
    minute := v.uint8 66 72
    second := v.uint8 72 78
    accurate := v.bit 78
    position := Position.fine v 79
    fix := PositionFix.ofCode (v.uint8 134 138)
    raim := v.bit 148
    communication := CommunicationState.decode v 149 false }

def decode (f : Frame) : Except Refusal BaseStationReport := do
  f.ensure (kindFor f.code)
  return read f

/-- Month and day zero, hour 24 and minute 60 stand for unknown ones. -/
def notices (r : BaseStationReport) : List Notice :=
  let mmsi := r.header.mmsi
  r.communication.notices ++ Notice.byteRange mmsi "month" r.month 0 12
    ++ Notice.byteRange mmsi "day" r.day 0 31 ++ Notice.byteRange mmsi "hour" r.hour 0 24
    ++ Notice.byteRange mmsi "minute" r.minute 0 60 ++ Notice.position mmsi r.position

def datum (r : BaseStationReport) : Datum :=
  .record "BaseStationReport" .silent
    ([r.header.member,
      .named "year" (.half r.year),
      .named "month" (.byte r.month),
      .named "day" (.byte r.day),
      .named "hour" (.byte r.hour),
      .named "minute" (.byte r.minute),
      .named "second" (.byte r.second),
      .named "position_accuracy" (.truth r.accurate)]
      ++ r.position.members ++
     [.named "position_fixing_device" r.fix.datum,
      .named "raim" (.truth r.raim),
      .named "communication_state" r.communication.datum])

end BaseStationReport

/-- Asks a station for the time. -/
structure TimeInquiry where
  header : Header
  destination : UInt32
  deriving DecidableEq, Repr

namespace TimeInquiry

def read (f : Frame) : TimeInquiry := ⟨f.header, f.bits.uint32 40 70⟩

def decode (f : Frame) : Except Refusal TimeInquiry := do
  f.ensure .timeInquiry
  return read f

def datum (r : TimeInquiry) : Datum :=
  .record "UtcDateInquiry" .silent
    [r.header.member, .named "destination_mmsi" (.full r.destination)]

end TimeInquiry

end VesselTraffic
