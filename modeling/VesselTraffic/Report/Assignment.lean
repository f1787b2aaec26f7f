import VesselTraffic.Frame
import VesselTraffic.Position

/-!
# Assignments

A base station tells one or two stations, or all of a kind inside an area, how
often to report.
-/
namespace VesselTraffic

structure SlotAssignment where
  destination : UInt32
  offset : UInt16
  increment : UInt16
  deriving DecidableEq, Repr

structure ModeAssignment where
  header : Header
  first : SlotAssignment
  second : Option SlotAssignment
  deriving DecidableEq, Repr

namespace SlotAssignment

def decode (v : BitView) (start : Nat) : SlotAssignment :=
  ⟨v.uint32 0 30 start, v.uint16 30 42 start, v.uint16 42 52 start⟩

def datum (a : SlotAssignment) : Datum :=
  .record "SlotAssignment" .silent
    [.named "destination_mmsi" (.full a.destination), .named "offset" (.half a.offset),
     .named "increment" (.half a.increment)]

end SlotAssignment

namespace ModeAssignment

def read (f : Frame) : ModeAssignment :=
  let v := f.bits
  { header := f.header
    first := SlotAssignment.decode v 40
    second := if 144 ≤ v.len then some (SlotAssignment.decode v 92) else none }

def decode (f : Frame) : Except Refusal ModeAssignment := do
  f.ensure .modeAssignment
  return read f

def datum (r : ModeAssignment) : Datum :=
  .record "AssignedModeCommand" .silent
    [r.header.member, .named "assignment_a" r.first.datum,
     .named "assignment_b" (.ofOption SlotAssignment.datum r.second)]

end ModeAssignment

/-- The area between two corners, on a coarse grid. -/
structure Area where
  northEast : Position
  southWest : Position
  deriving DecidableEq, Repr

namespace Area

def decode (v : BitView) (start : Nat) : Area :=
  ⟨Position.coarse v start, Position.coarse v (start + 35)⟩

def notices (a : Area) (mmsi : UInt32) : List Notice :=
  Notice.position mmsi a.northEast ++ Notice.position mmsi a.southWest

def members (a : Area) : List Member :=
  [.named "ne_longitude" (.real a.northEast.longitude.value),
   .named "ne_latitude" (.real a.northEast.latitude.value),
   .named "sw_longitude" (.real a.southWest.longitude.value),
   .named "sw_latitude" (.real a.southWest.latitude.value)]

end Area

structure GroupAssignment where
  header : Header
  area : Area
  stationType : UInt8
  shipType : UInt8
  mode : UInt8
  interval : UInt8
  quietMinutes : UInt8
  deriving DecidableEq, Repr

namespace GroupAssignment

def read (f : Frame) : GroupAssignment :=
  let v := f.bits
  { header := f.header
    area := Area.decode v 40
    stationType := v.uint8 110 114
    shipType := v.uint8 114 122
    mode := v.uint8 144 146
    interval := v.uint8 146 150
    quietMinutes := v.uint8 150 154 }

def decode (f : Frame) : Except Refusal GroupAssignment := do
  f.ensure .groupAssignment
  return read f

def notices (r : GroupAssignment) : List Notice := r.area.notices r.header.mmsi

def datum (r : GroupAssignment) : Datum :=
  .record "GroupAssignmentCommand" .silent
    (r.header.member :: r.area.members ++
     [.named "station_type" (.byte r.stationType),
      .named "ship_type" (.byte r.shipType),
      .named "tx_rx_mode" (.byte r.mode),
      .named "report_interval" (.byte r.interval),
      .named "quiet_time" (.byte r.quietMinutes)])

end GroupAssignment

end VesselTraffic
