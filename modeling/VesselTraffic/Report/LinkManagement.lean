import VesselTraffic.Report.Assignment
import VesselTraffic.Report.Group

/-!
# Management of the radio link

A base station reserves slots for itself, and tells which channels are used in an
area or by two stations.
-/
namespace VesselTraffic

structure SlotReservation where
  offset : UInt16
  slots : UInt8
  timeoutMinutes : UInt8
  increment : UInt16
  deriving DecidableEq, Repr

structure LinkManagement where
  header : Header
  reservations : List SlotReservation
  deriving DecidableEq, Repr

namespace SlotReservation

def width : Nat := 30

def decode (v : BitView) (start : Nat) : SlotReservation where
  offset := v.uint16 0 12 start
  slots := v.uint8 12 16 start
  timeoutMinutes := v.uint8 16 19 start
  increment := v.uint16 19 30 start

def datum (r : SlotReservation) : Datum :=
  .record "SlotReservation" .silent
    [.named "offset" (.half r.offset), .named "number_of_slots" (.byte r.slots),
     .named "timeout" (.byte r.timeoutMinutes), .named "increment" (.half r.increment)]

end SlotReservation

namespace LinkManagement

def read (f : Frame) : LinkManagement :=
  ⟨f.header, f.bits.groups 40 SlotReservation.width 4 (SlotReservation.decode f.bits)⟩

def decode (f : Frame) : Except Refusal LinkManagement := do
  f.ensure .linkManagement
  return read f

def datum (r : LinkManagement) : Datum :=
  .record "DataLinkManagement" .silent
    [r.header.member, .named "reservations" (.list (r.reservations.map SlotReservation.datum))]

end LinkManagement

/-- Whom a plan of channels is for. -/
inductive ChannelTarget
  | area (area : Area)
  | addressed (first second : UInt32)
  deriving DecidableEq, Repr

structure ChannelManagement where
  header : Header
  channelA : UInt16
  channelB : UInt16
  mode : UInt8
  lowPower : Bool
  target : ChannelTarget
  narrowA : Bool
  narrowB : Bool
  zoneSize : UInt8
  deriving DecidableEq, Repr

namespace ChannelTarget

def decode (v : BitView) : ChannelTarget :=
  if v.bit 139 then .addressed (v.uint32 69 99) (v.uint32 104 134) else .area (Area.decode v 69)

def datum : ChannelTarget → Datum
  | area a => .record "Area" (.member "target" "area") a.members
  | addressed first second =>
    .record "Addressed" (.member "target" "addressed")
      [.named "destination_mmsi_1" (.full first), .named "destination_mmsi_2" (.full second)]

end ChannelTarget

namespace ChannelManagement

def read (f : Frame) : ChannelManagement :=
  let v := f.bits
  { header := f.header
    channelA := v.uint16 40 52
    channelB := v.uint16 52 64
    mode := v.uint8 64 68
    lowPower := v.bit 68
    target := ChannelTarget.decode v
    narrowA := v.bit 140
    narrowB := v.bit 141
    zoneSize := v.uint8 142 145 }

def decode (f : Frame) : Except Refusal ChannelManagement := do
  f.ensure .channelManagement
  return read f

def notices (r : ChannelManagement) : List Notice :=
  match r.target with
  | .area a => a.notices r.header.mmsi
  | .addressed .. => []

def datum (r : ChannelManagement) : Datum :=
  .record "ChannelManagement" .silent
    [r.header.member,
     .named "channel_a" (.half r.channelA),
     .named "channel_b" (.half r.channelB),
     .named "tx_rx_mode" (.byte r.mode),
     .named "power" (.truth r.lowPower),
     .named "target" r.target.datum,
     .named "channel_a_band" (.truth r.narrowA),
     .named "channel_b_band" (.truth r.narrowB),
     .named "zone_size" (.byte r.zoneSize)]

end ChannelManagement

end VesselTraffic
