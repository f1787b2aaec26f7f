import VesselTraffic.Position
import VesselTraffic.Report.Group

/-!
# Tidal windows

Up to three times and places at which a passage is possible. In the old layout the
latitude comes first and both halves of the position are finer.
-/
namespace VesselTraffic

structure TidalWindowEntry where
  position : Position
  fromHour : UInt8
  fromMinute : UInt8
  toHour : UInt8
  toMinute : UInt8
  currentDirection : UInt16
  currentSpeed : Quantity
  deriving DecidableEq, Repr

structure TidalWindow where
  month : UInt8
  day : UInt8
  windows : List TidalWindowEntry
  deriving DecidableEq, Repr

namespace TidalWindowEntry

/-- The fields behind the position. -/
def behind (v : BitView) (position : Position) (start : Nat) : TidalWindowEntry where
  position := position
  fromHour := v.uint8 0 5 start
  fromMinute := v.uint8 5 11 start
  toHour := v.uint8 11 16 start
  toMinute := v.uint8 16 22 start
  currentDirection := v.uint16 22 31 start
  currentSpeed := v.unsignedParts 31 38 10 start

def oldWidth : Nat := 93

def decodeOld (v : BitView) (start : Nat) : TidalWindowEntry :=
  let latitude := v.signedParts 0 27 Position.fineParts start
  let longitude := v.signedParts 27 55 Position.fineParts start
  behind v ⟨longitude, latitude⟩ (start + 55)

def newWidth : Nat := 87

def decodeNew (v : BitView) (start : Nat) : TidalWindowEntry :=
  behind v (Position.medium v start) (start + 49)

def datum (e : TidalWindowEntry) : Datum :=
  .record "TidalWindowEntry" .silent
    (e.position.members ++
     [.named "from_hour" (.byte e.fromHour),
      .named "from_minute" (.byte e.fromMinute),
      .named "to_hour" (.byte e.toHour),
      .named "to_minute" (.byte e.toMinute),
      .named "current_direction" (.half e.currentDirection),
      .named "current_speed" (.real e.currentSpeed.value)])

end TidalWindowEntry

namespace TidalWindow

def ofWindows (v : BitView) (windows : List TidalWindowEntry) : TidalWindow :=
  ⟨v.uint8 0 4, v.uint8 4 9, windows⟩

def decodeOld (v : BitView) : TidalWindow :=
  ofWindows v (v.groups 9 TidalWindowEntry.oldWidth 3 (TidalWindowEntry.decodeOld v))

def decodeNew (v : BitView) : TidalWindow :=
  ofWindows v (v.groups 9 TidalWindowEntry.newWidth 3 (TidalWindowEntry.decodeNew v))

def datum (w : TidalWindow) : Datum :=
  .record "TidalWindow" .silent
    [.named "month" (.byte w.month), .named "day" (.byte w.day),
     .named "windows" (.list (w.windows.map TidalWindowEntry.datum))]

end TidalWindow

end VesselTraffic
