import VesselTraffic.Datum

/-!
# Hull dimensions and arrival times

Blocks of bits that several messages share: the distances from the reported
position to the ends and sides of the hull in metres, and a time of arrival without
a year.
-/
namespace VesselTraffic

structure Hull where
  toBow : UInt16
  toStern : UInt16
  toPort : UInt8
  toStarboard : UInt8
  deriving DecidableEq, Repr

namespace Hull

/-- The block of 30 bits at a position. -/
def decode (v : BitView) (start : Nat) : Hull where
  toBow := v.uint16 0 9 start
  toStern := v.uint16 9 18 start
  toPort := v.uint8 18 24 start
  toStarboard := v.uint8 24 30 start

def length (h : Hull) : Nat := h.toBow.toNat + h.toStern.toNat

def beam (h : Hull) : Nat := h.toPort.toNat + h.toStarboard.toNat

def datum (h : Hull) : Datum :=
  .record "Dimensions" .silent
    [.named "to_bow" (.half h.toBow), .named "to_stern" (.half h.toStern),
     .named "to_port" (.byte h.toPort), .named "to_starboard" (.byte h.toStarboard)]

end Hull

/-- Month and day zero, hour 24 and minute 60 stand for an unknown time. -/
structure ArrivalTime where
  month : UInt8
  day : UInt8
  hour : UInt8
  minute : UInt8
  deriving DecidableEq, Repr

namespace ArrivalTime

/-- The block of 20 bits at a position. -/
def decode (v : BitView) (start : Nat) : ArrivalTime where
  month := v.uint8 0 4 start
  day := v.uint8 4 9 start
  hour := v.uint8 9 14 start
  minute := v.uint8 14 20 start

def isAvailable (t : ArrivalTime) : Bool :=
  t.month != 0 && t.day != 0 && t.hour < 24 && t.minute < 60

def datum (t : ArrivalTime) : Datum :=
  .record "Eta" .silent
    [.named "month" (.byte t.month), .named "day" (.byte t.day), .named "hour" (.byte t.hour),
     .named "minute" (.byte t.minute)]

end ArrivalTime

end VesselTraffic
