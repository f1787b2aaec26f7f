import VesselTraffic.Frame

/-!
# Interrogations

One or two stations are asked for messages: the first one for one or two of them,
the second one for one. A part that the frame does not hold as a whole is left out.
-/
namespace VesselTraffic

structure MessageRequest where
  messageType : UInt8
  slotOffset : UInt16
  deriving DecidableEq, Repr

structure InterrogatedStation where
  mmsi : UInt32
  first : MessageRequest
  second : Option MessageRequest
  deriving DecidableEq, Repr

structure Interrogation where
  header : Header
  station1 : InterrogatedStation
  station2 : Option InterrogatedStation
  deriving DecidableEq, Repr

namespace MessageRequest

def decode (v : BitView) (start : Nat) : MessageRequest :=
  ⟨v.uint8 0 6 start, v.uint16 6 18 start⟩

def datum (r : MessageRequest) : Datum :=
  .record "InterrogationRequest" .silent
    [.named "message_type" (.byte r.messageType), .named "slot_offset" (.half r.slotOffset)]

end MessageRequest

namespace InterrogatedStation

def datum (s : InterrogatedStation) : Datum :=
  .record "InterrogatedStation" .silent
    [.named "mmsi" (.full s.mmsi), .named "first" s.first.datum,
     .named "second" (.ofOption MessageRequest.datum s.second)]

end InterrogatedStation

namespace Interrogation

def read (f : Frame) : Interrogation :=
  let v := f.bits
  { header := f.header
    station1 := {
      mmsi := v.uint32 40 70
      first := MessageRequest.decode v 70
      second := if 108 ≤ v.len then some (MessageRequest.decode v 90) else none }
    station2 :=
      if 158 ≤ v.len then some ⟨v.uint32 110 140, MessageRequest.decode v 140, none⟩ else none }

def decode (f : Frame) : Except Refusal Interrogation := do
  f.ensure .interrogation
  return read f

def datum (r : Interrogation) : Datum :=
  .record "Interrogation" .silent
    [r.header.member, .named "station_1" r.station1.datum,
     .named "station_2" (.ofOption InterrogatedStation.datum r.station2)]

end Interrogation

end VesselTraffic
