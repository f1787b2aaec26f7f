import VesselTraffic.Frame
import VesselTraffic.SixBitText

/-!
# Safety texts

Free texts about safety, addressed to one station or to all.
-/
namespace VesselTraffic

structure AddressedSafety where
  header : Header
  sequence : UInt8
  destination : UInt32
  retransmit : Bool
  text : String
  deriving DecidableEq, Repr

namespace AddressedSafety

def read (f : Frame) : AddressedSafety :=
  let v := f.bits
  { header := f.header
    sequence := v.uint8 38 40
    destination := v.uint32 40 70
    retransmit := v.bit 70
    text := v.textToEnd 72 }

def decode (f : Frame) : Except Refusal AddressedSafety := do
  f.ensure .addressedSafety
  return read f

def datum (r : AddressedSafety) : Datum :=
  .record "AddressedSafetyMessage" .silent
    [r.header.member,
     .named "sequence_number" (.byte r.sequence),
     .named "destination_mmsi" (.full r.destination),
     .named "retransmit" (.truth r.retransmit),
     .named "text" (.text r.text)]

end AddressedSafety

structure SafetyBroadcast where
  header : Header
  text : String
  deriving DecidableEq, Repr

namespace SafetyBroadcast

def read (f : Frame) : SafetyBroadcast := ⟨f.header, f.bits.textToEnd 40⟩

def decode (f : Frame) : Except Refusal SafetyBroadcast := do
  f.ensure .safetyBroadcast
  return read f

def datum (r : SafetyBroadcast) : Datum :=
  .record "SafetyBroadcastMessage" .silent [r.header.member, .named "text" (.text r.text)]

end SafetyBroadcast

end VesselTraffic
