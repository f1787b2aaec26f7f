import VesselTraffic.Application.Message
import VesselTraffic.CommunicationState
import VesselTraffic.Frame

/-!
# Binary messages

A binary payload names an application, or is kept as bits. Addressed messages and
broadcasts always name one. Messages of one or several slots say by two flags
whether they do and whether they have a destination; those of several slots end in
a communication state.
-/
namespace VesselTraffic

inductive BinaryData
  | structured (area : UInt16) (function : UInt8) (application : ApplicationMessage)
  | unstructured (data : BitView)
  deriving DecidableEq

namespace BinaryData

/-- The width of the name of an application. -/
def applicationWidth : Nat := 16

def area (v : BitView) (start : Nat) : UInt16 := v.uint16 0 10 start

def function (v : BitView) (start : Nat) : UInt8 := v.uint8 10 16 start

/-- What stands behind the name of the application, up to a position. -/
def payload (v : BitView) (start stop : Nat) : BitView :=
  v.slice (start + applicationWidth) (max stop (start + applicationWidth))

def decodeStructured (v : BitView) (start stop : Nat) : BinaryData :=
  let a := area v start
  let f := function v start
  .structured a f (ApplicationMessage.decode a f (payload v start stop))

def structuredNotices (v : BitView) (start stop : Nat) : List Notice :=
  ApplicationMessage.notices (area v start) (function v start) (payload v start stop)

def decodeUnstructured (v : BitView) (start stop : Nat) : BinaryData :=
  .unstructured (v.slice start (max stop start))

def datum : BinaryData → Datum
  | structured area function application =>
    .record "Structured" (.member "kind" "structured")
      [.named "dac" (.half area), .named "fi" (.byte function),
       .named "application" application.datum]
  | unstructured data =>
    .record "Unstructured" (.member "kind" "unstructured") [.named "data" (.bits data)]

end BinaryData

structure AddressedBinary where
  header : Header
  sequence : UInt8
  destination : UInt32
  retransmit : Bool
  data : BinaryData
  deriving DecidableEq

namespace AddressedBinary

def start : Nat := 72

def read (f : Frame) : AddressedBinary :=
  let v := f.bits
  { header := f.header
    sequence := v.uint8 38 40
    destination := v.uint32 40 70
    retransmit := v.bit 70
    data := BinaryData.decodeStructured v start v.len }

def decode (f : Frame) : Except Refusal AddressedBinary := do
  f.ensure .addressedBinary
  return read f

def notices (f : Frame) : List Notice := BinaryData.structuredNotices f.bits start f.len

def datum (r : AddressedBinary) : Datum :=
  .record "AddressedBinaryMessage" .silent
    [r.header.member,
     .named "sequence_number" (.byte r.sequence),
     .named "destination_mmsi" (.full r.destination),
     .named "retransmit" (.truth r.retransmit),
     .named "data" r.data.datum]

end AddressedBinary

structure BinaryBroadcast where
  header : Header
  data : BinaryData
  deriving DecidableEq

namespace BinaryBroadcast

def start : Nat := 40

def read (f : Frame) : BinaryBroadcast :=
  ⟨f.header, BinaryData.decodeStructured f.bits start f.len⟩

def decode (f : Frame) : Except Refusal BinaryBroadcast := do
  f.ensure .binaryBroadcast
  return read f

def notices (f : Frame) : List Notice := BinaryData.structuredNotices f.bits start f.len

def datum (r : BinaryBroadcast) : Datum :=
  .record "BinaryBroadcastMessage" .silent [r.header.member, .named "data" r.data.datum]

end BinaryBroadcast

/-- The part of a message of one or several slots that two flags lay out. -/
structure SlotPayload where
  destination : Option UInt32
  data : BinaryData
  deriving DecidableEq

namespace SlotPayload

def isAddressed (v : BitView) : Bool := v.bit 38

def isStructured (v : BitView) : Bool := v.bit 39

/-- Where the data begins. -/
def start (v : BitView) : Nat := if isAddressed v then 70 else 40

/-- Reads the data up to a position. -/
def read (v : BitView) (stop : Nat) : SlotPayload where
  destination := if isAddressed v then some (v.uint32 40 70) else none
  data :=
    if isStructured v then BinaryData.decodeStructured v (start v) stop
    else BinaryData.decodeUnstructured v (start v) stop

def notices (v : BitView) (stop : Nat) : List Notice :=
  if isStructured v then BinaryData.structuredNotices v (start v) stop else []

def members (p : SlotPayload) : List Member :=
  [.named "destination_mmsi" (.ofOption .full p.destination), .named "data" p.data.datum]

end SlotPayload

structure SingleSlotBinary where
  header : Header
  payload : SlotPayload
  deriving DecidableEq

namespace SingleSlotBinary

def read (f : Frame) : SingleSlotBinary := ⟨f.header, SlotPayload.read f.bits f.len⟩

def decode (f : Frame) : Except Refusal SingleSlotBinary := do
  f.ensure .singleSlotBinary
  return read f

def notices (f : Frame) : List Notice := SlotPayload.notices f.bits f.len

def datum (r : SingleSlotBinary) : Datum :=
  .record "SingleSlotBinaryMessage" .silent (r.header.member :: r.payload.members)

end SingleSlotBinary

structure MultipleSlotBinary where
  header : Header
  payload : SlotPayload
  communication : CommunicationState
  deriving DecidableEq

namespace MultipleSlotBinary

/-- The bit that selects the scheme of the communication state at the end. -/
def selector (f : Frame) : Nat := f.len - CommunicationState.width - 1

def read (f : Frame) : MultipleSlotBinary where
  header := f.header
  payload := SlotPayload.read f.bits (selector f)
  communication := CommunicationState.decodeSelected f.bits (selector f)

def decode (f : Frame) : Except Refusal MultipleSlotBinary := do
  f.ensure .multipleSlotBinary
  return read f

def notices (f : Frame) (r : MultipleSlotBinary) : List Notice :=
  SlotPayload.notices f.bits (selector f) ++ r.communication.notices

def datum (r : MultipleSlotBinary) : Datum :=
  .record "MultipleSlotBinaryMessage" .silent
    (r.header.member :: r.payload.members
      ++ [.named "communication_state" r.communication.datum])

end MultipleSlotBinary

end VesselTraffic
