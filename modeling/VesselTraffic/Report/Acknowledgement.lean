import VesselTraffic.Frame
import VesselTraffic.Report.Group

/-!
# Acknowledgements

One to four addressed messages are acknowledged at once, binary ones and safety
texts in the same layout.
-/
namespace VesselTraffic

structure AcknowledgedMessage where
  mmsi : UInt32
  sequence : UInt8
  deriving DecidableEq, Repr

structure Acknowledgement where
  header : Header
  acknowledged : List AcknowledgedMessage
  deriving DecidableEq, Repr

namespace AcknowledgedMessage

def width : Nat := 32

def decode (v : BitView) (start : Nat) : AcknowledgedMessage :=
  ⟨v.uint32 0 30 start, v.uint8 30 32 start⟩

def datum (a : AcknowledgedMessage) : Datum :=
  .record "AcknowledgedMessage" .silent
    [.named "mmsi" (.full a.mmsi), .named "sequence_number" (.byte a.sequence)]

end AcknowledgedMessage

namespace Acknowledgement

/-- Every code but that for safety texts is taken to be the one for binary messages. -/
def kindFor (code : UInt8) : MessageKind :=
  if code = 13 then .safetyAcknowledge else .binaryAcknowledge

def read (f : Frame) : Acknowledgement :=
  ⟨f.header, f.bits.groups 40 AcknowledgedMessage.width 4 (AcknowledgedMessage.decode f.bits)⟩

def decode (f : Frame) : Except Refusal Acknowledgement := do
  f.ensure (kindFor f.code)
  return read f

def datum (r : Acknowledgement) : Datum :=
  .record "Acknowledge" .silent
    [r.header.member,
     .named "acknowledgements" (.list (r.acknowledged.map AcknowledgedMessage.datum))]

end Acknowledgement

end VesselTraffic
