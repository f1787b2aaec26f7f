import VesselTraffic.Hull
import VesselTraffic.Position
import VesselTraffic.SixBitText

/-!
# Harbours and berths

How many persons are on board, when a vessel may enter a harbour, and at which berth
with which services it will lie.
-/
namespace VesselTraffic

structure ClearanceTime where
  linkage : UInt16
  time : ArrivalTime
  harbour : String
  destination : String
  position : Position
  deriving DecidableEq, Repr

namespace ClearanceTime

def decode (v : BitView) : ClearanceTime where
  linkage := v.uint16 0 10
  time := ArrivalTime.decode v 10
  harbour := v.text 30 150
  destination := v.text 150 180
  position := Position.medium v 180

def datum (c : ClearanceTime) : Datum :=
  .record "ClearanceTime" .silent
    ([.named "linkage_id" (.half c.linkage),
      .named "time" c.time.datum,
      .named "port_name" (.text c.harbour),
      .named "destination" (.text c.destination)]
      ++ c.position.members)

end ClearanceTime

/-- Lengths are in metres. Each of 26 services has a state of two bits. -/
structure Berthing where
  linkage : UInt16
  berthLength : UInt16
  berthDepth : Quantity
  mooring : UInt8
  time : ArrivalTime
  servicesAvailable : Bool
  services : List UInt8
  berthName : String
  position : Position
  deriving DecidableEq, Repr

namespace Berthing

def decode (v : BitView) : Berthing where
  linkage := v.uint16 0 10
  berthLength := v.uint16 10 19
  berthDepth := v.unsignedParts 19 27 10
  mooring := v.uint8 27 30
  time := ArrivalTime.decode v 30
  servicesAvailable := v.bit 50
  services := (List.range 26).map fun i => v.uint8 51 53 (2 * i)
  berthName := v.text 103 223
  position := Position.medium v 223

def datum (b : Berthing) : Datum :=
  .record "BerthingData" .silent
    ([.named "linkage_id" (.half b.linkage),
      .named "berth_length" (.half b.berthLength),
      .named "berth_depth" (.real b.berthDepth.value),
      .named "mooring_position" (.byte b.mooring),
      .named "time" b.time.datum,
      .named "services_available" (.truth b.servicesAvailable),
      .named "services" (.list (b.services.map .byte)),
      .named "berth_name" (.text b.berthName)]
      ++ b.position.members)

end Berthing

end VesselTraffic
