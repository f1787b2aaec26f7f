import VesselTraffic.Quantity
import VesselTraffic.Datum
import VesselTraffic.SixBitText

/-!
# Inland ships

Hull, type and cargo of a ship on inland waters, with its European number.
-/
namespace VesselTraffic

structure InlandShip where
  vesselId : String
  length : Quantity
  beam : Quantity
  shipType : UInt16
  hazard : UInt8
  draught : Quantity
  loaded : UInt8
  speedQuality : Bool
  courseQuality : Bool
  headingQuality : Bool
  deriving DecidableEq, Repr

namespace InlandShip

def decode (v : BitView) : InlandShip where
  vesselId := v.text 0 48
  length := v.unsignedParts 48 61 10
  beam := v.unsignedParts 61 71 10
  shipType := v.uint16 71 85
  hazard := v.uint8 85 88
  draught := v.unsignedParts 88 99 100
  loaded := v.uint8 99 101
  speedQuality := v.bit 101
  courseQuality := v.bit 102
  headingQuality := v.bit 103

def datum (s : InlandShip) : Datum :=
  .record "InlandShipData" .silent
    [.named "vessel_id" (.text s.vesselId),
     .named "length" (.real s.length.value),
     .named "beam" (.real s.beam.value),
     .named "ship_type" (.half s.shipType),
     .named "hazardous_cargo" (.byte s.hazard),
     .named "draught" (.real s.draught.value),
     .named "loaded" (.byte s.loaded),
     .named "speed_quality" (.truth s.speedQuality),
     .named "course_quality" (.truth s.courseQuality),
     .named "heading_quality" (.truth s.headingQuality)]

end InlandShip

end VesselTraffic
