import VesselTraffic.Codes
import VesselTraffic.Frame
import VesselTraffic.Hull
import VesselTraffic.Position
import VesselTraffic.SixBitText

/-!
# Static and voyage data

What a vessel is and where it goes. Large vessels send it in one message; small
ones send what they are in two parts.
-/
namespace VesselTraffic

structure VoyageData where
  header : Header
  version : UInt8
  imoNumber : UInt32
  callSign : String
  name : String
  shipType : UInt8
  hull : Hull
  fix : PositionFix
  arrival : ArrivalTime
  draught : Quantity
  destination : String
  dte : Bool
  deriving DecidableEq, Repr

namespace VoyageData

def read (f : Frame) : VoyageData :=
  let v := f.bits
  { header := f.header
    version := v.uint8 38 40
    imoNumber := v.uint32 40 70
    callSign := v.text 70 112
    name := v.text 112 232
    shipType := v.uint8 232 240
    hull := Hull.decode v 240
    fix := PositionFix.ofCode (v.uint8 270 274)
    arrival := ArrivalTime.decode v 274
    draught := v.unsignedParts 294 302 10
    destination := v.text 302 422
    dte := v.bit 422 }

def decode (f : Frame) : Except Refusal VoyageData := do
  f.ensure .voyageData
  return read f

def notices (r : VoyageData) : List Notice :=
  Notice.byteRange r.header.mmsi "eta_month" r.arrival.month 0 12
    ++ Notice.byteRange r.header.mmsi "eta_day" r.arrival.day 0 31

def datum (r : VoyageData) : Datum :=
  .record "ShipStaticData" .silent
    [r.header.member,
     .named "ais_version" (.byte r.version),
     .named "imo_number" (.full r.imoNumber),
     .named "call_sign" (.text r.callSign),
     .named "ship_name" (.text r.name),
     .named "ship_type" (.byte r.shipType),
     .named "dimensions" r.hull.datum,
     .named "position_fixing_device" r.fix.datum,
     .named "eta" r.arrival.datum,
     .named "draught" (.real r.draught.value),
     .named "destination" (.text r.destination),
     .named "dte" (.truth r.dte)]

end VoyageData

/-- An auxiliary craft names its parent vessel where others give their hull. -/
inductive PartBReference
  | hull (hull : Hull)
  | parent (mmsi : UInt32)
  deriving DecidableEq, Repr

structure PartB where
  shipType : UInt8
  vendor : String
  model : UInt8
  serial : UInt32
  callSign : String
  reference : PartBReference
  fix : PositionFix
  deriving DecidableEq, Repr

inductive StaticDataPart
  | a (name : String)
  | b (part : PartB)
  deriving DecidableEq, Repr

structure StaticData where
  header : Header
  part : StaticDataPart
  deriving DecidableEq, Repr

namespace PartB

def bits : Nat := 168

def read (v : BitView) (mmsi : UInt32) : PartB where
  shipType := v.uint8 40 48
  vendor := v.text 48 66
  model := v.uint8 66 70
  serial := v.uint32 70 90
  callSign := v.text 90 132
  reference := if isAuxiliaryCraft mmsi then .parent (v.uint32 132 162) else .hull (Hull.decode v 132)
  fix := PositionFix.ofCode (v.uint8 162 166)

def members (p : PartB) : List Member :=
  let reference := match p.reference with
    | .hull h => Datum.wrapped "Dimensions" (.key "dimensions") h.datum
    | .parent mmsi => .wrapped "MothershipMmsi" (.key "mothership_mmsi") (.full mmsi)
  [.named "ship_type" (.byte p.shipType),
   .named "vendor_id" (.text p.vendor),
   .named "unit_model_code" (.byte p.model),
   .named "serial_number" (.full p.serial),
   .named "call_sign" (.text p.callSign),
   .named "reference" reference,
   .named "position_fixing_device" p.fix.datum]

end PartB

namespace StaticData

/-- The second part has one length only; there are no further parts. -/
def decode (f : Frame) : Except Refusal StaticData := do
  f.ensure .staticData
  let v := f.bits
  let number := v.unsigned 38 40
  if number = 0 then
    return ⟨f.header, .a (v.text 40 160)⟩
  else if number = 1 then
    if f.len = PartB.bits then return ⟨f.header, .b (PartB.read v f.header.mmsi)⟩
    else Frame.refuse .staticData (.partBLength PartB.bits f.len)
  else Frame.refuse .staticData (.reservedPart number)

def datum (r : StaticData) : Datum :=
  let part := match r.part with
    | .a name => Datum.record "A" (.member "part" "A") [.named "ship_name" (.text name)]
    | .b p => .record "B" (.member "part" "B") p.members
  .record "StaticDataReport" .silent [r.header.member, .merged "part" part]

end StaticData

end VesselTraffic
