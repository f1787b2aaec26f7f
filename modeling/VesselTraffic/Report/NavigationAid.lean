import VesselTraffic.Codes
import VesselTraffic.Frame
import VesselTraffic.Hull
import VesselTraffic.Position
import VesselTraffic.SixBitText

/-!
# Aids to navigation

Buoys, beacons and lights. A name of more than twenty characters goes on at the end
of the message.
-/
namespace VesselTraffic

structure NavigationAid where
  header : Header
  aidType : UInt8
  name : String
  accurate : Bool
  position : Position
  hull : Hull
  fix : PositionFix
  second : UInt8
  offPosition : Bool
  regional : UInt8
  raim : Bool
  isVirtual : Bool
  assigned : Bool
  nameExtension : Option String
  deriving DecidableEq, Repr

namespace NavigationAid

def read (f : Frame) : NavigationAid :=
  let v := f.bits
  let rest := v.textToEnd 272
  { header := f.header
    aidType := v.uint8 38 43
    name := v.text 43 163
    accurate := v.bit 163
    position := Position.fine v 164
    hull := Hull.decode v 219
    fix := PositionFix.ofCode (v.uint8 249 253)
    second := v.uint8 253 259
    offPosition := v.bit 259
    regional := v.uint8 260 268
    raim := v.bit 268
    isVirtual := v.bit 269
    assigned := v.bit 270
    nameExtension := if rest.isEmpty then none else some rest }

def decode (f : Frame) : Except Refusal NavigationAid := do
  f.ensure .navigationAid
  return read f

def fullName (r : NavigationAid) : String := r.name ++ r.nameExtension.getD ""

def notices (r : NavigationAid) : List Notice := Notice.position r.header.mmsi r.position

def datum (r : NavigationAid) : Datum :=
  .record "AidToNavigationReport" .silent
    ([r.header.member,
      .named "aid_type" (.byte r.aidType),
      .named "name" (.text r.name),
      .named "position_accuracy" (.truth r.accurate)]
      ++ r.position.members ++
     [.named "dimensions" r.hull.datum,
      .named "position_fixing_device" r.fix.datum,
      .named "timestamp" (.byte r.second),
      .named "off_position" (.truth r.offPosition),
      .named "regional_reserved" (.byte r.regional),
      .named "raim" (.truth r.raim),
      .named "virtual_aid" (.truth r.isVirtual),
      .named "assigned" (.truth r.assigned),
      .named "name_extension" (.ofOption .text r.nameExtension)])

end NavigationAid

end VesselTraffic
