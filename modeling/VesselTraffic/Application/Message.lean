import VesselTraffic.Application.Harbour
import VesselTraffic.Application.InlandShip
import VesselTraffic.Application.Route
import VesselTraffic.Application.TidalWindow
import VesselTraffic.Application.Weather

/-!
# Application messages

A binary message names its application by an area code and a function. The pair
selects a layout for the rest of the payload; without a known layout the bits are
kept as they are.
-/
namespace VesselTraffic

/-- The layouts in which application messages are read. -/
inductive ApplicationLayout
  | tidalOld
  | tidalNew
  | persons
  | clearance
  | berthing
  | route
  | text
  | weather
  | inlandShip
  deriving DecidableEq, Repr

inductive ApplicationMessage
  | tidalWindow (window : TidalWindow)
  | persons (count : UInt16)
  | clearance (time : ClearanceTime)
  | berthing (berthing : Berthing)
  | route (route : Route)
  | text (linkage : UInt16) (text : String)
  | weather (weather : Weather)
  | inlandShip (ship : InlandShip)
  | unknown (area : UInt16) (function : UInt8) (data : BitView)
  deriving DecidableEq

namespace ApplicationLayout

/-- The layout of an application, if it has a known one. -/
def of? (area : UInt16) (function : UInt8) : Option ApplicationLayout :=
  match area.toNat, function.toNat with
  | 1, 14 => some tidalOld
  | 1, 32 => some tidalNew
  | 1, 16 | 1, 40 => some persons
  | 1, 18 => some clearance
  | 1, 20 => some berthing
  | 1, 27 | 1, 28 => some route
  | 1, 29 | 1, 30 => some text
  | 1, 31 => some weather
  | 200, 10 => some inlandShip
  | _, _ => none

/-- The bits that the fixed part of a layout takes. -/
def leastBits : ApplicationLayout → Nat
  | tidalOld | tidalNew => 9
  | persons => 13
  | clearance => 229
  | berthing => 272
  | route => 61
  | text => 10
  | weather => 304
  | inlandShip => 104

/-- Reads a payload; what it leaves out reads as zero. -/
def decode (layout : ApplicationLayout) (v : BitView) : ApplicationMessage :=
  match layout with
  | tidalOld => .tidalWindow (TidalWindow.decodeOld v)
  | tidalNew => .tidalWindow (TidalWindow.decodeNew v)
  | persons => .persons (v.uint16 0 13)
  | clearance => .clearance (ClearanceTime.decode v)
  | berthing => .berthing (Berthing.decode v)
  | route => .route (Route.decode v)
  | text => .text (v.uint16 0 10) (v.textToEnd 10)
  | weather => .weather (Weather.decode v)
  | inlandShip => .inlandShip (InlandShip.decode v)

end ApplicationLayout

namespace ApplicationMessage

def decode (area : UInt16) (function : UInt8) (data : BitView) : ApplicationMessage :=
  match ApplicationLayout.of? area function with
  | some layout => layout.decode data
  | none => .unknown area function data

/-- Notices of a payload: missing waypoints first, then a payload that is too short. -/
def notices (area : UInt16) (function : UInt8) (data : BitView) : List Notice :=
  match ApplicationLayout.of? area function with
  | some layout =>
    (if layout = .route then Route.notices data else []) ++
      if data.len < layout.leastBits then
        [.shortApplication area function data.len layout.leastBits]
      else []
  | none => []

def datum : ApplicationMessage → Datum
  | tidalWindow w => .wrapped "TidalWindow" (.member "asm" "tidal_window") w.datum
  | persons n =>
    .wrapped "PersonsOnBoard" (.member "asm" "persons_on_board")
      (.record "PersonsOnBoard" .silent [.named "persons" (.half n)])
  | clearance c => .wrapped "ClearanceTime" (.member "asm" "clearance_time") c.datum
  | berthing b => .wrapped "BerthingData" (.member "asm" "berthing_data") b.datum
  | route r => .wrapped "RouteInformation" (.member "asm" "route_information") r.datum
  | text linkage t =>
    .wrapped "TextDescription" (.member "asm" "text_description")
      (.record "TextDescription" .silent
        [.named "linkage_id" (.half linkage), .named "text" (.text t)])
  | weather w => .wrapped "MetHydro" (.member "asm" "met_hydro") w.datum
  | inlandShip s => .wrapped "InlandShipData" (.member "asm" "inland_ship_data") s.datum
  | unknown area function data =>
    .record "Unknown" (.member "asm" "unknown")
      [.named "dac" (.half area), .named "fi" (.byte function), .named "data" (.bits data)]

end ApplicationMessage

end VesselTraffic
