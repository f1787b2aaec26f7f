import VesselTraffic.Hull
import VesselTraffic.Position
import VesselTraffic.Report.Group

/-!
# Routes

A route is a time and a list of waypoints. The list is as long as declared, or as
the payload allows if that is less.
-/
namespace VesselTraffic

structure Route where
  linkage : UInt16
  senderClass : UInt8
  routeType : UInt8
  start : ArrivalTime
  minutes : UInt32
  waypoints : List Position
  deriving DecidableEq, Repr

namespace Route

def waypointWidth : Nat := 55

def declared (v : BitView) : Nat := v.unsigned 56 61

/-- How many waypoints the payload holds as a whole. -/
def available (v : BitView) : Nat := (v.len - 61) / waypointWidth

def decode (v : BitView) : Route where
  linkage := v.uint16 0 10
  senderClass := v.uint8 10 13
  routeType := v.uint8 13 18
  start := ArrivalTime.decode v 18
  minutes := v.uint32 38 56
  waypoints := v.groups 61 waypointWidth (declared v) (Position.fine v)

def notices (v : BitView) : List Notice :=
  if available v < declared v then [.waypointsMissing (declared v) (available v)] else []

def datum (r : Route) : Datum :=
  .record "RouteInformation" .silent
    [.named "linkage_id" (.half r.linkage),
     .named "sender_class" (.byte r.senderClass),
     .named "route_type" (.byte r.routeType),
     .named "start" r.start.datum,
     .named "duration" (.full r.minutes),
     .named "waypoints" (.list (r.waypoints.map fun p => .record "Waypoint" .silent p.members))]

end Route

end VesselTraffic
