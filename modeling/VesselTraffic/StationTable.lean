import VesselTraffic.Message

/-!
# Stations

The last known state of every station that sent a message.
-/
namespace VesselTraffic

structure Station where
  mmsi : UInt32
  name : Option String := none
  lastType : UInt8 := 0
  position : Option Position := none
  knots : Option Quantity := none
  messages : Nat := 0
  deriving DecidableEq, Repr

namespace Message

/-- The speed over ground in knots, if the form reports one and it is known. -/
def knots? : Message → Option Quantity
  | classA r => known r.speed
  | classB r => known r.speed
  | extendedClassB r => known r.speed
  | longRange r => if r.speed < 63 then some (.ofNat r.speed.toNat) else none
  | _ => none
where
  /-- A speed of 102.3 knots stands for an unknown one. -/
  known (speed : Quantity) : Option Quantity :=
    if 10 * speed.raw < 1023 * speed.perUnit then some speed else none

/-- The name of the sender, if the form has one and it is not empty. -/
def senderName? (m : Message) : Option String :=
  let name := match m with
    | voyageData r => some r.name
    | extendedClassB r => some r.name
    | staticData ⟨_, .a name⟩ => some name
    | navigationAid r => some r.name
    | _ => none
  name.filter (!·.isEmpty)

end Message

namespace Station

/-- Takes what a message tells, and keeps what it leaves out. -/
def update (s : Station) (m : Message) : Station where
  mmsi := s.mmsi
  name := m.senderName?.or s.name
  lastType := m.messageType
  position := m.position?.or s.position
  knots := m.knots?.or s.knots
  messages := s.messages + 1

/-- More messages come first, then smaller numbers. -/
def precedes (a b : Station) : Bool :=
  b.messages < a.messages || (a.messages == b.messages && a.mmsi ≤ b.mmsi)

end Station

/-- Stations in the order in which they were first heard. -/
structure StationTable where
  stations : List Station := []
  deriving DecidableEq, Repr

namespace StationTable

def find? (t : StationTable) (mmsi : UInt32) : Option Station :=
  t.stations.find? fun s => s.mmsi == mmsi

def update (t : StationTable) (m : Message) : StationTable :=
  if t.stations.any fun s => s.mmsi == m.mmsi then
    ⟨t.stations.map fun s => if s.mmsi == m.mmsi then s.update m else s⟩
  else ⟨t.stations ++ [Station.update { mmsi := m.mmsi } m]⟩

/-- The busiest stations first. -/
def sorted (t : StationTable) : List Station := t.stations.mergeSort Station.precedes

end StationTable

end VesselTraffic
