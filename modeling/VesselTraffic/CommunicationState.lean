import VesselTraffic.Codes
import VesselTraffic.Notice

/-!
# Communication states

Nineteen bits in which a station tells how it plans its next transmissions, by one
of two schemes. The message around them decides which scheme they follow.
-/
namespace VesselTraffic

/-- The meaning of the last 14 bits of a self-organised plan. -/
inductive SlotReport
  | offset (n : UInt16)
  | time (hour minute : UInt8)
  | slot (n : UInt16)
  | stations (n : UInt16)
  deriving DecidableEq, Repr

structure SelfOrganised where
  sync : SyncState
  timeout : UInt8
  report : SlotReport
  deriving DecidableEq, Repr

structure Incremental where
  sync : SyncState
  increment : UInt16
  slots : UInt8
  keep : Bool
  deriving DecidableEq, Repr

inductive CommunicationState
  | selfOrganised (plan : SelfOrganised)
  | incremental (plan : Incremental)
  deriving DecidableEq, Repr

namespace SlotReport

/-- A frame of one minute has this many slots. -/
def slotsPerFrame : UInt16 := 2250

/-- The timeout selects the meaning. -/
def decode (v : BitView) (start : Nat) (timeout : UInt8) : SlotReport :=
  if timeout = 0 then .offset (v.uint16 0 14 start)
  else if timeout = 1 then .time (v.uint8 0 5 start) (v.uint8 5 12 start)
  else if timeout = 2 || timeout = 4 || timeout = 6 then .slot (v.uint16 0 14 start)
  else .stations (v.uint16 0 14 start)

/-- Hour 24 and minute 60 stand for an unknown time. -/
def notices : SlotReport → List Notice
  | time hour minute => if 24 < hour ∨ 60 < minute then [.timeOutsideRange hour minute] else []
  | slot n => if slotsPerFrame ≤ n then [.slotOutsideRange n] else []
  | _ => []

def datum : SlotReport → Datum
  | offset n => .wrapped "SlotOffset" (.key "SlotOffset") (.half n)
  | time hour minute =>
    .record "UtcTime" (.key "UtcTime") [.named "hour" (.byte hour), .named "minute" (.byte minute)]
  | slot n => .wrapped "SlotNumber" (.key "SlotNumber") (.half n)
  | stations n => .wrapped "ReceivedStations" (.key "ReceivedStations") (.half n)

end SlotReport

namespace SelfOrganised

def decode (v : BitView) (start : Nat) : SelfOrganised :=
  let timeout := v.uint8 2 5 start
  ⟨SyncState.ofCode (v.uint8 0 2 start), timeout, SlotReport.decode v (start + 5) timeout⟩

def datum (s : SelfOrganised) : Datum :=
  .record "Sotdma" .silent
    [.named "sync_state" s.sync.datum, .named "slot_timeout" (.byte s.timeout),
     .named "sub_message" s.report.datum]

end SelfOrganised

namespace Incremental

def decode (v : BitView) (start : Nat) : Incremental where
  sync := SyncState.ofCode (v.uint8 0 2 start)
  increment := v.uint16 2 15 start
  slots := v.uint8 15 18 start
  keep := v.bit (start + 18)

def datum (s : Incremental) : Datum :=
  .record "Itdma" .silent
    [.named "sync_state" s.sync.datum, .named "slot_increment" (.half s.increment),
     .named "number_of_slots" (.byte s.slots), .named "keep_flag" (.truth s.keep)]

end Incremental

namespace CommunicationState

def width : Nat := 19

/-- The state at a position, incremental or self-organised. -/
def decode (v : BitView) (start : Nat) (isIncremental : Bool) : CommunicationState :=
  if isIncremental then .incremental (Incremental.decode v start)
  else .selfOrganised (SelfOrganised.decode v start)

/-- The state behind the bit that selects its scheme. -/
def decodeSelected (v : BitView) (selector : Nat) : CommunicationState :=
  decode v (selector + 1) (v.bit selector)

def sync : CommunicationState → SyncState
  | selfOrganised s => s.sync
  | incremental s => s.sync

def notices : CommunicationState → List Notice
  | selfOrganised s => s.report.notices
  | incremental _ => []

def datum : CommunicationState → Datum
  | selfOrganised s => .wrapped "Sotdma" (.member "scheme" "Sotdma") s.datum
  | incremental s => .wrapped "Itdma" (.member "scheme" "Itdma") s.datum

end CommunicationState

end VesselTraffic
