import VesselTraffic.Proofs.Checked.Views

/-!
# Checked reads of blocks

The blocks of fields that several messages share, read with checked operations. Every one
of them is read without a fault wherever it stands.
-/
namespace VesselTraffic.Checked

/-- Reads the whole groups of a width behind a position, each from its own start. -/
def groups {α : Type} (v : BitView) (start width most : Nat) (read : Nat → Checked α) :
    Checked (List α) :=
  (List.range (v.groupCount start width most)).mapM fun i => read (start + width * i)

theorem groups_eq_ok {α : Type} {read : Nat → Checked α} {plain : Nat → α}
    (h : ∀ start, read start = .ok (plain start)) (v : BitView) (start width most : Nat) :
    groups v start width most read = .ok (v.groups start width most plain) :=
  mapM_eq_ok fun i _ => h (start + width * i)

def hull (v : BitView) (start : Nat) : Checked Hull := do
  return {
    toBow := ← uint16 v 0 9 start
    toStern := ← uint16 v 9 18 start
    toPort := ← uint8 v 18 24 start
    toStarboard := ← uint8 v 24 30 start }

def arrivalTime (v : BitView) (start : Nat) : Checked ArrivalTime := do
  return {
    month := ← uint8 v 0 4 start
    day := ← uint8 v 4 9 start
    hour := ← uint8 v 9 14 start
    minute := ← uint8 v 14 20 start }

def finePosition (v : BitView) (start : Nat) : Checked Position := do
  return ⟨← signedParts v 0 28 Position.fineParts start,
    ← signedParts v 28 55 Position.fineParts start⟩

def mediumPosition (v : BitView) (start : Nat) : Checked Position := do
  return ⟨← signedParts v 0 25 Position.mediumParts start,
    ← signedParts v 25 49 Position.mediumParts start⟩

def coarsePosition (v : BitView) (start : Nat) : Checked Position := do
  return ⟨← signedParts v 0 18 Position.coarseParts start,
    ← signedParts v 18 35 Position.coarseParts start⟩

def area (v : BitView) (start : Nat) : Checked Area := do
  return ⟨← coarsePosition v start, ← coarsePosition v (start + 35)⟩

section

variable (v : BitView) (start : Nat)

@[simp] theorem hull_eq_ok : hull v start = .ok (Hull.decode v start) := by
  simp [hull, Hull.decode]

@[simp] theorem arrivalTime_eq_ok : arrivalTime v start = .ok (ArrivalTime.decode v start) := by
  simp [arrivalTime, ArrivalTime.decode]

@[simp] theorem finePosition_eq_ok : finePosition v start = .ok (Position.fine v start) := by
  simp [finePosition, Position.fine]

@[simp] theorem mediumPosition_eq_ok : mediumPosition v start = .ok (Position.medium v start) := by
  simp [mediumPosition, Position.medium]

@[simp] theorem coarsePosition_eq_ok : coarsePosition v start = .ok (Position.coarse v start) := by
  simp [coarsePosition, Position.coarse]

@[simp] theorem area_eq_ok : area v start = .ok (Area.decode v start) := by
  simp [area, Area.decode]

end

/-! ### Communication states -/

def slotReport (v : BitView) (start : Nat) (timeout : UInt8) : Checked SlotReport := do
  if timeout = 0 then return .offset (← uint16 v 0 14 start)
  else if timeout = 1 then return .time (← uint8 v 0 5 start) (← uint8 v 5 12 start)
  else if timeout = 2 || timeout = 4 || timeout = 6 then return .slot (← uint16 v 0 14 start)
  else return .stations (← uint16 v 0 14 start)

def selfOrganised (v : BitView) (start : Nat) : Checked SelfOrganised := do
  let sync ← uint8 v 0 2 start
  let timeout ← uint8 v 2 5 start
  return ⟨SyncState.ofCode sync, timeout, ← slotReport v (start + 5) timeout⟩

def incremental (v : BitView) (start : Nat) : Checked Incremental := do
  return {
    sync := SyncState.ofCode (← uint8 v 0 2 start)
    increment := ← uint16 v 2 15 start
    slots := ← uint8 v 15 18 start
    keep := ← bit v (start + 18) }

def communication (v : BitView) (start : Nat) (isIncremental : Bool) :
    Checked CommunicationState := do
  if isIncremental then return .incremental (← incremental v start)
  else return .selfOrganised (← selfOrganised v start)

def selectedCommunication (v : BitView) (selector : Nat) : Checked CommunicationState := do
  communication v (selector + 1) (← bit v selector)

section

variable (v : BitView) (start : Nat)

@[simp] theorem slotReport_eq_ok (timeout : UInt8) :
    slotReport v start timeout = .ok (SlotReport.decode v start timeout) := by
  simp only [slotReport, SlotReport.decode]
  split_ifs <;> simp

@[simp] theorem selfOrganised_eq_ok :
    selfOrganised v start = .ok (SelfOrganised.decode v start) := by
  simp [selfOrganised, SelfOrganised.decode]

@[simp] theorem incremental_eq_ok : incremental v start = .ok (Incremental.decode v start) := by
  simp [incremental, Incremental.decode]

@[simp] theorem communication_eq_ok (isIncremental : Bool) :
    communication v start isIncremental
      = .ok (CommunicationState.decode v start isIncremental) := by
  cases isIncremental <;> simp [communication, CommunicationState.decode]

@[simp] theorem selectedCommunication_eq_ok :
    selectedCommunication v start = .ok (CommunicationState.decodeSelected v start) := by
  simp [selectedCommunication, CommunicationState.decodeSelected]

end

end VesselTraffic.Checked
