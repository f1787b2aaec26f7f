import VesselTraffic.Proofs.Checked.Blocks

/-!
# Checked reads of application messages

Every layout of an application message is read with checked operations from a payload of any
length, and without a fault.
-/
namespace VesselTraffic.Checked

/-! ### Tidal windows -/

def tidalEntry (v : BitView) (position : Position) (start : Nat) : Checked TidalWindowEntry := do
  return {
    position := position
    fromHour := ← uint8 v 0 5 start
    fromMinute := ← uint8 v 5 11 start
    toHour := ← uint8 v 11 16 start
    toMinute := ← uint8 v 16 22 start
    currentDirection := ← uint16 v 22 31 start
    currentSpeed := ← unsignedParts v 31 38 10 start }

def tidalEntryOld (v : BitView) (start : Nat) : Checked TidalWindowEntry := do
  let latitude ← signedParts v 0 27 Position.fineParts start
  let longitude ← signedParts v 27 55 Position.fineParts start
  tidalEntry v ⟨longitude, latitude⟩ (start + 55)

def tidalEntryNew (v : BitView) (start : Nat) : Checked TidalWindowEntry := do
  tidalEntry v (← mediumPosition v start) (start + 49)

def tidalWindow (v : BitView) (windows : List TidalWindowEntry) : Checked TidalWindow := do
  return ⟨← uint8 v 0 4, ← uint8 v 4 9, windows⟩

def tidalWindowOld (v : BitView) : Checked TidalWindow := do
  tidalWindow v (← groups v 9 TidalWindowEntry.oldWidth 3 (tidalEntryOld v))

def tidalWindowNew (v : BitView) : Checked TidalWindow := do
  tidalWindow v (← groups v 9 TidalWindowEntry.newWidth 3 (tidalEntryNew v))

section

variable (v : BitView)

@[simp] theorem tidalEntry_eq_ok (position : Position) (start : Nat) :
    tidalEntry v position start = .ok (TidalWindowEntry.behind v position start) := by
  simp [tidalEntry, TidalWindowEntry.behind]

theorem tidalEntryOld_eq_ok (start : Nat) :
    tidalEntryOld v start = .ok (TidalWindowEntry.decodeOld v start) := by
  simp [tidalEntryOld, TidalWindowEntry.decodeOld]

theorem tidalEntryNew_eq_ok (start : Nat) :
    tidalEntryNew v start = .ok (TidalWindowEntry.decodeNew v start) := by
  simp [tidalEntryNew, TidalWindowEntry.decodeNew]

@[simp] theorem tidalWindow_eq_ok (windows : List TidalWindowEntry) :
    tidalWindow v windows = .ok (TidalWindow.ofWindows v windows) := by
  simp [tidalWindow, TidalWindow.ofWindows]

theorem tidalWindowOld_eq_ok : tidalWindowOld v = .ok (TidalWindow.decodeOld v) := by
  simp [tidalWindowOld, TidalWindow.decodeOld, groups_eq_ok (tidalEntryOld_eq_ok v)]

theorem tidalWindowNew_eq_ok : tidalWindowNew v = .ok (TidalWindow.decodeNew v) := by
  simp [tidalWindowNew, TidalWindow.decodeNew, groups_eq_ok (tidalEntryNew_eq_ok v)]

end

/-! ### Harbours, routes and inland ships -/

def clearanceTime (v : BitView) : Checked ClearanceTime := do
  return {
    linkage := ← uint16 v 0 10
    time := ← arrivalTime v 10
    harbour := ← text v 30 150
    destination := ← text v 150 180
    position := ← mediumPosition v 180 }

/-- The states of the services at a berth. -/
def services (v : BitView) : Checked (List UInt8) :=
  (List.range 26).mapM fun i => uint8 v 51 53 (2 * i)

def berthing (v : BitView) : Checked Berthing := do
  return {
    linkage := ← uint16 v 0 10
    berthLength := ← uint16 v 10 19
    berthDepth := ← unsignedParts v 19 27 10
    mooring := ← uint8 v 27 30
    time := ← arrivalTime v 30
    servicesAvailable := ← bit v 50
    services := ← services v
    berthName := ← text v 103 223
    position := ← mediumPosition v 223 }

def route (v : BitView) : Checked Route := do
  let declared ← unsigned v 56 61
  return {
    linkage := ← uint16 v 0 10
    senderClass := ← uint8 v 10 13
    routeType := ← uint8 v 13 18
    start := ← arrivalTime v 18
    minutes := ← uint32 v 38 56
    waypoints := ← groups v 61 Route.waypointWidth declared (finePosition v) }

def inlandShip (v : BitView) : Checked InlandShip := do
  return {
    vesselId := ← text v 0 48
    length := ← unsignedParts v 48 61 10
    beam := ← unsignedParts v 61 71 10
    shipType := ← uint16 v 71 85
    hazard := ← uint8 v 85 88
    draught := ← unsignedParts v 88 99 100
    loaded := ← uint8 v 99 101
    speedQuality := ← bit v 101
    courseQuality := ← bit v 102
    headingQuality := ← bit v 103 }

section

variable (v : BitView)

theorem clearanceTime_eq_ok : clearanceTime v = .ok (ClearanceTime.decode v) := by
  simp [clearanceTime, ClearanceTime.decode]

theorem services_eq_ok : services v = .ok ((List.range 26).map fun i => v.uint8 51 53 (2 * i)) :=
  mapM_eq_ok fun _ _ => uint8_eq_ok v rfl

theorem berthing_eq_ok : berthing v = .ok (Berthing.decode v) := by
  simp [berthing, Berthing.decode, services_eq_ok]

theorem route_eq_ok : route v = .ok (Route.decode v) := by
  simp [route, Route.decode, Route.declared, unsigned_eq_ok, groups_eq_ok (finePosition_eq_ok v)]

theorem inlandShip_eq_ok : inlandShip v = .ok (InlandShip.decode v) := by
  simp [inlandShip, InlandShip.decode]

end

/-! ### Weather -/

def currentReading (v : BitView) (start : Nat) : Checked CurrentReading := do
  return {
    speed := ← unsignedParts v 0 8 10 start
    direction := ← uint16 v 8 17 start
    depth := ← uint8 v 17 22 start }

def waveReading (v : BitView) (start : Nat) : Checked WaveReading := do
  return {
    height := ← unsignedParts v 0 8 10 start
    period := ← uint8 v 8 14 start
    direction := ← uint16 v 14 23 start }

def pressure? (reading : UInt16) : Checked (Option UInt16) := do
  if reading = 511 then return none else return some (← halfSum reading 799)

def level (v : BitView) : Checked Quantity := do
  return ⟨(← exact (← unsigned v 145 157)) - 1000, 100⟩

def weather (v : BitView) : Checked Weather := do
  return {
    position := ← mediumPosition v 0
    accurate := ← bit v 49
    day := ← uint8 v 50 55
    hour := ← uint8 v 55 60
    minute := ← uint8 v 60 66
    windSpeed := ← uint8 v 66 73
    windGust := ← uint8 v 73 80
    windDirection := ← uint16 v 80 89
    gustDirection := ← uint16 v 89 98
    airTemperature := ← signedParts v 98 109 10
    humidity := ← uint8 v 109 116
    dewPoint := ← signedParts v 116 126 10
    airPressure := ← pressure? (← uint16 v 126 135)
    pressureTendency := ← uint8 v 135 137
    visibilityBeyond := ← bit v 137
    visibility := ← unsignedParts v 138 145 10
    waterLevel := ← level v
    waterLevelTrend := ← uint8 v 157 159
    surfaceSpeed := ← unsignedParts v 159 167 10
    surfaceDirection := ← uint16 v 167 176
    current2 := ← currentReading v 176
    current3 := ← currentReading v 198
    wave := ← waveReading v 220
    swell := ← waveReading v 243
    seaState := ← uint8 v 266 270
    waterTemperature := ← signedParts v 270 280 10
    precipitation := ← uint8 v 280 283
    salinity := ← unsignedParts v 283 292 10
    ice := ← uint8 v 292 294 }

section

variable (v : BitView)

@[simp] theorem currentReading_eq_ok (start : Nat) :
    currentReading v start = .ok (CurrentReading.decode v start) := by
  simp [currentReading, CurrentReading.decode]

@[simp] theorem waveReading_eq_ok (start : Nat) :
    waveReading v start = .ok (WaveReading.decode v start) := by
  simp [waveReading, WaveReading.decode]

/-- A reading has nine bits, so the sum has at most eleven. -/
theorem pressure?_eq_ok :
    pressure? (v.uint16 126 135) = .ok (Weather.pressure? (v.uint16 126 135)) := by
  have hlt : (v.uint16 126 135).toNat < 2 ^ 9 := by
    rw [BitView.toNat_uint16]
    exact v.unsigned_lt_of_le (Nat.le_refl _)
  rw [pressure?, Weather.pressure?]
  split_ifs
  · rfl
  · rw [halfSum_of_lt (Nat.lt_trans (Nat.add_lt_add_right hlt _) (by decide))]
    rfl

theorem level_eq_ok : level v = .ok (Weather.level v) := by
  have hlt : v.unsigned 145 157 < 2 ^ 12 := v.unsigned_lt_of_le (Nat.le_refl _)
  rw [level, unsigned_eq_ok v (by decide), ok_bind, exact, narrowSigned_of_mem id (by omega)]
  rfl

theorem weather_eq_ok : weather v = .ok (Weather.decode v) := by
  simp [weather, Weather.decode, pressure?_eq_ok, level_eq_ok]

end

/-! ### All layouts -/

def layout (layout : ApplicationLayout) (v : BitView) : Checked ApplicationMessage := do
  match layout with
  | .tidalOld => return .tidalWindow (← tidalWindowOld v)
  | .tidalNew => return .tidalWindow (← tidalWindowNew v)
  | .persons => return .persons (← uint16 v 0 13)
  | .clearance => return .clearance (← clearanceTime v)
  | .berthing => return .berthing (← berthing v)
  | .route => return .route (← route v)
  | .text => return .text (← uint16 v 0 10) (← textToEnd v 10)
  | .weather => return .weather (← weather v)
  | .inlandShip => return .inlandShip (← inlandShip v)

theorem layout_eq_ok (l : ApplicationLayout) (v : BitView) : layout l v = .ok (l.decode v) := by
  cases l <;>
    simp [layout, ApplicationLayout.decode, tidalWindowOld_eq_ok, tidalWindowNew_eq_ok,
      clearanceTime_eq_ok, berthing_eq_ok, route_eq_ok, weather_eq_ok, inlandShip_eq_ok]

def application (area : UInt16) (function : UInt8) (data : BitView) : Checked ApplicationMessage :=
  match ApplicationLayout.of? area function with
  | some l => layout l data
  | none => return .unknown area function data

@[simp] theorem application_eq_ok (area : UInt16) (function : UInt8) (data : BitView) :
    application area function data = .ok (ApplicationMessage.decode area function data) := by
  rw [application, ApplicationMessage.decode]
  cases ApplicationLayout.of? area function with
  | none => rfl
  | some l => exact layout_eq_ok l data

end VesselTraffic.Checked
