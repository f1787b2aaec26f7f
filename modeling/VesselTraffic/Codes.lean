import VesselTraffic.Datum

/-!
# Coded values

Small numbers that stand for a choice. A number without a meaning is kept as it is.
-/
namespace VesselTraffic

inductive NavigationStatus
  | underwayUsingEngine
  | atAnchor
  | notUnderCommand
  | restrictedManoeuverability
  | constrainedByDraught
  | moored
  | aground
  | engagedInFishing
  | underwaySailing
  | towingAstern
  | pushingAhead
  | searchAndRescueTransmitter
  | undefined
  | reserved (code : UInt8)
  deriving DecidableEq, Repr

inductive Maneuver
  | notAvailable
  | noSpecial
  | special
  | reserved
  deriving DecidableEq, Repr

/-- The device that fixes positions. -/
inductive PositionFix
  | undefined
  | gps
  | glonass
  | gpsAndGlonass
  | loranC
  | chayka
  | integrated
  | surveyed
  | galileo
  | internal
  | reserved (code : UInt8)
  deriving DecidableEq, Repr

/-- Where a station takes its time from. -/
inductive SyncState
  | utcDirect
  | utcIndirect
  | baseStation
  | receivedStations
  deriving DecidableEq, Repr

def NavigationStatus.ofCode : UInt8 → NavigationStatus
  | 0 => .underwayUsingEngine
  | 1 => .atAnchor
  | 2 => .notUnderCommand
  | 3 => .restrictedManoeuverability
  | 4 => .constrainedByDraught
  | 5 => .moored
  | 6 => .aground
  | 7 => .engagedInFishing
  | 8 => .underwaySailing
  | 11 => .towingAstern
  | 12 => .pushingAhead
  | 14 => .searchAndRescueTransmitter
  | 15 => .undefined
  | code => .reserved code

def Maneuver.ofCode : UInt8 → Maneuver
  | 0 => .notAvailable
  | 1 => .noSpecial
  | 2 => .special
  | _ => .reserved

def PositionFix.ofCode : UInt8 → PositionFix
  | 0 => .undefined
  | 1 => .gps
  | 2 => .glonass
  | 3 => .gpsAndGlonass
  | 4 => .loranC
  | 5 => .chayka
  | 6 => .integrated
  | 7 => .surveyed
  | 8 => .galileo
  | 15 => .internal
  | code => .reserved code

/-- Only the last two bits count. -/
def SyncState.ofCode (code : UInt8) : SyncState :=
  match code.toNat % 4 with
  | 0 => .utcDirect
  | 1 => .utcIndirect
  | 2 => .baseStation
  | _ => .receivedStations

/-- A number without a meaning. -/
def reservedDatum (code : UInt8) : Datum := .wrapped "Reserved" (.key "Reserved") (.byte code)

def NavigationStatus.datum : NavigationStatus → Datum
  | underwayUsingEngine => .word "UnderwayUsingEngine"
  | atAnchor => .word "AtAnchor"
  | notUnderCommand => .word "NotUnderCommand"
  | restrictedManoeuverability => .word "RestrictedManoeuverability"
  | constrainedByDraught => .word "ConstrainedByHerDraught"
  | moored => .word "Moored"
  | aground => .word "Aground"
  | engagedInFishing => .word "EngagedInFishing"
  | underwaySailing => .word "UnderwaySailing"
  | towingAstern => .word "PowerDrivenTowingAstern"
  | pushingAhead => .word "PowerDrivenPushingAhead"
  | searchAndRescueTransmitter => .word "AisSartActive"
  | undefined => .word "Undefined"
  | reserved code => reservedDatum code

def Maneuver.datum : Maneuver → Datum
  | notAvailable => .word "NotAvailable"
  | noSpecial => .word "NoSpecialManeuver"
  | special => .word "SpecialManeuver"
  | reserved => .word "Reserved"

def PositionFix.datum : PositionFix → Datum
  | undefined => .word "Undefined"
  | gps => .word "Gps"
  | glonass => .word "Glonass"
  | gpsAndGlonass => .word "CombinedGpsGlonass"
  | loranC => .word "LoranC"
  | chayka => .word "Chayka"
  | integrated => .word "IntegratedNavigationSystem"
  | surveyed => .word "Surveyed"
  | galileo => .word "Galileo"
  | internal => .word "InternalGnss"
  | reserved code => reservedDatum code

def SyncState.datum : SyncState → Datum
  | utcDirect => .word "UtcDirect"
  | utcIndirect => .word "UtcIndirect"
  | baseStation => .word "BaseStation"
  | receivedStations => .word "NumberOfReceivedStations"

end VesselTraffic
