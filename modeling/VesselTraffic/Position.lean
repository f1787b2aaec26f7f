import VesselTraffic.Notice
import VesselTraffic.Datum

/-!
# Positions and documented ranges

A position is a longitude and a latitude in degrees; 181 and 91 stand for an
unknown one. Transmitters often send values outside the documented ranges. Those
are noticed and kept.
-/
namespace VesselTraffic

structure Position where
  longitude : Quantity
  latitude : Quantity
  deriving DecidableEq, Repr

namespace Position

/-- Parts of a degree at a resolution of 1/10000 minute. -/
def fineParts : Nat := 600000

/-- Parts of a degree at a resolution of 1/1000 minute. -/
def mediumParts : Nat := 60000

/-- Parts of a degree at a resolution of 1/10 minute. -/
def coarseParts : Nat := 600

/-- A longitude of 28 bits before a latitude of 27. -/
def fine (v : BitView) (start : Nat) : Position :=
  ⟨v.signedParts 0 28 fineParts start, v.signedParts 28 55 fineParts start⟩

/-- A longitude of 25 bits before a latitude of 24. -/
def medium (v : BitView) (start : Nat) : Position :=
  ⟨v.signedParts 0 25 mediumParts start, v.signedParts 25 49 mediumParts start⟩

/-- A longitude of 18 bits before a latitude of 17. -/
def coarse (v : BitView) (start : Nat) : Position :=
  ⟨v.signedParts 0 18 coarseParts start, v.signedParts 18 35 coarseParts start⟩

def longitudeUnknown : Int := 181

def latitudeUnknown : Int := 91

/-- The position, unless one of its halves is unknown. -/
def known? (p : Position) : Option Position :=
  if p.longitude.isExactly longitudeUnknown || p.latitude.isExactly latitudeUnknown then none
  else some p

def members (p : Position) : List Member :=
  [.named "longitude" (.real p.longitude.value), .named "latitude" (.real p.latitude.value)]

end Position

namespace Notice

/-- Notices a value outside `least … most`. -/
def range (mmsi : UInt32) (field : String) (value : Reading) (least most : Int) : List Notice :=
  if value.between least most then [] else [outsideRange mmsi field value]

/-- The values that stand for an unknown position are within the ranges. -/
def position (mmsi : UInt32) (p : Position) : List Notice :=
  range mmsi "longitude" (.quantity p.longitude) (-180) Position.longitudeUnknown
    ++ range mmsi "latitude" (.quantity p.latitude) (-90) Position.latitudeUnknown

/-- The course 360 stands for an unknown one. -/
def course (mmsi : UInt32) (course : Quantity) : List Notice :=
  range mmsi "course_over_ground" (.quantity course) 0 360

/-- The heading 511 stands for an unknown one. -/
def heading (mmsi : UInt32) (heading : UInt16) : List Notice :=
  if 359 < heading ∧ heading ≠ 511 then [headingOutsideRange mmsi heading] else []

def byteRange (mmsi : UInt32) (field : String) (value : UInt8) (least most : Int) : List Notice :=
  range mmsi field (.count value.toNat) least most

end Notice

/-- The numbers of craft that belong to a parent vessel begin with 98. -/
def isAuxiliaryCraft (mmsi : UInt32) : Bool := mmsi.toNat / 10000000 == 98

example : isAuxiliaryCraft 982000123 = true ∧ isAuxiliaryCraft 366898250 = false := by decide

end VesselTraffic
