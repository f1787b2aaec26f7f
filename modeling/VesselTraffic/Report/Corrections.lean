import VesselTraffic.Frame
import VesselTraffic.Position

/-!
# Corrections for satellite navigation

A reference station broadcasts its position and corrections. The words of the
corrections are kept as bits.
-/
namespace VesselTraffic

structure Corrections where
  header : Header
  position : Position
  data : BitView
  deriving DecidableEq

namespace Corrections

def read (f : Frame) : Corrections := ⟨f.header, Position.coarse f.bits 40, f.bits.tail 80⟩

def decode (f : Frame) : Except Refusal Corrections := do
  f.ensure .corrections
  return read f

def notices (r : Corrections) : List Notice := Notice.position r.header.mmsi r.position

def datum (r : Corrections) : Datum :=
  .record "GnssBroadcast" .silent
    (r.header.member :: r.position.members ++ [.named "data" (.bits r.data)])

end Corrections

end VesselTraffic
