import VesselTraffic.BitView
import VesselTraffic.Refusal
import VesselTraffic.Text.Utf8

/-!
# Armored payloads

A payload is written with 64 printable characters of six bits each. The last
character may hold up to five bits of fill, which are dropped.
-/
namespace VesselTraffic.Armor

def mostFill : UInt8 := 5

/-- The six bits of a character between `0` and `W`, or between the backquote and `w`. -/
def value? (b : UInt8) : Option UInt8 :=
  if 48 ≤ b ∧ b ≤ 87 then some (b - 48)
  else if 96 ≤ b ∧ b ≤ 119 then some (b - 56)
  else none

/-- The values of the bytes, or the first byte without one. -/
def values : List UInt8 → Except UInt8 (List UInt8)
  | [] => .ok []
  | b :: bytes =>
    match value? b with
    | none => .error b
    | some v => (values bytes).map (v :: ·)

/-- The fill is checked against its bound first, then the characters, and last that
there is something to drop the fill from. -/
def decode (payload : String) (fill : UInt8) : Except Refusal BitView :=
  if mostFill < fill then .error (.invalidFill fill)
  else
    match values (Text.Utf8.encode payload.toList) with
    | .error b => .error (.invalidCharacter b)
    | .ok vs =>
      if vs.isEmpty && fill != 0 then .error (.invalidFill fill)
      else .ok (BitView.ofSymbols vs.toArray fill.toNat)

example : (List.range 256).countP (fun n => (value? (UInt8.ofNat n)).isSome) = 64 := by decide +kernel

end VesselTraffic.Armor
