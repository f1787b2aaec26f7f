import VesselTraffic.BitView
import VesselTraffic.Text.Blank

/-!
# Six-bit text

Names and free texts are written in 64 characters of six bits each. The symbol
zero pads a field, so it reads as a space, and the spaces at both ends go.
-/
namespace VesselTraffic

namespace SixBit

/-- The character of a symbol: the capital letters with a few signs come first,
then the space, more signs and the digits. -/
def char (n : Nat) : Char := Char.ofNat (if n < 32 then n + 64 else n)

/-- The symbol of a character, if it has one. -/
def symbol? (c : Char) : Option Nat :=
  if 64 ≤ c.toNat && c.toNat < 96 then some (c.toNat - 64)
  else if 32 ≤ c.toNat && c.toNat < 64 then some c.toNat
  else none

/-- A padding symbol reads as a space. -/
def read (n : Nat) : Char := if n = 0 then ' ' else char n

end SixBit

namespace BitView

/-- The whole symbols between two positions; fewer than six bits at the end are
no symbol. -/
def symbols (v : BitView) (first last : Nat) : List Nat :=
  (List.range ((last - first) / 6)).map fun i => v.unsigned (first + 6 * i) (first + 6 * i + 6)

def text (v : BitView) (first last : Nat) : String :=
  String.ofList (Text.trim ((v.symbols first last).map SixBit.read))

/-- The text from a position to the end of the view. -/
def textToEnd (v : BitView) (first : Nat) : String := v.text first (max v.len first)

end BitView

example : (List.range 64).map SixBit.char
    = "@ABCDEFGHIJKLMNOPQRSTUVWXYZ[\\]^_ !\"#$%&'()*+,-./0123456789:;<=>?".toList := by decide +kernel

end VesselTraffic
