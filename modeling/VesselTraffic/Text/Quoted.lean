import VesselTraffic.Text.Unprintable
import VesselTraffic.Text.Extending
import VesselTraffic.Text.Digits

/-!
# Quoted texts

A text or a single character between quotes. The quote and the backslash are
escaped, and so is every character that does not print or does not stand alone.
-/
namespace VesselTraffic.Text

/-- One character between quotes of the given kind. -/
def escapeChar (quote c : Char) : List Char :=
  if c = '\x00' then ['\\', '0']
  else if c = '\t' then ['\\', 't']
  else if c = '\n' then ['\\', 'n']
  else if c = '\r' then ['\\', 'r']
  else if c = '\\' then ['\\', '\\']
  else if c = quote then ['\\', quote]
  else if isExtending c || isUnprintable c then
    "\\u\x7b".toList ++ Nat.toDigits 16 c.toNat ++ ['\x7d']
  else [c]

def quotedText (s : String) : String :=
  String.ofList ('"' :: s.toList.flatMap (escapeChar '"') ++ ['"'])

def quotedChar (c : Char) : String :=
  String.ofList ('\'' :: escapeChar '\'' c ++ ['\''])

example : (escapeChar '"' '\u0301') = "\\u\x7b301\x7d".toList := by decide +kernel
example : escapeChar '"' '\'' = ['\''] ∧ escapeChar '\'' '\'' = ['\\', '\''] := by decide +kernel

end VesselTraffic.Text
