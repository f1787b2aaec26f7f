/-!
# Numbers written as digits

Decimal numbers with an optional sign, two-digit hexadecimal numbers, and the
padded forms in which numbers are written.
-/
namespace VesselTraffic.Text

def digitValue (c : Char) : Nat := c.toNat - '0'.toNat

def isHexDigit (c : Char) : Bool := c.isDigit || ('a' ≤ c && c ≤ 'f') || ('A' ≤ c && c ≤ 'F')

def hexDigitValue (c : Char) : Nat :=
  if c.isDigit then digitValue c
  else if 'a' ≤ c then c.toNat - 'a'.toNat + 10
  else c.toNat - 'A'.toNat + 10

/-- At least one decimal digit and nothing else. -/
def decimal? (cs : List Char) : Option Nat :=
  if !cs.isEmpty && cs.all Char.isDigit then
    some (cs.foldl (fun n c => 10 * n + digitValue c) 0)
  else none

/-- A decimal number up to `most`, with an optional plus sign. -/
def natural? (most : Nat) (cs : List Char) : Option Nat :=
  let digits := match cs with
    | '+' :: r => r
    | r => r
  (decimal? digits).filter (· ≤ most)

/-- A decimal number from `least` to `most`, with an optional sign. -/
def integer? (least most : Int) (cs : List Char) : Option Int :=
  let value := match cs with
    | '+' :: r => (decimal? r).map Int.ofNat
    | '-' :: r => (decimal? r).map fun n => -(n : Int)
    | r => (decimal? r).map Int.ofNat
  value.filter fun n => least ≤ n && n ≤ most

def unsigned32? (cs : List Char) : Option UInt32 := (natural? 4294967295 cs).map UInt32.ofNat

def unsigned16? (cs : List Char) : Option UInt16 := (natural? 65535 cs).map UInt16.ofNat

/-- A number that a signed word of 64 bits can hold. -/
def signed64? (cs : List Char) : Option Int := integer? (-9223372036854775808) 9223372036854775807 cs

/-- Exactly two hexadecimal digits of either case. -/
def hexPair? : List Char → Option UInt8
  | [a, b] =>
    if isHexDigit a && isHexDigit b then
      some (UInt8.ofNat (16 * hexDigitValue a + hexDigitValue b))
    else none
  | _ => none

/-- One or two decimal digits. -/
def oneOrTwoDigits? (cs : List Char) : Option UInt8 :=
  if cs.length ≤ 2 then (decimal? cs).map UInt8.ofNat else none

def hexDigit (n : Nat) : Char := "0123456789ABCDEF".toList.getD n '0'

/-- Two hexadecimal digits in upper case. -/
def hexPair (b : UInt8) : String := String.ofList [hexDigit (b.toNat / 16), hexDigit (b.toNat % 16)]

/-- Zeros in front up to the given width. -/
def zeroPadded (width : Nat) (digits : List Char) : List Char :=
  List.replicate (width - digits.length) '0' ++ digits

/-- A point in front of the last `places` digits and behind at least one. -/
def pointed (places : Nat) (digits : List Char) : List Char :=
  let padded := zeroPadded (places + 1) digits
  let whole := padded.length - places
  padded.take whole ++ '.' :: padded.drop whole

example : signed64? "-0".toList = some 0 ∧ signed64? "+7".toList = some 7 := by decide
example : signed64? "9223372036854775808".toList = none ∧ signed64? "-".toList = none := by decide
example : unsigned32? "-0".toList = none ∧ unsigned16? "65536".toList = none := by decide
example : hexPair? "aF".toList = some 0xaf ∧ hexPair? "+1".toList = none := by decide
example : oneOrTwoDigits? "07".toList = some 7 ∧ oneOrTwoDigits? [] = none := by decide

end VesselTraffic.Text
