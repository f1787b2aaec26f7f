import VesselTraffic.Number.Layout
import VesselTraffic.Text.Digits

/-!
# JSON values

Values with numbers kept apart from one another by kind, objects in the order of
their members, and the text without blanks.
-/
namespace VesselTraffic

inductive Json
  | null
  | truth (b : Bool)
  | number (n : Int)
  | real (x : Binary64)
  | text (s : String)
  | list (elements : List Json)
  | object (members : List (String × Json))

namespace Json

def lowerHexDigit (n : Nat) : Char := "0123456789abcdef".toList.getD n '0'

/-- The quote, the backslash and the controls are escaped. -/
def escapeChar (c : Char) : List Char :=
  if c = '"' then ['\\', '"']
  else if c = '\\' then ['\\', '\\']
  else if c = '\x08' then ['\\', 'b']
  else if c = '\x0c' then ['\\', 'f']
  else if c = '\n' then ['\\', 'n']
  else if c = '\r' then ['\\', 'r']
  else if c = '\t' then ['\\', 't']
  else if c.toNat < 0x20 then
    ['\\', 'u', '0', '0', lowerHexDigit (c.toNat / 16), lowerHexDigit (c.toNat % 16)]
  else [c]

def quoted (s : String) : String := String.ofList ('"' :: s.toList.flatMap escapeChar ++ ['"'])

mutual

def compact : Json → String
  | null => "null"
  | truth b => if b then "true" else "false"
  | number n => toString n
  | real x => x.text .keyed
  | text s => quoted s
  | list elements => "[" ++ ",".intercalate (compactAll elements) ++ "]"
  | object members => "\x7b" ++ ",".intercalate (compactMembers members) ++ "\x7d"

def compactAll : List Json → List String
  | [] => []
  | x :: xs => compact x :: compactAll xs

def compactMembers : List (String × Json) → List String
  | [] => []
  | (name, x) :: rest => (quoted name ++ ":" ++ compact x) :: compactMembers rest

end

def members : Json → List (String × Json)
  | object ms => ms
  | _ => []

def strings (xs : List String) : Json := list (xs.map text)

def ofOption {α : Type} (f : α → Json) : Option α → Json
  | none => null
  | some a => f a

end Json

end VesselTraffic
