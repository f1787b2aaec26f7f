import VesselTraffic.Datum
import VesselTraffic.Datum.Json

/-!
# The two forms of a description

The keyed form is a JSON value. The plain form names the types and alternatives,
and quotes texts.
-/
namespace VesselTraffic

namespace Mark

/-- Shows the alternative beside or around the members of a value. -/
def around (mark : Mark) (content : Json) : Json :=
  match mark with
  | silent => content
  | key name => .object [(name, content)]
  | member name value => .object ((name, .text value) :: content.members)

end Mark

namespace Datum

mutual

def keyed : Datum → Json
  | missing => .null
  | present content => keyed content
  | truth b => .truth b
  | number n => .number n
  | real x => .real x
  | text s => .text s
  | letter c => .text (String.singleton c)
  | bits v => .text v.digits
  | pair a b => .list [keyed a, keyed b]
  | list elements => .list (keyedAll elements)
  | word name => .text name
  | wrapped _ mark content => mark.around (keyed content)
  | record _ mark members => mark.around (.object (keyedMembers members))

def keyedAll : List Datum → List Json
  | [] => []
  | d :: ds => keyed d :: keyedAll ds

def keyedMembers : List Member → List (String × Json)
  | [] => []
  | .named name content :: rest => (name, keyed content) :: keyedMembers rest
  | .merged _ content :: rest => (keyed content).members ++ keyedMembers rest

end

mutual

def plain : Datum → String
  | missing => "None"
  | present content => "Some(" ++ plain content ++ ")"
  | truth b => if b then "true" else "false"
  | number n => toString n
  | real x => x.text .plain
  | text s => Text.quotedText s
  | letter c => Text.quotedChar c
  | bits v => "BitView(" ++ toString v.len ++ "b: " ++ v.digits ++ ")"
  | pair a b => "(" ++ plain a ++ ", " ++ plain b ++ ")"
  | list elements => "[" ++ ", ".intercalate (plainAll elements) ++ "]"
  | word name => name
  | wrapped name _ content => name ++ "(" ++ plain content ++ ")"
  | record name _ members => name ++ " \x7b " ++ ", ".intercalate (plainMembers members) ++ " \x7d"

def plainAll : List Datum → List String
  | [] => []
  | d :: ds => plain d :: plainAll ds

def plainMembers : List Member → List String
  | [] => []
  | .named name content :: rest => (name ++ ": " ++ plain content) :: plainMembers rest
  | .merged name content :: rest => (name ++ ": " ++ plain content) :: plainMembers rest

end

end Datum

end VesselTraffic
