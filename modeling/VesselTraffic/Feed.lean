import VesselTraffic.Text.Blank
import VesselTraffic.Text.Split
import VesselTraffic.Text.Utf8

/-!
# Feeds

The lines of a file or a datagram. White space around a line goes, and blank lines
and comments are left out. Bytes that are no text are repaired.
-/
namespace VesselTraffic.Feed

/-- The line without white space around it, unless it is blank or a comment. -/
def clean? (line : List Char) : Option (List Char) :=
  match Text.trim line with
  | [] => none
  | '#' :: _ => none
  | cleaned => some cleaned

def lineFeed : UInt8 := 0x0a

/-- The lines of a file. They are cut before they are repaired. -/
def fileLines (bytes : List UInt8) : List String :=
  (Text.pieces lineFeed bytes).filterMap fun piece => (clean? (Text.Utf8.repaired piece)).map String.ofList

/-- The lines of a datagram. It is repaired before it is cut. -/
def datagramLines (bytes : List UInt8) : List String :=
  (Text.linesOf (Text.Utf8.repaired bytes)).filterMap fun line => (clean? line).map String.ofList

example : clean? " \t# x".toList = none ∧ clean? " a \r".toList = some ['a'] := by decide

end VesselTraffic.Feed
