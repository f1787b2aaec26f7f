import VesselTraffic.Notice
import VesselTraffic.Text.Blank
import VesselTraffic.Text.Utf8

/-!
# Checksums

A checksum is the exclusive or of all bytes it covers. A mode says what becomes of
a line whose checksum does not match.
-/
namespace VesselTraffic

/-- What happens to a line whose checksum does not match: it is refused, or the
mismatch is noticed and the line kept. -/
inductive ChecksumMode
  | strict
  | permissive
  deriving DecidableEq, Repr

namespace ChecksumMode

def name : ChecksumMode → String
  | strict => "strict"
  | permissive => "permissive"

def word : ChecksumMode → String
  | strict => "Strict"
  | permissive => "Permissive"

/-- Reads the name of a mode in any case, with white space around it. -/
def ofText (text : List Char) : Except Refusal ChecksumMode :=
  let word := String.ofList ((Text.trim text).map Char.toLower)
  if word = "strict" then .ok strict
  else if word = "permissive" || word = "lenient" then .ok permissive
  else .error (.unknownChecksumMode word)

end ChecksumMode

namespace Checksum

/-- The exclusive or of the bytes of a text. -/
def ofText (text : List Char) : UInt8 := (Text.Utf8.encode text).foldl (· ^^^ ·) 0

/-- Whether the declared checksum is the actual one. -/
def verify (mode : ChecksumMode) (part : CheckedPart) (declared actual : UInt8) : Outcome Bool :=
  if declared = actual then pure true
  else match mode with
    | .strict => .refuse (.checksumMismatch declared actual)
    | .permissive => ⟨[.checksumMismatch part declared actual], .ok false⟩

end Checksum

example : Checksum.ofText "AB".toList = 3 := by decide +kernel

end VesselTraffic
