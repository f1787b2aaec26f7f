import VesselTraffic.Checksum
import VesselTraffic.Datum
import VesselTraffic.Text.Split

/-!
# Tag blocks

A tag block stands between backslashes in front of a sentence. It holds
parameters `key:value` between commas and a checksum over them.
-/
namespace VesselTraffic

/-- The place of a sentence in a group of them. -/
structure TagGroup where
  sentence : UInt32
  total : UInt32
  id : UInt32
  deriving DecidableEq, Repr

/-- Times are in seconds. Parameters with unknown keys are kept in their order. -/
structure TagBlock where
  timestamp : Option Int := none
  source : Option String := none
  destination : Option String := none
  lineCount : Option UInt32 := none
  relativeTime : Option Int := none
  group : Option TagGroup := none
  text : Option String := none
  extras : List (String × String) := []
  checksumOk : Bool
  deriving DecidableEq, Repr

namespace TagBlock

/-- Times beyond this many seconds are in milliseconds. -/
def mostSeconds : Int := 9999999999

def timestamp? (value : List Char) : Option Int :=
  (Text.signed64? value).map fun t => if mostSeconds < t then t / 1000 else t

/-- Three numbers with dashes between them. -/
def group? (value : List Char) : Option TagGroup := do
  let (first, rest) ← Text.cutFirst? '-' value
  let (second, third) ← Text.cutFirst? '-' rest
  return ⟨← Text.unsigned32? first, ← Text.unsigned32? second, ← Text.unsigned32? third⟩

/-- Records one parameter. A later one replaces an earlier one of the same key. -/
def assign (block : TagBlock) (key value : List Char) : Except TagBlockFlaw TagBlock :=
  let bad (c : Char) := Except.error (TagBlockFlaw.badValue c)
  match key with
  | ['c'] => match timestamp? value with
    | some t => .ok { block with timestamp := some t }
    | none => bad 'c'
  | ['s'] => .ok { block with source := some (String.ofList value) }
  | ['d'] => .ok { block with destination := some (String.ofList value) }
  | ['n'] => match Text.unsigned32? value with
    | some n => .ok { block with lineCount := some n }
    | none => bad 'n'
  | ['r'] => match Text.signed64? value with
    | some t => .ok { block with relativeTime := some t }
    | none => bad 'r'
  | ['g'] => match group? value with
    | some g => .ok { block with group := some g }
    | none => bad 'g'
  | ['t'] => .ok { block with text := some (String.ofList value) }
  | _ => .ok { block with extras := block.extras ++ [(String.ofList key, String.ofList value)] }

def assignPiece (block : TagBlock) (piece : List Char) : Except TagBlockFlaw TagBlock :=
  match Text.cutFirst? ':' piece with
  | none => .error .missingColon
  | some (key, value) => block.assign key value

/-- The parameters of a block, empty ones left out. -/
def ofPieces (parameters : List Char) (checksumOk : Bool) : Except TagBlockFlaw TagBlock :=
  ((Text.pieces ',' parameters).filter (!·.isEmpty)).foldlM assignPiece { checksumOk := checksumOk }

/-- Reads the text between the backslashes. The checksum is verified before any
parameter is read. -/
def parse (mode : ChecksumMode) (text : List Char) : Outcome TagBlock :=
  let malformed flaw := Refusal.malformedTagBlock flaw (String.ofList text)
  match Text.cutLast? '*' text with
  | none => .refuse (malformed .missingChecksum)
  | some (parameters, digits) =>
    match Text.hexPair? digits with
    | none => .refuse (malformed .badChecksum)
    | some declared => do
      let ok ← Checksum.verify mode .tagBlock declared (Checksum.ofText parameters)
      .ofExcept ((ofPieces parameters ok).mapError malformed)

end TagBlock

def TagGroup.datum (g : TagGroup) : Datum :=
  .record "TagGroup" .silent
    [.named "sentence" (.full g.sentence), .named "total" (.full g.total), .named "id" (.full g.id)]

def TagBlock.datum (b : TagBlock) : Datum :=
  .record "TagBlock" .silent
    [.named "timestamp" (.ofOption .number b.timestamp),
     .named "source" (.ofOption .text b.source),
     .named "destination" (.ofOption .text b.destination),
     .named "line_count" (.ofOption .full b.lineCount),
     .named "relative_time" (.ofOption .number b.relativeTime),
     .named "group" (.ofOption TagGroup.datum b.group),
     .named "text" (.ofOption .text b.text),
     .named "extras" (.list (b.extras.map fun (k, v) => .pair (.text k) (.text v))),
     .named "checksum_ok" (.truth b.checksumOk)]

end VesselTraffic
