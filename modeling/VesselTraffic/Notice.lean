import VesselTraffic.Quantity
import VesselTraffic.Refusal

/-!
# Notices

A notice tells of something odd that did not stop the work: a value outside its
documented range, a checksum that does not match, a sequence of fragments given
up. Notices are values, returned in the order in which they arise.
-/
namespace VesselTraffic

inductive Level
  | debug
  | warn
  deriving DecidableEq, Repr

namespace Level

def word : Level → String
  | debug => "DEBUG"
  | warn => "WARN"

end Level

/-- A reported value as it was compared. -/
inductive Reading
  | count (n : Nat)
  | quantity (q : Quantity)
  deriving DecidableEq, Repr

namespace Reading

def between (r : Reading) (least most : Int) : Bool :=
  match r with
  | count n => decide (least ≤ n ∧ n ≤ most)
  | quantity q => q.between least most

def text : Reading → String
  | count n => toString n
  | quantity q => q.value.text .plain

end Reading

/-- The part of a line that a checksum covers. -/
inductive CheckedPart
  | sentence
  | tagBlock
  deriving DecidableEq, Repr

namespace CheckedPart

def word : CheckedPart → String
  | sentence => "sentence"
  | tagBlock => "tag block"

end CheckedPart

/-- How a fragment fails to continue the sequence collected before it. -/
inductive SequenceBreak
  | indexPastCount
  | repeated
  | gap
  | countChanged
  | sequenceChanged
  deriving DecidableEq, Repr

namespace SequenceBreak

def message : SequenceBreak → String
  | indexPastCount => "fragment index past count"
  | repeated => "duplicate or restarted fragment"
  | gap => "fragment gap"
  | countChanged => "fragment count changed mid-sequence"
  | sequenceChanged => "sequence id changed mid-sequence"

end SequenceBreak

inductive Notice
  | outsideRange (mmsi : UInt32) (field : String) (value : Reading)
  | headingOutsideRange (mmsi : UInt32) (heading : UInt16)
  | timeOutsideRange (hour minute : UInt8)
  | slotOutsideRange (slot : UInt16)
  | shortApplication (dac : UInt16) (fi : UInt8) (len least : Nat)
  | waypointsMissing (declared available : Nat)
  | checksumMismatch (part : CheckedPart) (expected actual : UInt8)
  | staleFragments (buffered : Nat)
  | sequenceReset (cause : SequenceBreak) (index count : UInt8) (expected buffered : Nat)
  | sentenceRejected (source : String) (refusal : Refusal)
  | badPayload (source : String) (refusal : Refusal)
  | unsupportedKind (source : String) (code : UInt8)
  | decodeFailed (source : String) (refusal : Refusal)
  | incompleteFlushed (source : String) (fragments : Nat)
  | checksumSettingIgnored (value : String) (refusal : Refusal)
  | listenSettingIgnored (value : String)
  | settingsUnreadable (path error : String)
  deriving DecidableEq, Repr

namespace Notice

def level : Notice → Level
  | checksumMismatch .. | checksumSettingIgnored .. | listenSettingIgnored _
  | settingsUnreadable .. => .warn
  | _ => .debug

def message : Notice → String
  | outsideRange .. => "field outside documented range"
  | headingOutsideRange .. => "true heading outside documented range"
  | timeOutsideRange .. => "SOTDMA UTC time out of range"
  | slotOutsideRange _ => "SOTDMA slot number out of range"
  | shortApplication .. => "short application-specific payload, missing fields read as zero"
  | waypointsMissing .. => "route waypoint count exceeds payload"
  | checksumMismatch part .. => part.word ++ " checksum mismatch, continuing"
  | staleFragments _ => "single-fragment sentence discards stale partial sequence"
  | sequenceReset cause .. => cause.message ++ ", resetting reassembly"
  | sentenceRejected .. => "sentence rejected"
  | badPayload .. => "bad payload"
  | unsupportedKind .. => "unsupported message type"
  | decodeFailed .. => "decode failed"
  | incompleteFlushed .. => "flushed incomplete message"
  | checksumSettingIgnored .. => "ignoring decoder.checksum"
  | listenSettingIgnored _ => "ignoring listen.port"
  | settingsUnreadable .. => "unreadable config, using defaults"

/-- The named values of a notice, as texts. -/
def fields : Notice → List (String × String)
  | outsideRange mmsi field value =>
    [("mmsi", toString mmsi.toNat), ("field", field), ("value", value.text)]
  | headingOutsideRange mmsi heading =>
    [("mmsi", toString mmsi.toNat), ("heading", toString heading.toNat)]
  | timeOutsideRange hour minute =>
    [("hour", toString hour.toNat), ("minute", toString minute.toNat)]
  | slotOutsideRange slot => [("slot", toString slot.toNat)]
  | shortApplication dac fi len least =>
    [("dac", toString dac.toNat), ("fi", toString fi.toNat), ("len", toString len),
     ("min_bits", toString least)]
  | waypointsMissing declared available =>
    [("declared", toString declared), ("available", toString available)]
  | checksumMismatch _ expected actual =>
    [("expected", Text.hexPair expected), ("actual", Text.hexPair actual)]
  | staleFragments buffered => [("buffered", toString buffered)]
  | sequenceReset _ index count expected buffered =>
    [("index", toString index.toNat), ("count", toString count.toNat),
     ("expected", toString expected), ("buffered", toString buffered)]
  | sentenceRejected source refusal | badPayload source refusal | decodeFailed source refusal =>
    [("source", source), ("error", refusal.message)]
  | unsupportedKind source code => [("source", source), ("message_type", toString code.toNat)]
  | incompleteFlushed source fragments => [("source", source), ("fragments", toString fragments)]
  | checksumSettingIgnored value refusal => [("value", value), ("error", refusal.message)]
  | listenSettingIgnored value => [("value", value)]
  | settingsUnreadable path error => [("path", path), ("error", error)]

end Notice

/-- A result together with the notices that arose on the way to it, whether or not it
is a refusal. -/
structure Outcome (α : Type) where
  notices : List Notice
  result : Except Refusal α

namespace Outcome

def refuse {α : Type} (r : Refusal) : Outcome α := ⟨[], .error r⟩

def ofExcept {α : Type} (e : Except Refusal α) : Outcome α := ⟨[], e⟩

/-- Goes on with a result, and keeps the notices from before. -/
def andThen {α β : Type} (x : Outcome α) (f : α → Outcome β) : Outcome β :=
  match x.result with
  | .error r => ⟨x.notices, .error r⟩
  | .ok a => ⟨x.notices ++ (f a).notices, (f a).result⟩

instance : Monad Outcome where
  pure a := ⟨[], .ok a⟩
  bind := andThen

@[simp] theorem ok_bind {α β : Type} (a : α) (f : α → Outcome β) :
    ((⟨[], .ok a⟩ : Outcome α) >>= f) = f a := rfl

end Outcome

end VesselTraffic
