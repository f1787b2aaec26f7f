import VesselTraffic.Armor
import VesselTraffic.Sentence

/-!
# Frames

A frame is the payload of one whole message with what its sentences told about it.
Before any field is read, the frame is checked to hold a message of the kind and to
have a length that the kind allows.
-/
namespace VesselTraffic

structure Frame where
  bits : BitView
  payload : String
  fill : UInt8
  fragments : UInt8
  channel : Option Char
  carrier : Carrier
  tagBlock : Option TagBlock
  deriving DecidableEq

/-- The first 38 bits of every message. -/
structure Header where
  messageType : UInt8
  repeatIndicator : UInt8
  mmsi : UInt32
  deriving DecidableEq, Repr

namespace Header

def members (h : Header) : List Member :=
  [.named "message_type" (.byte h.messageType),
   .named "repeat_indicator" (.byte h.repeatIndicator),
   .named "mmsi" (.full h.mmsi)]

def datum (h : Header) : Datum := .record "Header" .silent h.members

/-- A header among the members of a message. -/
def member (h : Header) : Member := .merged "header" h.datum

end Header

namespace Frame

/-- Joins the payloads of some fragments. The fill is that of the last one; channel
and tag block are the first ones given. -/
def ofSentences (sentences : List Sentence) : Except Refusal Frame :=
  match sentences, sentences.getLast? with
  | first :: _, some last => do
    let payload := String.join (sentences.map Sentence.payload)
    return {
      bits := ← Armor.decode payload last.fill
      payload := payload
      fill := last.fill
      fragments := UInt8.ofNat sentences.length
      channel := sentences.findSome? Sentence.channel
      carrier := first.carrier
      tagBlock := sentences.findSome? Sentence.tagBlock }
  | _, _ => .error .noFragments

/-- A frame around some bits, without sentences. -/
def ofBits (bits : BitView) : Frame := ⟨bits, "", 0, 1, none, .other, none⟩

/-- A frame of an armored payload, without sentences. -/
def ofPayload (payload : String) (fill : UInt8) : Except Refusal Frame := do
  return { ofBits (← Armor.decode payload fill) with payload := payload, fill := fill }

def len (f : Frame) : Nat := f.bits.len

def code (f : Frame) : UInt8 := f.bits.uint8 0 6

def header (f : Frame) : Header := ⟨f.code, f.bits.uint8 6 8, f.bits.uint32 8 38⟩

def kind (f : Frame) : Except Refusal MessageKind :=
  match MessageKind.ofCode? f.code with
  | some kind => .ok kind
  | none => .error (.unsupportedKind f.code)

def refuse {α : Type} (kind : MessageKind) (flaw : FrameFlaw) : Except Refusal α :=
  .error (.invalidFrame kind.code flaw)

/-- Succeeds if the frame holds a message of the kind and its length is within bounds. -/
def ensure (f : Frame) (kind : MessageKind) : Except Refusal Unit :=
  if f.code ≠ kind.code then refuse kind (.otherCode f.code)
  else if kind.bounds.allows f.len then .ok ()
  else refuse kind (.wrongLength kind.bounds f.len)

end Frame

end VesselTraffic
