import VesselTraffic.MessageKind
import VesselTraffic.Text.Quoted

/-!
# Reasons for refusing input

Every refusal names its cause. The wording is in one function.
-/
namespace VesselTraffic

/-- What is wrong with the form of a sentence. -/
inductive SentenceFlaw
  | unterminatedTagBlock
  | missingMarker
  | missingChecksum
  | badChecksum
  | fieldCount
  | badAddress
  | badFragmentCount
  | badFragmentIndex
  | badSequence
  | badChannel
  | badPayload
  | badFill
  deriving DecidableEq, Repr

/-- What is wrong with the form of a tag block. -/
inductive TagBlockFlaw
  | missingChecksum
  | badChecksum
  | missingColon
  | badValue (key : Char)
  deriving DecidableEq, Repr

/-- Why a frame does not hold a message of a kind. -/
inductive FrameFlaw
  | otherCode (code : UInt8)
  | wrongLength (bounds : LengthBounds) (len : Nat)
  | notClassA
  | partBLength (expected len : Nat)
  | reservedPart (number : Nat)
  deriving DecidableEq, Repr

inductive Refusal
  | malformedSentence (flaw : SentenceFlaw) (line : String)
  | noFragments
  | checksumMismatch (expected actual : UInt8)
  | unsupportedCarrier (address : String)
  | invalidCharacter (byte : UInt8)
  | invalidFill (fill : UInt8)
  | unsupportedKind (code : UInt8)
  | invalidFrame (code : UInt8) (flaw : FrameFlaw)
  | malformedTagBlock (flaw : TagBlockFlaw) (text : String)
  | unknownChecksumMode (word : String)
  deriving DecidableEq, Repr

namespace SentenceFlaw

def message : SentenceFlaw → String
  | unterminatedTagBlock => "unterminated tag block"
  | missingMarker => "missing leading marker"
  | missingChecksum => "missing checksum delimiter"
  | badChecksum => "bad checksum field"
  | fieldCount => "expected 7 fields"
  | badAddress => "bad address field"
  | badFragmentCount => "bad fragment count"
  | badFragmentIndex => "bad fragment index"
  | badSequence => "bad sequence id"
  | badChannel => "bad channel"
  | badPayload => "bad payload"
  | badFill => "bad fill bits"

end SentenceFlaw

namespace TagBlockFlaw

def message : TagBlockFlaw → String
  | missingChecksum => "missing checksum"
  | badChecksum => "bad checksum"
  | missingColon => "parameter without ':'"
  | badValue key => "bad " ++ String.singleton key

end TagBlockFlaw

namespace FrameFlaw

def message : FrameFlaw → String
  | otherCode code => "discriminant is " ++ toString code.toNat
  | wrongLength bounds len =>
    let expected :=
      if bounds.isFixed then toString bounds.least
      else toString bounds.least ++ "..=" ++ toString bounds.most
    "expected " ++ expected ++ " bits, got " ++ toString len
  | notClassA => "not a class A position report"
  | partBLength expected len =>
    "part B needs " ++ toString expected ++ " bits, got " ++ toString len
  | reservedPart number => "reserved part number " ++ toString number

end FrameFlaw

namespace Refusal

def message : Refusal → String
  | malformedSentence flaw line =>
    "malformed sentence: " ++ flaw.message ++ ": " ++ Text.quotedText line
  | noFragments => "malformed sentence: no fragments"
  | checksumMismatch expected actual =>
    "checksum mismatch: expected " ++ Text.hexPair expected ++ ", got " ++ Text.hexPair actual
  | unsupportedCarrier address => "unsupported sentence carrier: " ++ address
  | invalidCharacter byte =>
    "invalid armored character: " ++ Text.quotedChar (Char.ofNat byte.toNat)
  | invalidFill fill => "invalid fill bit count: " ++ toString fill.toNat
  | unsupportedKind code => "unsupported message type: " ++ toString code.toNat
  | invalidFrame code flaw =>
    "invalid frame for message type " ++ toString code.toNat ++ ": " ++ flaw.message
  | malformedTagBlock flaw text =>
    "malformed tag block: " ++ flaw.message ++ ": " ++ Text.quotedText text
  | unknownChecksumMode word => "config error: unknown checksum mode: " ++ word

end Refusal

end VesselTraffic
