import VesselTraffic.TagBlock

/-!
# Sentences

A sentence is one line of text with a fragment of an armored payload:

    !AIVDM,<count>,<index>,<sequence>,<channel>,<payload>,<fill>*<hh>

A tag block may stand in front of it. The form of the sentence is settled before
its checksum is verified.
-/
namespace VesselTraffic

/-- Whether a sentence comes from another vessel or from the own one. -/
inductive Carrier
  | other
  | own
  deriving DecidableEq, Repr

/-- Fragments are numbered from one. A checksum that does not match is only ever
found in a sentence read permissively. -/
structure Sentence where
  talker : String
  carrier : Carrier
  fragmentCount : UInt8
  fragmentIndex : UInt8
  sequence : Option UInt8
  channel : Option Char
  payload : String
  fill : UInt8
  checksum : UInt8
  checksumOk : Bool
  tagBlock : Option TagBlock
  deriving DecidableEq, Repr

namespace Carrier

def word : Carrier → String
  | other => "Vdm"
  | own => "Vdo"

/-- The last three letters of an address. -/
def ofFormatter? (formatter : List Char) : Option Carrier :=
  if formatter = ['V', 'D', 'M'] then some other
  else if formatter = ['V', 'D', 'O'] then some own
  else none

end Carrier

namespace Sentence

def isSingle (s : Sentence) : Bool := s.fragmentCount == 1

def isLast (s : Sentence) : Bool := s.fragmentIndex == s.fragmentCount

def isLineEnd (c : Char) : Bool := c = '\r' || c = '\n' || c = ' ' || c = '\t'

/-- The characters that print and are not blank, among the first 128. -/
def isGraphic (c : Char) : Bool := '!' ≤ c && c ≤ '~'

/-- A field that may be empty; `none` if what it holds cannot be read. -/
def optional? {α : Type} (read : List Char → Option α) (field : List Char) : Option (Option α) :=
  if field.isEmpty then some none else (read field).map some

/-- One character of one byte. -/
def channel? : List Char → Option Char
  | [c] => if c.toNat < 128 then some c else none
  | _ => none

/-- What stands between the marker and the checksum, cut at the commas, and the
declared checksum. -/
structure Body where
  covered : List Char
  declared : UInt8
  deriving DecidableEq, Repr

/-- A body begins with `!` or `$` and ends with the last asterisk and two digits. -/
def body? (text : List Char) : Except SentenceFlaw Body :=
  match text with
  | '!' :: inner | '$' :: inner =>
    match Text.cutLast? '*' inner with
    | none => .error .missingChecksum
    | some (covered, digits) =>
      match Text.hexPair? digits with
      | none => .error .badChecksum
      | some declared => .ok ⟨covered, declared⟩
  | _ => .error .missingMarker

/-- Reads the fields of a body. The first field that is wrong decides the refusal. -/
def ofBody (malformed : SentenceFlaw → Refusal) (tagBlock : Option TagBlock) (body : Body) :
    Except Refusal Sentence := do
  let [address, count, index, sequence, channel, payload, fill] := Text.pieces ',' body.covered
    | .error (malformed .fieldCount)
  let require {α : Type} (value : Option α) (flaw : SentenceFlaw) : Except Refusal α :=
    match value with
    | some a => .ok a
    | none => .error (malformed flaw)
  unless address.length = 5 ∧ address.all Char.isAlphanum do
    .error (malformed .badAddress)
  let some carrier := Carrier.ofFormatter? (address.drop 2)
    | .error (.unsupportedCarrier (String.ofList address))
  let count ← require ((Text.oneOrTwoDigits? count).filter (1 ≤ ·)) .badFragmentCount
  let index ← require ((Text.oneOrTwoDigits? index).filter fun i => 1 ≤ i && i ≤ count)
    .badFragmentIndex
  let sequence ← require (optional? Text.oneOrTwoDigits? sequence) .badSequence
  let channel ← require (optional? channel? channel) .badChannel
  unless payload.all isGraphic do
    .error (malformed .badPayload)
  let fill ← require (Text.oneOrTwoDigits? fill) .badFill
  return {
    talker := String.ofList (address.take 2)
    carrier := carrier
    fragmentCount := count
    fragmentIndex := index
    sequence := sequence
    channel := channel
    payload := String.ofList payload
    fill := fill
    checksum := body.declared
    checksumOk := body.declared == Checksum.ofText body.covered
    tagBlock := tagBlock }

/-- Separates a tag block in front from the rest of a line. -/
def leadingTagBlock (mode : ChecksumMode) (malformed : SentenceFlaw → Refusal) :
    List Char → Outcome (Option TagBlock × List Char)
  | '\\' :: rest =>
    match Text.cutFirst? '\\' rest with
    | none => .refuse (malformed .unterminatedTagBlock)
    | some (text, body) => do return (some (← TagBlock.parse mode text), body)
  | line => pure (none, line)

/-- Drops blanks and line ends behind a sentence and all white space before it. -/
def stripped (line : List Char) : List Char :=
  Text.trimStart Text.isBlank (Text.trimEnd isLineEnd line)

def parse (mode : ChecksumMode) (line : String) : Outcome Sentence := do
  let line := stripped line.toList
  let malformed flaw := Refusal.malformedSentence flaw (String.ofList line)
  let (tagBlock, text) ← leadingTagBlock mode malformed line
  let body ← .ofExcept ((body? text).mapError malformed)
  let sentence ← .ofExcept (ofBody malformed tagBlock body)
  let _ ← Checksum.verify mode .sentence body.declared (Checksum.ofText body.covered)
  return sentence

def datum (s : Sentence) : Datum :=
  .record "Sentence" .silent
    [.named "talker" (.text s.talker),
     .named "carrier" (.word s.carrier.word),
     .named "fragment_count" (.byte s.fragmentCount),
     .named "fragment_index" (.byte s.fragmentIndex),
     .named "sequence_id" (.ofOption .byte s.sequence),
     .named "channel" (.ofOption .letter s.channel),
     .named "payload" (.text s.payload),
     .named "fill_bits" (.byte s.fill),
     .named "checksum" (.byte s.checksum),
     .named "checksum_ok" (.truth s.checksumOk),
     .named "tag_block" (.ofOption TagBlock.datum s.tagBlock)]

end Sentence

end VesselTraffic
