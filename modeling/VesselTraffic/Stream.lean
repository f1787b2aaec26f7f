import VesselTraffic.Message
import VesselTraffic.Reassembler

/-!
# Streams

A stream takes the lines of one input, in order, and hands every decoded message to
all its receivers. A line that is refused changes nothing but the counts of lines.
-/
namespace VesselTraffic

/-- Counts of lines, of lines whose sentence is refused, of frames put together, of
decoded messages, and of payloads and frames that could not be decoded. -/
structure StreamCounts where
  lines : Nat := 0
  rejected : Nat := 0
  frames : Nat := 0
  decoded : Nat := 0
  failures : Nat := 0
  deriving DecidableEq, Repr

/-- Receivers are numbered from zero. -/
structure Stream where
  source : String
  mode : ChecksumMode
  receivers : Nat := 0
  reassembler : Reassembler := Reassembler.new
  counts : StreamCounts := {}
  deriving DecidableEq, Repr

/-- What comes with a message: where it was received and what its sentences told. -/
structure Metadata where
  source : String
  tagBlock : Option TagBlock
  channel : Option Char
  deriving DecidableEq, Repr

/-- A message handed to a receiver. -/
structure Delivery where
  receiver : Nat
  metadata : Metadata
  message : Message
  deriving DecidableEq

namespace Stream

def new (source : String) (mode : ChecksumMode) : Stream := { source := source, mode := mode }

def addReceiver (s : Stream) : Stream := { s with receivers := s.receivers + 1 }

/-- How many sequences of fragments were given up. -/
def resets (s : Stream) : Nat := s.reassembler.violations

/-- What one line leads to: a refusal, no message yet, or a message and its
deliveries. -/
structure Accepted where
  next : Stream
  notices : List Notice
  result : Except Refusal (Option Message)
  deliveries : List Delivery := []

def metadata (s : Stream) (f : Frame) : Metadata := ⟨s.source, f.tagBlock, f.channel⟩

/-- Hands a message to every receiver, in the order of their numbers. -/
def deliver (s : Stream) (f : Frame) (m : Message) : List Delivery :=
  (List.range s.receivers).map fun i => ⟨i, s.metadata f, m⟩

def failureNotice (s : Stream) : Refusal → Notice
  | .unsupportedKind code => .unsupportedKind s.source code
  | r => .decodeFailed s.source r

/-- Decodes a frame that was put together. -/
def acceptFrame (s : Stream) (f : Frame) : Accepted :=
  let s := { s with counts.frames := s.counts.frames + 1 }
  match Message.decode f with
  | .error r =>
    ⟨{ s with counts.failures := s.counts.failures + 1 }, [s.failureNotice r], .error r, []⟩
  | .ok m =>
    ⟨{ s with counts.decoded := s.counts.decoded + 1 }, m.notices f, .ok (some m), s.deliver f m⟩

/-- Takes a sentence that was read. -/
def acceptSentence (s : Stream) (sentence : Sentence) : Accepted :=
  let push := s.reassembler.push sentence
  let s := { s with reassembler := push.next }
  match push.completed with
  | none => ⟨s, push.notices, .ok none, []⟩
  | some (.error r) =>
    ⟨{ s with counts.failures := s.counts.failures + 1 }, push.notices ++ [.badPayload s.source r],
     .error r, []⟩
  | some (.ok f) =>
    let accepted := s.acceptFrame f
    { accepted with notices := push.notices ++ accepted.notices }

def accept (s : Stream) (line : String) : Accepted :=
  let s := { s with counts.lines := s.counts.lines + 1 }
  let sentence := Sentence.parse s.mode line
  match sentence.result with
  | .error r =>
    ⟨{ s with counts.rejected := s.counts.rejected + 1 },
     sentence.notices ++ [.sentenceRejected s.source r], .error r, []⟩
  | .ok sent =>
    let accepted := s.acceptSentence sent
    { accepted with notices := sentence.notices ++ accepted.notices }

/-- Gives up and returns the fragments collected so far. -/
def flush (s : Stream) : Stream × List Notice × List Sentence :=
  let (reassembler, pending) := s.reassembler.flush
  ({ s with reassembler := reassembler },
   if pending.isEmpty then [] else [.incompleteFlushed s.source pending.length], pending)

def countsDatum (s : Stream) : Datum :=
  .record "StreamStats" .silent
    [.named "lines" (.nat s.counts.lines),
     .named "rejected" (.nat s.counts.rejected),
     .named "frames" (.nat s.counts.frames),
     .named "decoded" (.nat s.counts.decoded),
     .named "failures" (.nat s.counts.failures),
     .named "reassembly_resets" (.nat s.resets)]

/-- The counts as the stream itself keeps them: sequences given up are counted by the
reassembler. -/
def ownCountsDatum (s : Stream) : Datum :=
  { s with reassembler := Reassembler.new }.countsDatum

def datum (s : Stream) : Datum :=
  .record "AisStream" .silent
    [.named "source" (.text s.source),
     .named "mode" (.word s.mode.word),
     .named "reassembler" s.reassembler.datum,
     .named "receivers" (.nat s.receivers),
     .named "stats" s.ownCountsDatum]

end Stream

end VesselTraffic
