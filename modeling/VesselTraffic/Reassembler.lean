import VesselTraffic.Frame

/-!
# Reassembly

The fragments of one message arrive in order and without others between them. A
reassembler collects them. It holds nothing, or the first fragments of one
sequence; a fragment that does not continue it is dropped together with it. Since
radio loses sentences, that is no error.
-/
namespace VesselTraffic

structure Reassembler where
  buffer : List Sentence := []
  violations : Nat := 0
  deriving DecidableEq, Repr

namespace Reassembler

def new : Reassembler := {}

def isIdle (r : Reassembler) : Bool := r.buffer.isEmpty

/-- The index that continues the sequence. -/
def expected (r : Reassembler) : Nat := r.buffer.length + 1

/-- How a fragment fails to continue what is collected, if it does. -/
def break? (r : Reassembler) (s : Sentence) : Option SequenceBreak :=
  let index := s.fragmentIndex.toNat
  if s.fragmentCount < s.fragmentIndex then some .indexPastCount
  else if index < r.expected then some .repeated
  else if r.expected < index then some .gap
  else match r.buffer with
    | [] => none
    | first :: _ =>
      if first.fragmentCount ≠ s.fragmentCount then some .countChanged
      else if first.sequence ≠ s.sequence then some .sequenceChanged
      else none

/-- What one sentence leads to: nothing yet, or a frame or the refusal of its payload. -/
structure Push where
  next : Reassembler
  notices : List Notice
  completed : Option (Except Refusal Frame)

/-- A sentence that is a whole message replaces what is collected. -/
def pushSingle (r : Reassembler) (s : Sentence) : Push where
  next := { r with buffer := [] }
  notices := if r.isIdle then [] else [.staleFragments r.buffer.length]
  completed := some (Frame.ofSentences [s])

/-- Gives up the sequence collected so far. -/
def reset (r : Reassembler) (s : Sentence) (cause : SequenceBreak) : Push where
  next := ⟨[], r.violations + 1⟩
  notices := [.sequenceReset cause s.fragmentIndex s.fragmentCount r.expected r.buffer.length]
  completed := none

/-- Adds a fragment that continues the sequence. -/
def extend (r : Reassembler) (s : Sentence) : Push :=
  let fragments := r.buffer ++ [s]
  if fragments.length < s.fragmentCount.toNat then ⟨{ r with buffer := fragments }, [], none⟩
  else ⟨{ r with buffer := [] }, [], some (Frame.ofSentences fragments)⟩

def push (r : Reassembler) (s : Sentence) : Push :=
  if s.isSingle then r.pushSingle s
  else match r.break? s with
    | some cause => r.reset s cause
    | none => r.extend s

/-- Gives up and returns what is collected. -/
def flush (r : Reassembler) : Reassembler × List Sentence := ({ r with buffer := [] }, r.buffer)

def datum (r : Reassembler) : Datum :=
  .record "Reassembler" .silent
    [.named "buffer" (.list (r.buffer.map Sentence.datum)), .named "violations" (.nat r.violations)]

end Reassembler

end VesselTraffic
