import VesselTraffic.Proofs.Accounting
import VesselTraffic.Proofs.Checked.Lines
import VesselTraffic.Proofs.Checked.Reports

/-!
# No fault in any run

A stream that works with checked operations only makes of every line what the stream makes
of it. The one operation whose success depends on the past is the count of the fragments
held, and those are always fewer than their byte-sized count declares.
-/
namespace VesselTraffic.Checked

/-! ### One push -/

/-- The index that continues the sequence, as a byte. -/
def expected (r : Reassembler) : Checked UInt8 := do byteSum (← byte r.buffer.length) 1

/-- How a fragment fails to continue what is collected, given the index that would. -/
def break? (r : Reassembler) (expected : UInt8) (s : Sentence) : Option SequenceBreak :=
  if s.fragmentCount < s.fragmentIndex then some .indexPastCount
  else if s.fragmentIndex < expected then some .repeated
  else if expected < s.fragmentIndex then some .gap
  else match r.buffer with
    | [] => none
    | first :: _ =>
      if first.fragmentCount ≠ s.fragmentCount then some .countChanged
      else if first.sequence ≠ s.sequence then some .sequenceChanged
      else none

/-- Adds a fragment that continues the sequence. -/
def extend (r : Reassembler) (s : Sentence) : Checked Reassembler.Push := do
  let fragments := r.buffer ++ [s]
  if fragments.length < s.fragmentCount.toNat then return ⟨{ r with buffer := fragments }, [], none⟩
  else return ⟨{ r with buffer := [] }, [], some (← ofSentences fragments)⟩

def push (r : Reassembler) (s : Sentence) : Checked Reassembler.Push := do
  if s.isSingle then return { r.pushSingle s with completed := some (← ofSentences [s]) }
  else
    let expected ← expected r
    match break? r expected s with
    | some cause => return r.reset s cause
    | none => extend r s

section

variable {r : Reassembler}

/-- A held sequence lacks a fragment, so there are at most 254 of the 255 that a byte can
declare. -/
theorem length_buffer_lt (hr : r.IsPartial) : r.buffer.length + 1 < 2 ^ 8 := by
  obtain ⟨count, sequence, -, hlt⟩ := hr
  have hcount := count.toNat_lt
  omega

theorem expected_eq_ok (hr : r.IsPartial) : ∃ n, expected r = .ok n ∧ n.toNat = r.expected := by
  have hlt := length_buffer_lt hr
  have hnat : (UInt8.ofNat r.buffer.length).toNat = r.buffer.length := Nat.mod_eq_of_lt (by omega)
  have hsum : (UInt8.ofNat r.buffer.length).toNat + (1 : UInt8).toNat < 2 ^ 8 := by
    rw [hnat]
    exact hlt
  refine ⟨UInt8.ofNat r.buffer.length + 1, ?_, ?_⟩
  · rw [expected, byte, narrow_of_lt UInt8.ofNat (by omega), ok_bind, byteSum_of_lt hsum]
  · rw [UInt8.toNat_add, Nat.mod_eq_of_lt hsum, hnat]
    rfl

example (s : Sentence) : expected ⟨List.replicate 255 s, 0⟩ = .error .outOfRange := by
  rw [expected, List.length_replicate]
  rfl

theorem break?_eq {n : UInt8} (hn : n.toNat = r.expected) (s : Sentence) :
    break? r n s = r.break? s := by
  rw [break?, Reassembler.break?, ← hn]
  cases r.buffer <;> simp only [UInt8.lt_iff_toNat_lt]

/-- A sequence has at most as many fragments as a byte can count. -/
theorem extend_eq_ok (hr : r.IsPartial) (s : Sentence) : extend r s = .ok (r.extend s) := by
  have hlength : (r.buffer ++ [s]).length < 2 ^ 8 := by
    rw [List.length_append]
    exact length_buffer_lt hr
  rw [extend, Reassembler.extend]
  split_ifs
  · rfl
  · rw [ofSentences_eq_ok hlength]
    rfl

theorem push_eq_ok (hr : r.IsPartial) (s : Sentence) : push r s = .ok (r.push s) := by
  obtain ⟨n, hexpected, hn⟩ := expected_eq_ok hr
  rw [push, Reassembler.push]
  split_ifs
  · rw [ofSentences_eq_ok (by simp : [s].length < 2 ^ 8)]
    rfl
  · rw [hexpected, ok_bind, break?_eq hn]
    cases r.break? s with
    | some cause => rfl
    | none => exact extend_eq_ok hr s

end

/-- The reassembler after one step. -/
def reassemblerAfter (r : Reassembler) : Reassembler.Step → Checked Reassembler
  | .push s => do return (← push r s).next
  | .flush => return r.flush.1

def reassemblerRun (r : Reassembler) (steps : List Reassembler.Step) : Checked Reassembler :=
  steps.foldlM reassemblerAfter r

theorem reassemblerRun_eq_ok {r : Reassembler} (hr : r.IsPartial) (steps : List Reassembler.Step) :
    reassemblerRun r steps = .ok (r.run steps) := by
  induction steps generalizing r with
  | nil => rfl
  | cons step steps ih =>
    have hafter : reassemblerAfter r step = .ok (r.after step) := by
      cases step with
      | push s =>
        rw [reassemblerAfter, push_eq_ok hr]
        rfl
      | flush => rfl
    rw [reassemblerRun, List.foldlM_cons, hafter, ok_bind]
    exact ih (Reassembler.isPartial_run hr [step])

/-! ### One line -/

def acceptFrame (s : Stream) (f : Frame) : Checked Stream.Accepted := do
  let s := { s with counts.frames := s.counts.frames + 1 }
  match ← decode f with
  | .error r =>
    return ⟨{ s with counts.failures := s.counts.failures + 1 }, [s.failureNotice r], .error r, []⟩
  | .ok m =>
    return ⟨{ s with counts.decoded := s.counts.decoded + 1 }, m.notices f, .ok (some m),
      s.deliver f m⟩

def acceptSentence (s : Stream) (sentence : Sentence) : Checked Stream.Accepted := do
  let push ← push s.reassembler sentence
  let s := { s with reassembler := push.next }
  match push.completed with
  | none => return ⟨s, push.notices, .ok none, []⟩
  | some (.error r) =>
    return ⟨{ s with counts.failures := s.counts.failures + 1 },
      push.notices ++ [.badPayload s.source r], .error r, []⟩
  | some (.ok f) =>
    let accepted ← acceptFrame s f
    return { accepted with notices := push.notices ++ accepted.notices }

def accept (s : Stream) (line : String) : Checked Stream.Accepted := do
  let s := { s with counts.lines := s.counts.lines + 1 }
  let sentence ← parse s.mode line
  match sentence.result with
  | .error r =>
    return ⟨{ s with counts.rejected := s.counts.rejected + 1 },
      sentence.notices ++ [.sentenceRejected s.source r], .error r, []⟩
  | .ok sent =>
    let accepted ← acceptSentence s sent
    return { accepted with notices := sentence.notices ++ accepted.notices }

theorem acceptFrame_eq_ok (s : Stream) (f : Frame) : acceptFrame s f = .ok (s.acceptFrame f) := by
  rw [acceptFrame, decode_eq_ok, ok_bind, Stream.acceptFrame]
  cases Message.decode f <;> rfl

theorem acceptSentence_eq_ok {s : Stream} (hs : s.reassembler.IsPartial) (sentence : Sentence) :
    acceptSentence s sentence = .ok (s.acceptSentence sentence) := by
  rw [acceptSentence, push_eq_ok hs, ok_bind, Stream.acceptSentence]
  rcases (s.reassembler.push sentence).completed with _ | r | f
  · rfl
  · rfl
  · simp only [acceptFrame_eq_ok]
    rfl

theorem accept_eq_ok {s : Stream} (hs : s.reassembler.IsPartial) (line : String) :
    accept s line = .ok (s.accept line) := by
  rw [accept, parse_eq_ok, ok_bind, Stream.accept]
  cases (Sentence.parse s.mode line).result with
  | error r => rfl
  | ok sentence =>
    have haccepted := acceptSentence_eq_ok (s := s.withLine) hs sentence
    rw [Stream.withLine] at haccepted
    simp only [haccepted]
    rfl

/-! ### Runs -/

/-- The stream after one step. -/
def streamAfter (s : Stream) : Stream.Step → Checked Stream
  | .accept line => do return (← accept s line).next
  | .flush => return s.flush.1
  | .addReceiver => return s.addReceiver

def streamRun (s : Stream) (steps : List Stream.Step) : Checked Stream :=
  steps.foldlM streamAfter s

theorem streamAfter_eq_ok {s : Stream} (hs : s.reassembler.IsPartial) (step : Stream.Step) :
    streamAfter s step = .ok (s.after step) := by
  cases step with
  | accept line =>
    rw [streamAfter, accept_eq_ok hs]
    rfl
  | flush => rfl
  | addReceiver => rfl

theorem isPartial_after {s : Stream} (hs : s.reassembler.IsPartial) (step : Stream.Step) :
    (s.after step).reassembler.IsPartial := by
  cases step with
  | accept line =>
    change (s.accept line).next.reassembler.IsPartial
    cases hread : (Sentence.parse s.mode line).result with
    | error r =>
      rw [Stream.accept_of_refused hread]
      exact hs
    | ok sentence =>
      have hnext := Stream.reassembler_acceptSentence s.withLine sentence
      rw [Stream.accept_of_read hread, hnext]
      exact Reassembler.isPartial_push hs sentence
  | flush => exact Reassembler.isPartial_of_buffer_eq_nil rfl
  | addReceiver => exact hs

/-- A checked run goes through the states of the plain one, and the last of them again holds
a part of one sequence. -/
theorem streamRun_eq_ok {s : Stream} (hs : s.reassembler.IsPartial) (steps : List Stream.Step) :
    streamRun s steps = .ok (s.run steps) ∧ (s.run steps).reassembler.IsPartial := by
  induction steps generalizing s with
  | nil => exact ⟨rfl, hs⟩
  | cons step steps ih =>
    rw [streamRun, List.foldlM_cons, streamAfter_eq_ok hs, ok_bind]
    exact ih (isPartial_after hs step)

/-- No run of a stream leads to a fault, whatever its lines hold, nor does any run of a
reassembler, whatever sentences it is given: checked, each of them does and answers what it
does and answers unchecked. Every view has bytes enough for its bits. -/
theorem runs_without_fault :
    (∀ (source : String) (mode : ChecksumMode) (steps : List Stream.Step) (line : String),
      (do accept (← streamRun (Stream.new source mode) steps) line)
        = .ok (((Stream.new source mode).run steps).accept line)) ∧
    (∀ (steps : List Reassembler.Step) (sentence : Sentence),
      (do push (← reassemblerRun Reassembler.new steps) sentence)
        = .ok ((Reassembler.new.run steps).push sentence)) ∧
    ∀ v : BitView, v.len ≤ 8 * v.bytes.size := by
  have hnew : Reassembler.new.IsPartial := Reassembler.isPartial_of_buffer_eq_nil rfl
  refine ⟨?_, ?_, fun v => v.len_le⟩
  · intro source mode steps line
    obtain ⟨hrun, hpartial⟩ := streamRun_eq_ok (s := Stream.new source mode) hnew steps
    rw [hrun, ok_bind, accept_eq_ok hpartial]
  · intro steps sentence
    rw [reassemblerRun_eq_ok hnew, ok_bind, push_eq_ok (Reassembler.isPartial_run_new steps)]

end VesselTraffic.Checked
