import Mathlib.Tactic.Common
import VesselTraffic.Proofs.Feeds
import VesselTraffic.Proofs.Reassembly

/-!
# The counts of a stream

After any run the counts of a stream tell how the lines of the run were answered. They
add up: every line is refused, failed, decoded or pending, and a pending one is held or
makes the reassembler give up.
-/
namespace VesselTraffic.Stream

/-! ## Runs -/

/-- What is done with a stream. -/
inductive Step
  | accept (line : String)
  | flush
  | addReceiver

def after (s : Stream) : Step → Stream
  | .accept line => (s.accept line).next
  | .flush => s.flush.1
  | .addReceiver => s.addReceiver

def run (s : Stream) (steps : List Step) : Stream := steps.foldl after s

/-- A line with the stream that takes it. -/
structure Call where
  before : Stream
  line : String

/-- The lines that a run takes, each with the stream as it is then. -/
def calls (s : Stream) : List Step → List Call
  | [] => []
  | .accept line :: steps => ⟨s, line⟩ :: (s.accept line).next.calls steps
  | .flush :: steps => s.flush.1.calls steps
  | .addReceiver :: steps => s.addReceiver.calls steps

namespace Call

def answer (c : Call) : Accepted := c.before.accept c.line

def sentence (c : Call) : Except Refusal Sentence := (Sentence.parse c.before.mode c.line).result

/-- The sentence of the line is refused. -/
def isRefused (c : Call) : Bool := c.sentence matches .error _

/-- The line is answered with a refusal. -/
def isFailed (c : Call) : Bool := c.answer.result matches .error _

/-- The line is answered with no message yet. -/
def isPending (c : Call) : Bool := c.answer.result matches .ok none

/-- The line is answered with a message. -/
def isDecoded (c : Call) : Bool := c.answer.result matches .ok (some _)

/-- The line completes a frame that does not decode. -/
def isUndecodable (c : Call) : Bool :=
  match c.sentence with
  | .error _ => false
  | .ok sentence =>
    match (c.before.reassembler.push sentence).completed with
    | some (.ok f) => (Message.decode f matches .error _)
    | _ => false

/-- The line completes nothing, and its sentence is held besides those before it. -/
def isHeld (c : Call) : Bool :=
  match c.sentence with
  | .error _ => false
  | .ok sentence =>
    let push := c.before.reassembler.push sentence
    push.completed.isNone && push.next.buffer == c.before.reassembler.buffer ++ [sentence]

variable {c : Call} {sentence : Sentence}

theorem result_answer_of_read (hread : c.sentence = .ok sentence) :
    c.answer.result = resultOf (c.before.reassembler.push sentence).completed := by
  rw [answer, accept_of_read hread]
  exact result_acceptSentence c.before.withLine sentence

theorem isFailed_of_isRefused (h : c.isRefused) : c.isFailed := by
  cases hread : c.sentence with
  | ok sentence => simp [isRefused, hread] at h
  | error r => rw [isFailed, answer, accept_of_refused hread]

theorem isFailed_of_isUndecodable (h : c.isUndecodable) : c.isFailed := by
  cases hread : c.sentence with
  | error r => simp [isUndecodable, hread] at h
  | ok sentence =>
    rcases hpush : (c.before.reassembler.push sentence).completed with _ | r | f
    · simp [isUndecodable, hread, hpush] at h
    · simp [isUndecodable, hread, hpush] at h
    · cases hdecode : Message.decode f with
      | ok m => simp [isUndecodable, hread, hpush, hdecode] at h
      | error r =>
        have hresult : resultOf (some (.ok f)) = .error r := by
          rw [resultOf, Except.bind, hdecode]
          rfl
        rw [isFailed, result_answer_of_read hread, hpush, hresult]

theorem isPending_of_isHeld (h : c.isHeld) : c.isPending := by
  cases hread : c.sentence with
  | error r => simp [isHeld, hread] at h
  | ok sentence =>
    cases hpush : (c.before.reassembler.push sentence).completed with
    | some frame => simp [isHeld, hread, hpush] at h
    | none =>
      rw [isPending, result_answer_of_read hread, hpush]
      rfl

end Call

/-- Every line is answered in one of three ways. -/
theorem length_calls (calls : List Call) : calls.length =
    calls.countP Call.isFailed + calls.countP Call.isDecoded + calls.countP Call.isPending := by
  induction calls with
  | nil => rfl
  | cons c calls ih =>
    have hc : c.isFailed.toNat + c.isDecoded.toNat + c.isPending.toNat = 1 := by
      unfold Call.isFailed Call.isDecoded Call.isPending
      rcases c.answer.result with r | _ | m <;> rfl
    have hcount : ∀ p : Call → Bool, (c :: calls).countP p = calls.countP p + (p c).toNat := by
      intro p
      cases hp : p c <;> simp [hp]
    rw [List.length_cons, hcount, hcount, hcount, ih]
    omega

/-! ## What the counts record -/

/-- The counts of one stream are those of another with some lines more. -/
structure Booked (s s' : Stream) (calls : List Call) : Prop where
  lines : s'.counts.lines = s.counts.lines + calls.length
  rejected : s'.counts.rejected = s.counts.rejected + calls.countP Call.isRefused
  failed : s'.counts.rejected + s'.counts.failures =
    s.counts.rejected + s.counts.failures + calls.countP Call.isFailed
  decoded : s'.counts.decoded = s.counts.decoded + calls.countP Call.isDecoded
  frames : s'.counts.frames =
    s.counts.frames + (calls.countP Call.isDecoded + calls.countP Call.isUndecodable)
  pending : s'.resets + calls.countP Call.isHeld = s.resets + calls.countP Call.isPending

namespace Booked

variable {s s' s'' : Stream} {calls calls' : List Call}

theorem of_eq (hcounts : s'.counts = s.counts) (hresets : s'.resets = s.resets) :
    Booked s s' [] := by
  constructor <;> simp [hcounts, hresets]

theorem trans (h : Booked s s' calls) (h' : Booked s' s'' calls') :
    Booked s s'' (calls ++ calls') where
  lines := by rw [h'.lines, h.lines, List.length_append]; omega
  rejected := by rw [h'.rejected, h.rejected, List.countP_append]; omega
  failed := by rw [h'.failed, h.failed, List.countP_append]; omega
  decoded := by rw [h'.decoded, h.decoded, List.countP_append]; omega
  frames := by rw [h'.frames, h.frames, List.countP_append, List.countP_append]; omega
  pending := by
    have := h.pending
    have := h'.pending
    rw [List.countP_append, List.countP_append]
    omega

end Booked

theorem booked_refused {s : Stream} {line : String} {r : Refusal}
    (hread : (Sentence.parse s.mode line).result = .error r) :
    Booked s (s.accept line).next [⟨s, line⟩] := by
  constructor <;>
    simp [Call.isRefused, Call.isFailed, Call.isDecoded, Call.isUndecodable, Call.isHeld,
      Call.isPending, Call.answer, Call.sentence, hread, accept_of_refused hread, afterRefused,
      resets, Nat.add_right_comm]

theorem booked_read {s : Stream} {line : String} {sentence : Sentence}
    (hread : (Sentence.parse s.mode line).result = .ok sentence) :
    Booked s (s.accept line).next [⟨s, line⟩] := by
  have hanswer := accept_of_read hread
  rcases Reassembler.push_cases s.reassembler sentence with
    ⟨hpush, hnext⟩ | ⟨hpush, hnext⟩ | ⟨⟨frame, hpush⟩, hnext⟩
  -- A sequence given up is counted by the reassembler, a fragment held by nobody.
  · rw [acceptSentence_of_pending (s := s.withLine) hpush] at hanswer
    constructor <;>
      simp [Call.isRefused, Call.isFailed, Call.isDecoded, Call.isUndecodable, Call.isHeld,
        Call.isPending, Call.answer, Call.sentence, hread, hanswer, hpush, hnext, withPushed,
        withLine, resets]
  · rw [acceptSentence_of_pending (s := s.withLine) hpush] at hanswer
    constructor <;>
      simp [Call.isRefused, Call.isFailed, Call.isDecoded, Call.isUndecodable, Call.isHeld,
        Call.isPending, Call.answer, Call.sentence, hread, hanswer, hpush, hnext, withPushed,
        withLine, resets]
  · rcases frame with r | f
    · rw [acceptSentence_of_badPayload (s := s.withLine) hpush] at hanswer
      constructor <;>
        simp [Call.isRefused, Call.isFailed, Call.isDecoded, Call.isUndecodable, Call.isHeld,
          Call.isPending, Call.answer, Call.sentence, hread, hanswer, hpush, hnext, withPushed,
          withLine, resets, Nat.add_assoc]
    · rw [acceptSentence_of_frame (s := s.withLine) hpush] at hanswer
      rcases hdecode : Message.decode f with r | m <;> constructor <;>
        simp [Call.isRefused, Call.isFailed, Call.isDecoded, Call.isUndecodable, Call.isHeld,
          Call.isPending, Call.answer, Call.sentence, hread, hanswer, hpush, hnext, withPushed,
          withLine, resets, acceptFrame, hdecode, Nat.add_assoc]

/-- One line is booked as it is answered. -/
theorem booked_accept (s : Stream) (line : String) : Booked s (s.accept line).next [⟨s, line⟩] := by
  cases hread : (Sentence.parse s.mode line).result with
  | error r => exact booked_refused hread
  | ok sentence => exact booked_read hread

theorem booked_flush (s : Stream) : Booked s s.flush.1 [] := .of_eq rfl rfl

theorem booked_addReceiver (s : Stream) : Booked s s.addReceiver [] := .of_eq rfl rfl

theorem booked_run (s : Stream) (steps : List Step) : Booked s (s.run steps) (s.calls steps) := by
  induction steps generalizing s with
  | nil => exact .of_eq rfl rfl
  | cons step steps ih =>
    cases step with
    | accept line => exact (booked_accept s line).trans (ih (s.accept line).next)
    | flush => exact (booked_flush s).trans (ih s.flush.1)
    | addReceiver => exact (booked_addReceiver s).trans (ih s.addReceiver)

/-- After any run on a new stream the counts say how its lines were answered: how many
sentences and how many lines in all were refused, how many messages were decoded and
frames put together. The lines that are still pending are those that made the reassembler
give up and those that it held. Giving up what is held changes no count. -/
theorem counts_after_run (source : String) (mode : ChecksumMode) (steps : List Step) :
    let s := (new source mode).run steps
    let calls := (new source mode).calls steps
    s.counts.lines = calls.length ∧
    s.counts.lines = s.counts.rejected + s.counts.failures + s.counts.decoded
      + calls.countP Call.isPending ∧
    s.counts.decoded = calls.countP Call.isDecoded ∧
    s.counts.rejected + s.counts.failures = calls.countP Call.isFailed ∧
    s.counts.rejected = calls.countP Call.isRefused ∧
    s.counts.frames = s.counts.decoded + calls.countP Call.isUndecodable ∧
    calls.countP Call.isPending = s.resets + calls.countP Call.isHeld ∧
    (∀ c ∈ calls, (c.isRefused → c.isFailed) ∧ (c.isUndecodable → c.isFailed) ∧
      (c.isHeld → c.isPending)) ∧
    s.flush.1.counts = s.counts ∧ s.flush.1.resets = s.resets := by
  intro s calls
  have h : Booked (new source mode) s calls := booked_run (new source mode) steps
  have hlength := length_calls calls
  have hzero : (new source mode).counts = {} := rfl
  have hresets : (new source mode).resets = 0 := rfl
  obtain ⟨hlines, hrejected, hfailed, hdecoded, hframes, hpending⟩ := h
  simp only [hzero, hresets, Nat.zero_add] at hlines hrejected hfailed hdecoded hframes hpending
  refine ⟨hlines, ?_, hdecoded, hfailed, hrejected, ?_, hpending.symm, ?_, rfl, rfl⟩
  · rw [hlines, hfailed, hdecoded, hlength]
  · rw [hframes, hdecoded]
  · intro c _
    exact ⟨Call.isFailed_of_isRefused, Call.isFailed_of_isUndecodable, Call.isPending_of_isHeld⟩

end VesselTraffic.Stream
