import Mathlib.Tactic.Common
import VesselTraffic.Proofs.Accounting

/-!
# What receivers are handed

A message goes to every receiver once, in the order in which they were registered. The
channel and the tag block that go with it are the first ones of the sentences that made
up the message, and of no other sentence.
-/
namespace VesselTraffic

/-- A frame carries the first channel and the first tag block of its sentences. -/
theorem Frame.told_of_ofSentences {fragments : List Sentence} {f : Frame}
    (h : Frame.ofSentences fragments = .ok f) :
    f.channel = fragments.findSome? Sentence.channel ∧
      f.tagBlock = fragments.findSome? Sentence.tagBlock := by
  cases fragments using List.reverseRecOn with
  | nil => contradiction
  | append_singleton init last =>
    rw [Frame.eq_joined_of_ofSentences h]
    exact ⟨rfl, rfl⟩

namespace Reassembler

variable {steps : List Step} {s : Sentence} {fragments fragments' : List Sentence}

/-- A push finishes one message at most. -/
theorem Finishes.unique (h : Finishes steps s fragments) (h' : Finishes steps s fragments') :
    fragments = fragments' := by
  rcases (finishes_iff steps s fragments).mp h with ⟨hone, rfl⟩ | ⟨hcount, -, -, rfl⟩ <;>
    rcases (finishes_iff steps s fragments').mp h' with ⟨hone', rfl⟩ | ⟨hcount', -, -, rfl⟩
  · rfl
  · exact absurd hone hcount'
  · exact absurd hone' hcount
  · rfl

theorem exists_finishes_of_completed {frame : Except Refusal Frame}
    (h : ((new.run steps).push s).completed = some frame) :
    ∃ fragments, Finishes steps s fragments ∧ Frame.ofSentences fragments = frame := by
  have hs := pushed_push (isPartial_run_new steps) s
  generalize (new.run steps).push s = p at hs h
  cases hs with
  | single hcount => exact ⟨[s], .inl ⟨hcount, rfl⟩, Option.some.inj h⟩
  | extended => contradiction
  | completed horder hcount hlast =>
    exact ⟨_, (finishes_iff steps s _).mpr (.inr ⟨hcount, hlast, horder, rfl⟩), Option.some.inj h⟩
  | broken => contradiction

end Reassembler

namespace Stream

/-! ## One line -/

/-- Whether a message comes out, and what receivers are then handed. -/
theorem accept_delivers (s : Stream) (line : String) :
    ((∀ m, (s.accept line).result ≠ .ok (some m)) ∧ (s.accept line).deliveries = []) ∨
    ∃ sentence f m, (Sentence.parse s.mode line).result = .ok sentence ∧
      (s.reassembler.push sentence).completed = some (.ok f) ∧ Message.decode f = .ok m ∧
      (s.accept line).result = .ok (some m) ∧ (s.accept line).deliveries = s.deliver f m := by
  cases hread : (Sentence.parse s.mode line).result with
  | error r =>
    rw [accept_of_refused hread]
    exact .inl ⟨by simp, rfl⟩
  | ok sentence =>
    rw [accept_of_read hread]
    rcases hpush : (s.reassembler.push sentence).completed with _ | r | f
    · rw [acceptSentence_of_pending (s := s.withLine) hpush]
      exact .inl ⟨by simp, rfl⟩
    · rw [acceptSentence_of_badPayload (s := s.withLine) hpush]
      exact .inl ⟨by simp, rfl⟩
    · rw [acceptSentence_of_frame (s := s.withLine) hpush]
      cases hdecode : Message.decode f with
      | error r =>
        simp only [acceptFrame, hdecode]
        exact .inl ⟨by simp, trivial⟩
      | ok m =>
        simp only [acceptFrame, hdecode]
        exact .inr ⟨sentence, f, m, rfl, hpush, hdecode, rfl, rfl⟩

theorem setup_acceptFrame (s : Stream) (f : Frame) :
    (s.acceptFrame f).next.source = s.source ∧ (s.acceptFrame f).next.receivers = s.receivers := by
  unfold acceptFrame
  cases Message.decode f <;> exact ⟨rfl, rfl⟩

/-- No line changes the name of the source or the receivers. -/
theorem setup_accept (s : Stream) (line : String) :
    (s.accept line).next.source = s.source ∧ (s.accept line).next.receivers = s.receivers := by
  cases hread : (Sentence.parse s.mode line).result with
  | error r =>
    rw [accept_of_refused hread]
    exact ⟨rfl, rfl⟩
  | ok sentence =>
    rw [accept_of_read hread]
    rcases hpush : (s.reassembler.push sentence).completed with _ | r | f
    · rw [acceptSentence_of_pending (s := s.withLine) hpush]
      exact ⟨rfl, rfl⟩
    · rw [acceptSentence_of_badPayload (s := s.withLine) hpush]
      exact ⟨rfl, rfl⟩
    · rw [acceptSentence_of_frame (s := s.withLine) hpush]
      exact setup_acceptFrame (s.withLine.withPushed sentence) f

/-! ## A whole run -/

namespace Step

/-- What a step does with the reassembler: a line is pushed if its sentence is read. -/
def onReassembler (mode : ChecksumMode) : Step → Option Reassembler.Step
  | accept line => (Sentence.parse mode line).result.toOption.map .push
  | flush => some .flush
  | addReceiver => none

def isAddReceiver : Step → Bool
  | addReceiver => true
  | _ => false

end Step

/-- The pushes and flushes of the reassembler in a run. -/
def reassembly (mode : ChecksumMode) (steps : List Step) : List Reassembler.Step :=
  steps.filterMap (Step.onReassembler mode)

theorem mode_run (s : Stream) (steps : List Step) : (s.run steps).mode = s.mode := by
  induction steps generalizing s with
  | nil => rfl
  | cons step steps ih =>
    cases step with
    | accept line => exact (ih (s.accept line).next).trans (mode_accept s line)
    | flush => exact ih s.flush.1
    | addReceiver => exact ih s.addReceiver

theorem source_run (s : Stream) (steps : List Step) : (s.run steps).source = s.source := by
  induction steps generalizing s with
  | nil => rfl
  | cons step steps ih =>
    cases step with
    | accept line => exact (ih (s.accept line).next).trans (setup_accept s line).1
    | flush => exact ih s.flush.1
    | addReceiver => exact ih s.addReceiver

/-- A stream has as many receivers as were registered. -/
theorem receivers_run (s : Stream) (steps : List Step) :
    (s.run steps).receivers = s.receivers + steps.countP Step.isAddReceiver := by
  induction steps generalizing s with
  | nil => rfl
  | cons step steps ih =>
    cases step with
    | accept line =>
      have htail := ih (s.accept line).next
      rw [(setup_accept s line).2] at htail
      rw [List.countP_cons_of_neg (by simp [Step.isAddReceiver])]
      exact htail
    | flush =>
      rw [List.countP_cons_of_neg (by simp [Step.isAddReceiver])]
      exact ih s.flush.1
    | addReceiver =>
      have htail := ih s.addReceiver
      rw [List.countP_cons_of_pos rfl, Nat.add_comm _ 1, ← Nat.add_assoc]
      exact htail

/-- The reassembler of a stream goes through the pushes and flushes of the run. -/
theorem reassembler_run (s : Stream) (steps : List Step) :
    (s.run steps).reassembler = s.reassembler.run (reassembly s.mode steps) := by
  induction steps generalizing s with
  | nil => rfl
  | cons step steps ih =>
    cases step with
    | accept line =>
      have htail := ih (s.accept line).next
      rw [mode_accept] at htail
      change ((s.accept line).next.run steps).reassembler = _
      rw [htail]
      cases hread : (Sentence.parse s.mode line).result with
      | error r =>
        have hnone : Step.onReassembler s.mode (.accept line) = none := by
          simp [Step.onReassembler, hread, Except.toOption]
        rw [reassembly, reassembly, List.filterMap_cons_none hnone, accept_of_refused hread]
        rfl
      | ok sentence =>
        have hsome : Step.onReassembler s.mode (.accept line) = some (.push sentence) := by
          simp [Step.onReassembler, hread, Except.toOption]
        have hnext : (s.accept line).next.reassembler = (s.reassembler.push sentence).next := by
          rw [accept_of_read hread]
          exact reassembler_acceptSentence s.withLine sentence
        rw [reassembly, reassembly, List.filterMap_cons_some hsome, hnext]
        rfl
    | flush => exact ih s.flush.1
    | addReceiver => exact ih s.addReceiver

/-- After any run, a line that gives a message finishes the fragments of it, and hands the
message to every receiver registered so far, once each and in their order. With it go the
name of the source, and the first tag block and the first channel of just these
fragments. Any other line hands nothing to anyone. -/
theorem deliveries_after_run (source : String) (mode : ChecksumMode) (steps : List Step)
    (line : String) :
    let accepted := ((new source mode).run steps).accept line
    (∀ m, accepted.result = .ok (some m) →
      ∃ sentence, (Sentence.parse mode line).result = .ok sentence ∧
        (∃ fragments, Reassembler.Finishes (reassembly mode steps) sentence fragments) ∧
        ∀ fragments, Reassembler.Finishes (reassembly mode steps) sentence fragments →
          (Frame.ofSentences fragments).bind Message.decode = .ok m ∧
          accepted.deliveries = (List.range (steps.countP Step.isAddReceiver)).map fun i =>
            { receiver := i
              metadata := {
                source := source
                tagBlock := fragments.findSome? Sentence.tagBlock
                channel := fragments.findSome? Sentence.channel }
              message := m }) ∧
    ((∀ m, accepted.result ≠ .ok (some m)) → accepted.deliveries = []) := by
  intro accepted
  have hmode : ((new source mode).run steps).mode = mode := mode_run (new source mode) steps
  have hsource : ((new source mode).run steps).source = source := source_run (new source mode) steps
  have hreceivers : ((new source mode).run steps).receivers = steps.countP Step.isAddReceiver := by
    rw [receivers_run, new, Nat.zero_add]
  have hreassembler : ((new source mode).run steps).reassembler =
      Reassembler.new.run (reassembly mode steps) := reassembler_run (new source mode) steps
  rcases accept_delivers ((new source mode).run steps) line with
    ⟨hnone, hsilent⟩ | ⟨sentence, f, m, hread, hpush, hdecode, hresult, hdeliveries⟩
  · exact ⟨fun m hm => absurd hm (hnone m), fun _ => hsilent⟩
  · refine ⟨?_, fun hnone => absurd hresult (hnone m)⟩
    intro m' hm'
    obtain rfl : m = m' := Option.some.inj (Except.ok.inj (hresult.symm.trans hm'))
    rw [hmode] at hread
    rw [hreassembler] at hpush
    obtain ⟨fragments, hfinishes, hframe⟩ := Reassembler.exists_finishes_of_completed hpush
    refine ⟨sentence, hread, ⟨fragments, hfinishes⟩, ?_⟩
    intro fragments' hfinishes'
    obtain rfl := hfinishes.unique hfinishes'
    obtain ⟨hchannel, htagBlock⟩ := Frame.told_of_ofSentences hframe
    refine ⟨by rw [hframe]; exact hdecode, ?_⟩
    rw [hdeliveries, deliver, metadata, hsource, hreceivers, hchannel, htagBlock]

end Stream
end VesselTraffic
