import Mathlib.Tactic.Common
import VesselTraffic.Stream

/-!
# Feeding a stream

What a stream makes of one line, in the three cases of the reassembler's answer, and
of the lines of a whole feed.
-/
namespace VesselTraffic.Stream

/-! ## One line -/

/-- The stream as it is after `n` more lines that were refused. -/
def afterRefused (s : Stream) (n : Nat) : Stream :=
  { s with counts := { s.counts with
      lines := s.counts.lines + n
      rejected := s.counts.rejected + n } }

theorem afterRefused_afterRefused (s : Stream) (n m : Nat) :
    (s.afterRefused n).afterRefused m = s.afterRefused (n + m) := by
  simp only [afterRefused, Nat.add_assoc]

theorem accept_of_refused {s : Stream} {line : String} {r : Refusal}
    (h : (Sentence.parse s.mode line).result = .error r) :
    s.accept line = ⟨s.afterRefused 1,
      (Sentence.parse s.mode line).notices ++ [.sentenceRejected s.source r], .error r, []⟩ := by
  simp only [accept, h]
  rfl

/-- The stream once a line is counted. -/
def withLine (s : Stream) : Stream := { s with counts.lines := s.counts.lines + 1 }

theorem accept_of_read {s : Stream} {line : String} {sentence : Sentence}
    (h : (Sentence.parse s.mode line).result = .ok sentence) :
    s.accept line =
      { s.withLine.acceptSentence sentence with
        notices := (Sentence.parse s.mode line).notices
          ++ (s.withLine.acceptSentence sentence).notices } := by
  simp only [accept, h]
  rfl

/-- The stream once the reassembler has taken a sentence. -/
def withPushed (s : Stream) (sentence : Sentence) : Stream :=
  { s with reassembler := (s.reassembler.push sentence).next }

theorem acceptSentence_of_pending {s : Stream} {sentence : Sentence}
    (h : (s.reassembler.push sentence).completed = none) :
    s.acceptSentence sentence =
      ⟨s.withPushed sentence, (s.reassembler.push sentence).notices, .ok none, []⟩ := by
  simp only [acceptSentence, h]
  rfl

theorem acceptSentence_of_badPayload {s : Stream} {sentence : Sentence} {r : Refusal}
    (h : (s.reassembler.push sentence).completed = some (.error r)) :
    s.acceptSentence sentence =
      ⟨{ s.withPushed sentence with counts.failures := s.counts.failures + 1 },
        (s.reassembler.push sentence).notices ++ [.badPayload s.source r], .error r, []⟩ := by
  simp only [acceptSentence, h]
  rfl

theorem acceptSentence_of_frame {s : Stream} {sentence : Sentence} {f : Frame}
    (h : (s.reassembler.push sentence).completed = some (.ok f)) :
    s.acceptSentence sentence =
      { (s.withPushed sentence).acceptFrame f with
        notices := (s.reassembler.push sentence).notices
          ++ ((s.withPushed sentence).acceptFrame f).notices } := by
  simp only [acceptSentence, h]
  rfl

theorem mode_acceptFrame (s : Stream) (f : Frame) : (s.acceptFrame f).next.mode = s.mode := by
  unfold acceptFrame
  cases Message.decode f <;> rfl

theorem mode_acceptSentence (s : Stream) (sentence : Sentence) :
    (s.acceptSentence sentence).next.mode = s.mode := by
  rcases h : (s.reassembler.push sentence).completed with _ | r | f
  · rw [acceptSentence_of_pending h]
    rfl
  · rw [acceptSentence_of_badPayload h]
    rfl
  · rw [acceptSentence_of_frame h]
    exact mode_acceptFrame _ f

theorem mode_accept (s : Stream) (line : String) : (s.accept line).next.mode = s.mode := by
  cases h : (Sentence.parse s.mode line).result with
  | error r =>
    rw [accept_of_refused h]
    rfl
  | ok sentence =>
    rw [accept_of_read h]
    exact mode_acceptSentence s.withLine sentence

/-- What is made of the reassembler's answer: nothing yet, a message, or a refusal of the
payload or of the frame. -/
def resultOf : Option (Except Refusal Frame) → Except Refusal (Option Message)
  | none => .ok none
  | some frame => (frame.bind Message.decode).map some

theorem result_acceptFrame (s : Stream) (f : Frame) :
    (s.acceptFrame f).result = (Message.decode f).map some := by
  unfold acceptFrame
  cases Message.decode f <;> rfl

theorem result_acceptSentence (s : Stream) (sentence : Sentence) :
    (s.acceptSentence sentence).result = resultOf (s.reassembler.push sentence).completed := by
  rcases h : (s.reassembler.push sentence).completed with _ | r | f
  · rw [acceptSentence_of_pending h]
    rfl
  · rw [acceptSentence_of_badPayload h]
    rfl
  · rw [acceptSentence_of_frame h]
    exact result_acceptFrame _ f

theorem reassembler_acceptFrame (s : Stream) (f : Frame) :
    (s.acceptFrame f).next.reassembler = s.reassembler := by
  unfold acceptFrame
  cases Message.decode f <;> rfl

theorem reassembler_acceptSentence (s : Stream) (sentence : Sentence) :
    (s.acceptSentence sentence).next.reassembler = (s.reassembler.push sentence).next := by
  rcases h : (s.reassembler.push sentence).completed with _ | r | f
  · rw [acceptSentence_of_pending h]
    rfl
  · rw [acceptSentence_of_badPayload h]
    rfl
  · rw [acceptSentence_of_frame h]
    exact reassembler_acceptFrame _ f

/-! ## A whole feed -/

/-- What a stream makes of the lines of a feed, one after the other. -/
def answers (s : Stream) : List String → List Accepted
  | [] => []
  | line :: lines => s.accept line :: (s.accept line).next.answers lines

/-- The stream that a feed leaves. -/
def fed (s : Stream) (lines : List String) : Stream :=
  lines.foldl (fun s line => (s.accept line).next) s

@[simp] theorem answers_cons (s : Stream) (line : String) (lines : List String) :
    s.answers (line :: lines) = s.accept line :: (s.accept line).next.answers lines := rfl

@[simp] theorem fed_cons (s : Stream) (line : String) (lines : List String) :
    s.fed (line :: lines) = (s.accept line).next.fed lines := rfl

theorem answers_append (s : Stream) (lines lines' : List String) :
    s.answers (lines ++ lines') = s.answers lines ++ (s.fed lines).answers lines' := by
  induction lines generalizing s with
  | nil => rfl
  | cons line lines ih => rw [List.cons_append, answers_cons, ih, answers_cons, fed_cons, List.cons_append]

theorem answers_concat (s : Stream) (lines : List String) (line : String) :
    s.answers (lines ++ [line]) = s.answers lines ++ [(s.fed lines).accept line] :=
  answers_append s lines [line]

end VesselTraffic.Stream
