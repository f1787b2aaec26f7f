import Mathlib.Data.List.Basic
import Mathlib.Tactic.Common
import VesselTraffic.Proofs.RefusedLines
import VesselTraffic.Proofs.WrittenLine

/-!
# Strict and permissive streams

A line with the right checksums is read alike in both modes. So a strict stream makes of
a feed what a permissive one makes of the lines with the right checksums.
-/
namespace VesselTraffic

/-! ## One line -/

/-- What one outcome accepts, another accepts without a notice. -/
def Outcome.Carries {α : Type} (x y : Outcome α) : Prop := ∀ a, x.result = .ok a → y = ⟨[], .ok a⟩

namespace Outcome.Carries

variable {α β : Type}

theorem pure (a : α) : Carries (Pure.pure a) (Pure.pure a) := by
  intro b hb
  obtain rfl : a = b := Except.ok.inj hb
  rfl

theorem refuse (r : Refusal) (y : Outcome α) : Carries (.refuse r) y := by
  intro a ha
  contradiction

theorem ofExcept (e : Except Refusal α) : Carries (.ofExcept e) (.ofExcept e) := by
  intro a ha
  have he : e = .ok a := ha
  rw [he]
  rfl

theorem bind {x y : Outcome α} {f g : α → Outcome β} (h : x.Carries y)
    (hfg : ∀ a, (f a).Carries (g a)) : (x >>= f).Carries (y >>= g) := by
  intro b hb
  obtain ⟨notices, result⟩ := x
  cases result with
  | error r => exact absurd hb (by simp [Bind.bind, andThen])
  | ok a =>
    have hy : y = ⟨[], .ok a⟩ := h a rfl
    rw [hy, ok_bind]
    exact hfg a b hb

end Outcome.Carries

theorem Checksum.carries_verify (mode : ChecksumMode) (part : CheckedPart)
    (declared actual : UInt8) :
    (verify .strict part declared actual).Carries (verify mode part declared actual) := by
  unfold verify
  split_ifs
  · exact Outcome.Carries.pure true
  · exact Outcome.Carries.refuse _ _

theorem Sentence.carries_leadingTagBlock (mode : ChecksumMode) (malformed : SentenceFlaw → Refusal)
    (line : List Char) :
    (leadingTagBlock .strict malformed line).Carries (leadingTagBlock mode malformed line) := by
  unfold leadingTagBlock
  split
  · split
    · exact Outcome.Carries.refuse _ _
    · refine Outcome.Carries.bind ?_ fun _ => Outcome.Carries.pure _
      exact fun block h => TagBlock.parse_of_strict h mode
  · exact Outcome.Carries.pure _

/-- What the strict mode reads, every mode reads alike. -/
theorem Sentence.carries_parse (mode : ChecksumMode) (line : String) :
    (parse .strict line).Carries (parse mode line) := by
  unfold parse
  refine (carries_leadingTagBlock mode _ _).bind fun _ => ?_
  refine (Outcome.Carries.ofExcept _).bind fun _ => ?_
  refine (Outcome.Carries.ofExcept _).bind fun _ => ?_
  exact (Checksum.carries_verify mode _ _ _).bind fun _ => Outcome.Carries.pure _

namespace Stream

/-- The stream with another mode. -/
def inMode (s : Stream) (mode : ChecksumMode) : Stream := { s with mode := mode }

/-- Beyond the reading of a line nothing depends on the mode. -/
theorem acceptSentence_inMode (s : Stream) (mode : ChecksumMode) (sentence : Sentence) :
    (s.inMode mode).acceptSentence sentence =
      { s.acceptSentence sentence with next := (s.acceptSentence sentence).next.inMode mode } := by
  have hpush : (s.inMode mode).reassembler = s.reassembler := rfl
  rcases h : (s.reassembler.push sentence).completed with _ | r | f
  · rw [acceptSentence_of_pending h, acceptSentence_of_pending (hpush ▸ h)]
    rfl
  · rw [acceptSentence_of_badPayload h, acceptSentence_of_badPayload (hpush ▸ h)]
    rfl
  · rw [acceptSentence_of_frame h, acceptSentence_of_frame (hpush ▸ h)]
    unfold acceptFrame
    cases Message.decode f <;> rfl

theorem accept_inMode {line : String} {sentence : Sentence}
    (h : (Sentence.parse .strict line).result = .ok sentence) (s : Stream) (mode : ChecksumMode) :
    (s.inMode mode).accept line =
      { s.accept line with next := (s.accept line).next.inMode mode } := by
  have hread : Sentence.parse s.mode line = ⟨[], .ok sentence⟩ :=
    Sentence.carries_parse s.mode line sentence h
  have hread' : Sentence.parse (s.inMode mode).mode line = ⟨[], .ok sentence⟩ :=
    Sentence.carries_parse mode line sentence h
  have hline : (s.inMode mode).withLine = s.withLine.inMode mode := rfl
  rw [accept_of_read (congrArg Outcome.result hread),
    accept_of_read (congrArg Outcome.result hread'), hread, hread', hline, acceptSentence_inMode]

/-! ## A whole feed -/

/-- The checksums of the line are right, and all else that its sentence is checked for. -/
def isVerified (line : String) : Bool := (Sentence.parse .strict line).result matches .ok _

theorem exists_sentence_of_isVerified {line : String} (h : isVerified line) :
    ∃ sentence, (Sentence.parse .strict line).result = .ok sentence := by
  cases hread : (Sentence.parse .strict line).result with
  | error r => simp [isVerified, hread] at h
  | ok sentence => exact ⟨sentence, rfl⟩

theorem exists_refusal_of_not_isVerified {line : String} (h : ¬ isVerified line) :
    ∃ r, (Sentence.parse .strict line).result = .error r := by
  cases hread : (Sentence.parse .strict line).result with
  | error r => exact ⟨r, rfl⟩
  | ok sentence => simp [isVerified, hread] at h

/-- Of lines with the right checksums every mode makes the same. -/
theorem answers_inMode (s : Stream) (mode : ChecksumMode) (lines : List String)
    (h : ∀ line ∈ lines, isVerified line) :
    (s.inMode mode).answers lines =
      (s.answers lines).map fun a => { a with next := a.next.inMode mode } := by
  induction lines generalizing s with
  | nil => rfl
  | cons line lines ih =>
    obtain ⟨sentence, hread⟩ := exists_sentence_of_isVerified (h line (by simp))
    have htail := ih (s.accept line).next fun l hl => h l (List.mem_cons_of_mem line hl)
    rw [answers_cons, answers_cons, accept_inMode hread, List.map_cons, htail]

theorem fed_inMode (s : Stream) (mode : ChecksumMode) (lines : List String)
    (h : ∀ line ∈ lines, isVerified line) :
    (s.inMode mode).fed lines = (s.fed lines).inMode mode := by
  induction lines generalizing s with
  | nil => rfl
  | cons line lines ih =>
    obtain ⟨sentence, hread⟩ := exists_sentence_of_isVerified (h line (by simp))
    have htail := ih (s.accept line).next fun l hl => h l (List.mem_cons_of_mem line hl)
    rw [fed_cons, fed_cons, accept_inMode hread, htail]

/-- To a strict stream the lines with wrong checksums are put in between the others. -/
def marked (line : String) : FeedLine := if isVerified line then .own line else .inserted line

theorem text_marked (line : String) : (marked line).text = line := by
  unfold marked
  split_ifs <;> rfl

theorem isOwn_marked (line : String) : (marked line).isOwn = isVerified line := by
  unfold marked
  cases isVerified line <;> rfl

theorem map_text_marked (lines : List String) : (lines.map marked).map FeedLine.text = lines := by
  have htext : FeedLine.text ∘ marked = id := funext text_marked
  rw [List.map_map, htext, List.map_id]

theorem ownLines_marked (lines : List String) :
    ownLines (lines.map marked) = lines.filter isVerified := by
  have hown : FeedLine.isOwn ∘ marked = isVerified := funext isOwn_marked
  have htext : FeedLine.text ∘ marked = id := funext text_marked
  rw [ownLines, List.filter_map, hown, List.map_map, htext, List.map_id]

theorem insertedRefused_marked (lines : List String) :
    InsertedRefused .strict (lines.map marked) := by
  intro line hline
  obtain ⟨origin, -, horigin⟩ := List.mem_map.mp hline
  unfold marked at horigin
  split_ifs at horigin with hverified
  obtain rfl : origin = line := FeedLine.inserted.inj horigin
  exact exists_refusal_of_not_isVerified hverified

/-- The answers to the lines with the right checksums. -/
def verifiedAnswers (s : Stream) (lines : List String) : List Accepted :=
  ((lines.zip (s.answers lines)).filter fun p => isVerified p.1).map Prod.snd

theorem ownAnswers_marked (s : Stream) (lines : List String) :
    s.ownAnswers (lines.map marked) = s.verifiedAnswers lines := by
  rw [ownAnswers, map_text_marked, List.zip_map_left, List.filter_map, List.map_map,
    verifiedAnswers]
  have hown : ((fun p : FeedLine × Accepted => p.1.isOwn) ∘ Prod.map marked id) =
      fun p => isVerified p.1 := funext fun p => isOwn_marked p.1
  rw [hown]
  rfl

/-- The message of an answer, if it has one. -/
def Accepted.message? (a : Accepted) : Option Message :=
  match a.result with
  | .ok message => message
  | .error _ => none

theorem messages_marked (s : Stream) (hs : s.mode = .strict) (lines : List String) :
    (s.answers lines).filterMap Accepted.message? =
      (s.answers (lines.filter isVerified)).filterMap Accepted.message? := by
  have hrefused : ∀ (a : Accepted) (r : Refusal), a.result = .error r → a.deliveries = [] →
      a.message?.toList = [] := by
    intro a r hr _
    simp [Accepted.message?, hr]
  have h := flatMap_answers (fun a => a.message?.toList) (fun _ _ => rfl) hrefused s
    (lines.map marked) (hs ▸ insertedRefused_marked lines)
  rw [map_text_marked, ownLines_marked] at h
  rw [List.filterMap_eq_flatMap_toList, List.filterMap_eq_flatMap_toList, h]

/-- A strict stream makes of a feed what a permissive one, otherwise alike, makes of the
lines that the strict mode reads: the same of each of these lines, the same messages, and
the same calls of receivers. Of the streams that are left only the mode and the two counts
of lines differ. -/
theorem strict_as_permissive (s : Stream) (lines : List String) :
    let strict := s.inMode .strict
    let permissive := s.inMode .permissive
    let verified := lines.filter isVerified
    (strict.verifiedAnswers lines).map Accepted.seen =
      (permissive.answers verified).map Accepted.seen ∧
    (strict.answers lines).filterMap Accepted.message? =
      (permissive.answers verified).filterMap Accepted.message? ∧
    (strict.answers lines).flatMap Accepted.deliveries =
      (permissive.answers verified).flatMap Accepted.deliveries ∧
    (strict.fed lines).counts.frames = (permissive.fed verified).counts.frames ∧
    (strict.fed lines).counts.decoded = (permissive.fed verified).counts.decoded ∧
    (strict.fed lines).counts.failures = (permissive.fed verified).counts.failures ∧
    (strict.fed lines).resets = (permissive.fed verified).resets ∧
    strict.fed lines = ((permissive.fed verified).inMode .strict).afterRefused
      (lines.countP fun line => !isVerified line) := by
  intro strict permissive verified
  have hverified : ∀ line ∈ verified, isVerified line :=
    fun line hline => (List.mem_filter.mp hline).2
  have hinserted : InsertedRefused strict.mode (lines.map marked) := insertedRefused_marked lines
  have hanswers : permissive.answers verified =
      (strict.answers verified).map fun a => { a with next := a.next.inMode .permissive } :=
    answers_inMode strict .permissive verified hverified
  have hfed : permissive.fed verified = (strict.fed verified).inMode .permissive :=
    fed_inMode strict .permissive verified hverified
  have hleft : strict.fed lines = (strict.fed verified).afterRefused
      (lines.countP fun line => !isVerified line) := by
    have h := fed_text strict (lines.map marked) hinserted
    rw [map_text_marked, ownLines_marked, List.countP_map] at h
    have hown : (fun line : FeedLine => !line.isOwn) ∘ marked = fun line => !isVerified line :=
      funext fun line => congrArg (!·) (isOwn_marked line)
    rw [h, hown]
  have hmode : ((strict.fed verified).inMode .permissive).inMode .strict = strict.fed verified :=
    (fed_inMode strict .strict verified hverified).symm
  refine ⟨?_, ?_, ?_, ?_, ?_, ?_, ?_, ?_⟩
  · have h := seen_ownAnswers strict (lines.map marked) hinserted
    rw [ownAnswers_marked, ownLines_marked] at h
    rw [h, hanswers, List.map_map]
    rfl
  · rw [messages_marked strict rfl lines, hanswers, List.filterMap_map]
    rfl
  · have h := deliveries_answers strict (lines.map marked) hinserted
    rw [map_text_marked, ownLines_marked] at h
    rw [h, hanswers, List.flatMap_map]
  · rw [hleft, hfed]
    rfl
  · rw [hleft, hfed]
    rfl
  · rw [hleft, hfed]
    rfl
  · rw [hleft, hfed]
    rfl
  · rw [hleft, hfed, hmode]

end Stream
end VesselTraffic
