import Mathlib.Tactic.Common
import VesselTraffic.Proofs.Feeds

/-!
# Lines that are refused

A line whose sentence is refused leaves no trace in a stream but in two counts of
lines. So lines of this kind may stand anywhere in a feed, also between the fragments
of one message: every other line is answered as if they were not there.
-/
namespace VesselTraffic.Stream

/-! ## One line more -/

theorem acceptFrame_afterRefused (s : Stream) (n : Nat) (f : Frame) :
    (s.afterRefused n).acceptFrame f =
      { s.acceptFrame f with next := (s.acceptFrame f).next.afterRefused n } := by
  unfold acceptFrame
  cases Message.decode f <;> rfl

theorem acceptSentence_afterRefused (s : Stream) (n : Nat) (sentence : Sentence) :
    (s.afterRefused n).acceptSentence sentence =
      { s.acceptSentence sentence with
        next := (s.acceptSentence sentence).next.afterRefused n } := by
  have hpush : (s.afterRefused n).reassembler = s.reassembler := rfl
  rcases h : (s.reassembler.push sentence).completed with _ | r | f
  · rw [acceptSentence_of_pending h, acceptSentence_of_pending (hpush ▸ h)]
    rfl
  · rw [acceptSentence_of_badPayload h, acceptSentence_of_badPayload (hpush ▸ h)]
    rfl
  · have hwith : (s.afterRefused n).withPushed sentence = (s.withPushed sentence).afterRefused n := rfl
    rw [acceptSentence_of_frame h, acceptSentence_of_frame (hpush ▸ h), hwith,
      acceptFrame_afterRefused]
    rfl

theorem accept_afterRefused (s : Stream) (n : Nat) (line : String) :
    (s.afterRefused n).accept line =
      { s.accept line with next := (s.accept line).next.afterRefused n } := by
  cases h : (Sentence.parse s.mode line).result with
  | error r =>
    have h' : (Sentence.parse (s.afterRefused n).mode line).result = .error r := h
    rw [accept_of_refused h, accept_of_refused h', afterRefused_afterRefused,
      afterRefused_afterRefused, Nat.add_comm]
    rfl
  | ok sentence =>
    have h' : (Sentence.parse (s.afterRefused n).mode line).result = .ok sentence := h
    have hline : (s.afterRefused n).withLine = s.withLine.afterRefused n := by
      simp only [afterRefused, withLine, Nat.add_right_comm]
    rw [accept_of_read h, accept_of_read h', hline, acceptSentence_afterRefused]
    rfl

/-! ## Lines put in between -/

theorem answers_afterRefused (s : Stream) (n : Nat) (lines : List String) :
    (s.afterRefused n).answers lines =
      (s.answers lines).map fun a => { a with next := a.next.afterRefused n } := by
  induction lines generalizing s with
  | nil => rfl
  | cons line lines ih => rw [answers_cons, accept_afterRefused, ih, answers_cons, List.map_cons]

theorem fed_afterRefused (s : Stream) (n : Nat) (lines : List String) :
    (s.afterRefused n).fed lines = (s.fed lines).afterRefused n := by
  induction lines generalizing s with
  | nil => rfl
  | cons line lines ih => rw [fed_cons, accept_afterRefused, ih, fed_cons]

/-- What is seen of an answer: the result, what receivers are handed, and the notices. -/
def Accepted.seen (a : Accepted) : Except Refusal (Option Message) × List Delivery × List Notice :=
  (a.result, a.deliveries, a.notices)

/-- A line of a feed, or one put in between. -/
inductive FeedLine
  | own (line : String)
  | inserted (line : String)

namespace FeedLine

def text : FeedLine → String
  | own line | inserted line => line

def isOwn : FeedLine → Bool
  | own _ => true
  | inserted _ => false

end FeedLine

/-- The feed without the lines put in between. -/
def ownLines (feed : List FeedLine) : List String := (feed.filter FeedLine.isOwn).map FeedLine.text

/-- The answers to the lines of the feed proper. -/
def ownAnswers (s : Stream) (feed : List FeedLine) : List Accepted :=
  ((feed.zip (s.answers (feed.map FeedLine.text))).filter fun p => p.1.isOwn).map Prod.snd

/-- All lines put into a feed are refused. -/
def InsertedRefused (mode : ChecksumMode) (feed : List FeedLine) : Prop :=
  ∀ line, .inserted line ∈ feed → ∃ r, (Sentence.parse mode line).result = .error r

theorem InsertedRefused.tail {mode : ChecksumMode} {line : FeedLine} {feed : List FeedLine}
    (h : InsertedRefused mode (line :: feed)) : InsertedRefused mode feed :=
  fun l hl => h l (List.mem_cons_of_mem line hl)

theorem accept_inserted {s : Stream} {line : String} {feed : List FeedLine}
    (h : InsertedRefused s.mode (.inserted line :: feed)) :
    (s.accept line).next = s.afterRefused 1 ∧ (s.accept line).deliveries = [] := by
  obtain ⟨r, hr⟩ := h line (by simp)
  rw [accept_of_refused hr]
  exact ⟨rfl, rfl⟩

theorem seen_ownAnswers (s : Stream) (feed : List FeedLine) (h : InsertedRefused s.mode feed) :
    (s.ownAnswers feed).map Accepted.seen = (s.answers (ownLines feed)).map Accepted.seen := by
  induction feed generalizing s with
  | nil => rfl
  | cons line feed ih =>
    cases line with
    | own line =>
      have htail := ih (s.accept line).next (mode_accept s line ▸ h.tail)
      exact congrArg ((s.accept line).seen :: ·) htail
    | inserted line =>
      change ((s.accept line).next.ownAnswers feed).map Accepted.seen = _
      rw [(accept_inserted h).1, ih (s.afterRefused 1) h.tail, answers_afterRefused, List.map_map]
      rfl

/-- What is read off an answer, and never off a refusal, is the same with lines put in
between. -/
theorem flatMap_answers {α : Type} (read : Accepted → List α)
    (hnext : ∀ a n, read { a with next := a.next.afterRefused n } = read a)
    (hrefused : ∀ a r, a.result = .error r → a.deliveries = [] → read a = []) (s : Stream)
    (feed : List FeedLine) (h : InsertedRefused s.mode feed) :
    (s.answers (feed.map FeedLine.text)).flatMap read =
      (s.answers (ownLines feed)).flatMap read := by
  induction feed generalizing s with
  | nil => rfl
  | cons line feed ih =>
    cases line with
    | own line =>
      have htail := ih (s.accept line).next (mode_accept s line ▸ h.tail)
      exact congrArg (read (s.accept line) ++ ·) htail
    | inserted line =>
      obtain ⟨r, hr⟩ := h line (by simp)
      have hnone : read (s.accept line) = [] :=
        hrefused _ r (by rw [accept_of_refused hr]) (accept_inserted h).2
      change read (s.accept line)
        ++ ((s.accept line).next.answers (feed.map FeedLine.text)).flatMap read = _
      rw [hnone, List.nil_append, (accept_inserted h).1, ih (s.afterRefused 1) h.tail,
        answers_afterRefused, List.flatMap_map]
      simp only [hnext]
      rfl

theorem deliveries_answers (s : Stream) (feed : List FeedLine) (h : InsertedRefused s.mode feed) :
    (s.answers (feed.map FeedLine.text)).flatMap Accepted.deliveries =
      (s.answers (ownLines feed)).flatMap Accepted.deliveries :=
  flatMap_answers Accepted.deliveries (fun _ _ => rfl) (fun _ _ _ h => h) s feed h

theorem fed_text (s : Stream) (feed : List FeedLine) (h : InsertedRefused s.mode feed) :
    s.fed (feed.map FeedLine.text) =
      (s.fed (ownLines feed)).afterRefused (feed.countP fun line => !line.isOwn) := by
  induction feed generalizing s with
  | nil => rfl
  | cons line feed ih =>
    cases line with
    | own line => exact ih (s.accept line).next (mode_accept s line ▸ h.tail)
    | inserted line =>
      change (s.accept line).next.fed (feed.map FeedLine.text) = _
      rw [(accept_inserted h).1, ih (s.afterRefused 1) h.tail, fed_afterRefused,
        afterRefused_afterRefused, Nat.add_comm, List.countP_cons_of_pos rfl]
      rfl

/-- Refused lines put anywhere into a feed change no answer to another line and nothing
that receivers are handed. The stream they leave differs in the two counts of lines
alone, and there by their number. -/
theorem refused_lines_invisible (s : Stream) (feed : List FeedLine)
    (h : InsertedRefused s.mode feed) :
    (s.ownAnswers feed).map Accepted.seen = (s.answers (ownLines feed)).map Accepted.seen ∧
    (s.answers (feed.map FeedLine.text)).flatMap Accepted.deliveries =
      (s.answers (ownLines feed)).flatMap Accepted.deliveries ∧
    s.fed (feed.map FeedLine.text) =
      (s.fed (ownLines feed)).afterRefused (feed.countP fun line => !line.isOwn) :=
  ⟨seen_ownAnswers s feed h, deliveries_answers s feed h, fed_text s feed h⟩

/-- Noise between the two fragments of a message. -/
theorem noise_between_fragments_invisible :
    let s := (new "rx" .strict).addReceiver
    let feed : List FeedLine :=
      [.own "!AIVDM,2,1,3,B,55P5TL01VIaAL@7WKO@mBplU@<PDhh000000001S;AJ::4A80?4i@E53,0*3E",
       .inserted "!AIVDM,2,2,3,B,1@0000000000000,2*54", .inserted "",
       .own "!AIVDM,2,2,3,B,1@0000000000000,2*55"]
    InsertedRefused s.mode feed ∧
    (s.ownAnswers feed).map Accepted.seen = (s.answers (ownLines feed)).map Accepted.seen ∧
    (s.answers (feed.map FeedLine.text)).flatMap Accepted.deliveries =
      (s.answers (ownLines feed)).flatMap Accepted.deliveries ∧
    s.fed (feed.map FeedLine.text) = (s.fed (ownLines feed)).afterRefused 2 := by
  intro s feed
  have h : InsertedRefused s.mode feed := by
    intro line hline
    simp only [feed, List.mem_cons, FeedLine.inserted.injEq, List.not_mem_nil, reduceCtorEq,
      false_or, or_false] at hline
    rcases hline with rfl | rfl
    · exact ⟨.checksumMismatch 0x54 0x55, by decide +kernel⟩
    · exact ⟨.malformedSentence .missingMarker "", by decide +kernel⟩
  exact ⟨h, refused_lines_invisible s feed h⟩

end VesselTraffic.Stream
