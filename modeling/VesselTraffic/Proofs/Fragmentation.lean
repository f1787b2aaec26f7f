import Mathlib.Data.List.Induction
import Mathlib.Tactic.Common
import VesselTraffic.Proofs.Dispatch
import VesselTraffic.Proofs.Feeds
import VesselTraffic.Proofs.Reassembly
import VesselTraffic.Proofs.WrittenLine

/-!
# Messages in one line and in several

However a payload is cut into pieces, a stream makes of the lines that carry them what
it makes of the one line that carries the whole: nothing until the last piece, and then
the same message or the same refusal.
-/
namespace VesselTraffic

/-- Whether and how a frame decodes depends on its bits alone. -/
theorem Message.decode_eq_decode_ofBits (f : Frame) :
    Message.decode f = Message.decode (Frame.ofBits f.bits) := by
  have hkinds : ∀ kind, decodeAs kind f = decodeAs kind (Frame.ofBits f.bits) := by
    intro kind
    cases kind <;> rfl
  have hkind : f.kind = (Frame.ofBits f.bits).kind := rfl
  rw [decode, decode, hkind, funext hkinds]

/-- So of some sentences the joined payload and the last fill are all that counts. -/
theorem Frame.decode_ofSentences (fragments : List Sentence) (last : Sentence) :
    (Frame.ofSentences (fragments ++ [last])).bind Message.decode =
      (Armor.decode (String.join ((fragments ++ [last]).map Sentence.payload)) last.fill).bind
        fun bits => Message.decode (Frame.ofBits bits) := by
  rw [Frame.ofSentences_concat]
  cases Armor.decode (String.join ((fragments ++ [last]).map Sentence.payload)) last.fill with
  | error r => rfl
  | ok bits => exact Message.decode_eq_decode_ofBits _

namespace Stream

variable {s : Stream} {count : UInt8} {sequence : Option UInt8}

theorem accept_text (s : Stream) (w : WrittenLine) :
    (s.accept w.text).result = resultOf (s.reassembler.push w.sentence).completed ∧
      (s.accept w.text).next.reassembler = (s.reassembler.push w.sentence).next := by
  have h : (Sentence.parse s.mode w.text).result = .ok w.sentence := by rw [w.parse_text]
  rw [accept_of_read h]
  exact ⟨result_acceptSentence s.withLine w.sentence, reassembler_acceptSentence s.withLine w.sentence⟩

/-- The reassembler of a stream sees the sentences of the lines pushed one by one. -/
theorem reassembler_fed (s : Stream) (lines : List WrittenLine) :
    (s.fed (lines.map WrittenLine.text)).reassembler =
      s.reassembler.run ((lines.map WrittenLine.sentence).map .push) := by
  induction lines generalizing s with
  | nil => rfl
  | cons w lines ih =>
    rw [List.map_cons, fed_cons, ih, (accept_text s w).2]
    rfl

theorem buffer_fed (hs : s.reassembler.buffer = []) {lines : List WrittenLine}
    (h : InOrder count sequence (lines.map WrittenLine.sentence))
    (hlt : lines.length < count.toNat) :
    (s.fed (lines.map WrittenLine.text)).reassembler.buffer = lines.map WrittenLine.sentence := by
  rw [reassembler_fed, Reassembler.run_push_inOrder hs _ h (by rwa [List.length_map])]

/-- Short of the end of their sequence, lines in order lead to nothing yet. -/
theorem results_inOrder (hs : s.reassembler.buffer = []) (lines : List WrittenLine)
    (h : InOrder count sequence (lines.map WrittenLine.sentence))
    (hlt : lines.length < count.toNat) :
    (s.answers (lines.map WrittenLine.text)).map Accepted.result =
      List.replicate lines.length (.ok none) := by
  induction lines using List.reverseRecOn with
  | nil => rfl
  | append_singleton lines w ih =>
    rw [List.map_append, List.map_singleton] at h
    rw [List.length_append, List.length_singleton] at hlt
    obtain ⟨hinit, -, rfl, rfl⟩ := InOrder.concat_iff.mp h
    have hheld := buffer_fed hs hinit (by omega)
    have hlast : ((s.fed (lines.map WrittenLine.text)).accept w.text).result = .ok none := by
      rw [(accept_text _ w).1, Reassembler.push_extends]
      · rfl
      · rwa [hheld]
      · rwa [hheld, List.length_map]
    rw [List.map_append, List.map_singleton, answers_concat, List.map_append, ih hinit (by omega),
      List.map_singleton, hlast, List.length_append, List.length_singleton, List.replicate_succ']

/-- The last line in order leads to the message of all of them. -/
theorem result_last (hs : s.reassembler.buffer = []) (lines : List WrittenLine) (w : WrittenLine)
    (h : InOrder count sequence (lines.map WrittenLine.sentence ++ [w.sentence]))
    (hlast : lines.length + 1 = count.toNat) (hne : lines ≠ []) :
    ((s.fed (lines.map WrittenLine.text)).accept w.text).result =
      ((Frame.ofSentences (lines.map WrittenLine.sentence ++ [w.sentence])).bind
        Message.decode).map some := by
  obtain ⟨hinit, -, rfl, rfl⟩ := InOrder.concat_iff.mp h
  have hheld := buffer_fed hs hinit (by omega)
  have hcount : w.sentence.fragmentCount ≠ 1 := by
    intro hone
    have hpos := List.length_pos_iff.mpr hne
    rw [hone] at hlast
    change lines.length + 1 = 1 at hlast
    omega
  rw [(accept_text _ w).1, Reassembler.push_completes _ hcount, hheld]
  · rfl
  · rwa [hheld, List.length_map]
  · rwa [hheld]

end Stream

/-- These lines carry the payload of another one in consecutive pieces, and the last of
them its fill. Pieces may be empty, and the fills of the others are anything. -/
structure Fragments (lines : List WrittenLine) (whole : WrittenLine) : Prop where
  two_le : 2 ≤ lines.length
  counts : ∀ w ∈ lines, w.body.count.value = lines.length
  indices : lines.map (fun w => w.body.index.value) = List.range' 1 lines.length
  sequences : ∃ sequence, ∀ w ∈ lines, w.body.sequence.map Numeral.value = sequence
  payload : lines.flatMap (fun w => w.body.payload) = whole.body.payload
  fill : ∀ w ∈ lines.getLast?, w.body.fill.value = whole.body.fill.value
  single : whole.body.count.value = 1

namespace Fragments

variable {lines : List WrittenLine} {whole : WrittenLine}

theorem inOrder (h : Fragments lines whole) : ∃ sequence,
    InOrder (UInt8.ofNat lines.length) sequence (lines.map WrittenLine.sentence) := by
  obtain ⟨sequence, hsequence⟩ := h.sequences
  refine ⟨sequence.map UInt8.ofNat, ?_, ?_, ?_⟩
  · rw [List.length_map, ← h.indices, List.map_map]
    exact List.map_congr_left fun w _ => w.body.index.toNat_byte
  · intro s hs
    obtain ⟨w, hw, rfl⟩ := List.mem_map.mp hs
    exact congrArg UInt8.ofNat (h.counts w hw)
  · intro s hs
    obtain ⟨w, hw, rfl⟩ := List.mem_map.mp hs
    rw [← hsequence w hw, Option.map_map]
    rfl

theorem length_lt (h : Fragments lines whole) : lines.length < 100 := by
  cases lines with
  | nil => decide
  | cons w rest =>
    rw [← h.counts w (by simp)]
    exact w.body.count.value_lt

theorem join_payload (h : Fragments lines whole) :
    String.join ((lines.map WrittenLine.sentence).map Sentence.payload) = whole.sentence.payload := by
  apply String.toList_injective
  rw [String.toList_join, List.flatMap_map, List.flatMap_map]
  simp only [WrittenLine.sentence, WrittenSentence.sentence, String.toList_ofList]
  exact h.payload

/-- The frame of the fragments decodes as that of the whole line does. -/
theorem decode_ofSentences (h : Fragments lines whole) :
    (Frame.ofSentences (lines.map WrittenLine.sentence)).bind Message.decode =
      (Frame.ofSentences [whole.sentence]).bind Message.decode := by
  have hne : lines ≠ [] := List.ne_nil_of_length_pos (by have := h.two_le; omega)
  have hsplit := List.dropLast_concat_getLast hne
  have hfill : (lines.getLast hne).sentence.fill = whole.sentence.fill :=
    congrArg UInt8.ofNat (h.fill _ (List.getLast?_eq_some_getLast hne))
  have hwhole : String.join [whole.sentence.payload] = whole.sentence.payload := by
    apply String.toList_injective
    simp
  have hjoin := h.join_payload
  rw [← hsplit, List.map_append, List.map_singleton] at hjoin ⊢
  rw [Frame.decode_ofSentences, hjoin, hfill, ← List.nil_append [whole.sentence],
    Frame.decode_ofSentences, List.nil_append, List.map_singleton, hwhole]

end Fragments

namespace Stream

theorem result_accept_whole {s : Stream} {w : WrittenLine} (hsingle : w.body.count.value = 1) :
    (s.accept w.text).result =
      ((Frame.ofSentences [w.sentence]).bind Message.decode).map some := by
  have hcount : w.sentence.fragmentCount = 1 := congrArg UInt8.ofNat hsingle
  rw [(accept_text s w).1, Reassembler.push_single hcount]
  rfl

/-- Fed to a stream that holds nothing, the lines that carry a message in pieces lead to
nothing until the last one, and that one to what the line with the whole payload leads
to in any stream. -/
theorem fragments_as_whole (s s' : Stream) (hs : s.reassembler.isIdle) (lines : List WrittenLine)
    (whole : WrittenLine) (h : Fragments lines whole) :
    (s.answers (lines.map WrittenLine.text)).map Accepted.result =
      List.replicate (lines.length - 1) (.ok none) ++ [(s'.accept whole.text).result] := by
  have hbuffer : s.reassembler.buffer = [] := List.isEmpty_iff.mp hs
  have htwo := h.two_le
  have hcount : (UInt8.ofNat lines.length).toNat = lines.length :=
    Nat.mod_eq_of_lt (by have := h.length_lt; omega)
  obtain ⟨sequence, horder⟩ := h.inOrder
  have hdecode := h.decode_ofSentences
  obtain ⟨init, last, rfl⟩ : ∃ init last, lines = init ++ [last] :=
    ⟨_, _, (List.dropLast_concat_getLast (List.ne_nil_of_length_pos (by omega))).symm⟩
  rw [List.map_append, List.map_singleton] at horder hdecode
  rw [List.length_append, List.length_singleton] at horder hcount htwo
  have hinit := results_inOrder hbuffer init (InOrder.concat_iff.mp horder).1 (by omega)
  have hlast := result_last hbuffer init last horder hcount.symm
    (List.ne_nil_of_length_pos (by omega))
  rw [List.map_append, List.map_singleton, answers_concat, List.map_append, hinit,
    List.map_singleton, hlast, List.length_append, List.length_singleton, Nat.add_sub_cancel,
    result_accept_whole h.single, hdecode]

/-- One piece of a position report. -/
def piece (count index : Fin 10) (sequence : Option Numeral) (payload : List Char)
    (hindex : 1 ≤ index.val ∧ index.val ≤ count.val)
    (hpayload : payload.all fun c => Sentence.isGraphic c && c != ',') : WrittenLine :=
  SentenceFields.line
    { marker := '!', talker := ['A', 'I'], carrier := .other, count := .one count
      index := .one index, sequence := sequence, channel := some 'B', payload := payload
      fill := .one 0, marker_eq := .inl rfl, talker_length := rfl, talker_alphanum := by simp
      index_pos := hindex.1, index_le := hindex.2, channel_byte := by simp
      payload_graphic := by simpa using hpayload }

/-- A report cut in the middle of a field, with an empty piece in between. -/
theorem three_pieces_as_whole :
    let lines := [piece 3 1 (some (.one 7)) "15MqdBP000G@q".toList (by decide) (by decide),
      piece 3 2 (some (.two 0 7)) [] (by decide) (by decide),
      piece 3 3 (some (.one 7)) "oLEi69PVGaN0D0=".toList (by decide) (by decide)]
    let whole := piece 1 1 none "15MqdBP000G@qoLEi69PVGaN0D0=".toList (by decide) (by decide)
    Fragments lines whole ∧
      ((new "rx" .strict).answers (lines.map WrittenLine.text)).map Accepted.result =
        [.ok none, .ok none, ((new "rx" .permissive).accept whole.text).result] := by
  intro lines whole
  have h : Fragments lines whole :=
    { two_le := by decide
      counts := by decide
      indices := rfl
      sequences := ⟨some 7, by decide⟩
      payload := rfl
      fill := by decide
      single := rfl }
  exact ⟨h, fragments_as_whole (new "rx" .strict) (new "rx" .permissive) rfl lines whole h⟩

end Stream
end VesselTraffic
