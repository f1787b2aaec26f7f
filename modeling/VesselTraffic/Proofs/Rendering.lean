import VesselTraffic.Proofs.Grammar

/-!
# Sentences written from their values

A sentence is rendered with numbers without leading zeros and a checksum in upper case. What
the permissive mode reads of a line is its grammar, so rendered values are read back.
-/
namespace VesselTraffic

/-- Two hexadecimal digits are read back. -/
theorem Text.hexPair?_hexPair (b : UInt8) : hexPair? (hexPair b).toList = some b := by
  have hhigh := hexDigit_spec (Nat.div_lt_of_lt_mul b.toNat_lt : b.toNat / 16 < 16)
  have hlow := hexDigit_spec (Nat.mod_lt b.toNat (by decide : 0 < 16))
  rw [hexPair, String.toList_ofList, hexPair?_eq_some_iff]
  refine ⟨_, _, rfl, hhigh.1, hlow.1, ?_⟩
  rw [hhigh.2, hlow.2, Nat.div_add_mod, UInt8.ofNat_toNat]

namespace Sentence

/-- A number without zeros in front. -/
def decimal (n : UInt8) : List Char := (toString n.toNat).toList

/-- The fields of a sentence with commas between them. -/
def data (s : Sentence) : List Char :=
  List.intercalate [',']
    [s.talker.toList ++ SentenceFields.formatter s.carrier, decimal s.fragmentCount,
     decimal s.fragmentIndex, (s.sequence.map decimal).getD [], s.channel.toList, s.payload.toList,
     decimal s.fill]

def render (marker : Char) (s : Sentence) : String :=
  String.ofList (marker :: (s.data ++ '*' :: (Text.hexPair s.checksum).toList))

/-- The values that the fields of a line without a tag block can have. -/
structure IsWritable (s : Sentence) : Prop where
  talker_length : s.talker.toList.length = 2
  talker_alphanum : ∀ c ∈ s.talker.toList, c.isAlphanum
  index_pos : 1 ≤ s.fragmentIndex
  index_le : s.fragmentIndex ≤ s.fragmentCount
  count_lt : s.fragmentCount < 100
  sequence_lt : ∀ n ∈ s.sequence, n < 100
  channel_byte : ∀ c ∈ s.channel, c.toNat < 128 ∧ c ≠ ','
  payload_graphic : ∀ c ∈ s.payload.toList, isGraphic c ∧ c ≠ ','
  fill_lt : s.fill < 100
  checksumOk_eq : s.checksumOk = (s.checksum == Checksum.ofText s.data)
  tagBlock_eq : s.tagBlock = none

theorem exists_decimal_eq {n : UInt8} (h : n < 100) :
    ∃ numeral : Numeral, numeral.text = decimal n ∧ numeral.byte = n := by
  have hread : ∀ i : Fin 100,
      Text.oneOrTwoDigits? (decimal (UInt8.ofNat i)) = some (UInt8.ofNat i) := by decide +kernel
  have hn := hread ⟨n.toNat, UInt8.lt_iff_toNat_lt.mp h⟩
  rw [UInt8.ofNat_toNat] at hn
  exact Numeral.oneOrTwoDigits?_eq_some_iff.mp hn

theorem exists_optional_decimal_eq {value : Option UInt8} (h : ∀ n ∈ value, n < 100) :
    ∃ numeral : Option Numeral,
      (numeral.map Numeral.text).getD [] = (value.map decimal).getD [] ∧
        numeral.map Numeral.byte = value := by
  cases value with
  | none => exact ⟨none, rfl, rfl⟩
  | some n =>
    obtain ⟨numeral, htext, hbyte⟩ := exists_decimal_eq (h n rfl)
    exact ⟨some numeral, htext, congrArg some hbyte⟩

/-- Values that can be written are those of a written sentence. -/
theorem IsWritable.exists_written {s : Sentence} (h : s.IsWritable) {marker : Char}
    (hmarker : marker = '!' ∨ marker = '$') :
    ∃ w : WrittenSentence, String.ofList w.text = s.render marker ∧ w.sentence none = s := by
  have hindex_lt : s.fragmentIndex < 100 := UInt8.lt_of_le_of_lt h.index_le h.count_lt
  obtain ⟨count, hcountText, hcount⟩ := exists_decimal_eq h.count_lt
  obtain ⟨index, hindexText, hindex⟩ := exists_decimal_eq hindex_lt
  obtain ⟨fill, hfillText, hfill⟩ := exists_decimal_eq h.fill_lt
  obtain ⟨sequence, hsequenceText, hsequence⟩ := exists_optional_decimal_eq h.sequence_lt
  obtain ⟨high, low, hdigits, hhigh, hlow, hdeclared⟩ :=
    Text.hexPair?_eq_some_iff.mp (Text.hexPair?_hexPair s.checksum)
  have hpos : 1 ≤ index.value := by
    have hbyte := UInt8.le_iff_toNat_le.mp h.index_pos
    rwa [← hindex, Numeral.toNat_byte] at hbyte
  have hle : index.value ≤ count.value := by
    rw [← Numeral.byte_le_byte, hindex, hcount]
    exact h.index_le
  let fields : SentenceFields := {
    marker := marker
    talker := s.talker.toList
    carrier := s.carrier
    count := count
    index := index
    sequence := sequence
    channel := s.channel
    payload := s.payload.toList
    fill := fill
    marker_eq := hmarker
    talker_length := h.talker_length
    talker_alphanum := h.talker_alphanum
    index_pos := hpos
    index_le := hle
    channel_byte := h.channel_byte
    payload_graphic := h.payload_graphic }
  have hcovered : fields.covered = s.data := by
    simp only [SentenceFields.covered, SentenceFields.texts, fields, data, hcountText, hindexText,
      hfillText, hsequenceText]
  refine ⟨{ toSentenceFields := fields, high := high, low := low, high_hex := hhigh,
            low_hex := hlow }, ?_, ?_⟩
  · rw [WrittenSentence.text, hcovered, render, hdigits]
  · simp only [WrittenSentence.sentence, WrittenSentence.declared, hcovered, hdeclared]
    simp only [fields, String.ofList_toList, hcount, hindex, hfill, hsequence, ← h.checksumOk_eq,
      ← h.tagBlock_eq]

/-- Rendered values are read back. -/
theorem IsWritable.parse_render {s : Sentence} (h : s.IsWritable) {marker : Char}
    (hmarker : marker = '!' ∨ marker = '$') :
    (parse .permissive (s.render marker)).result = .ok s := by
  obtain ⟨w, htext, hs⟩ := h.exists_written hmarker
  refine parse_permissive_iff_spelled.mpr ⟨⟨[], none, w, [], by simp, by simp⟩, ?_, hs⟩
  rw [SpelledLine.text, List.append_nil, List.nil_append]
  exact htext

/-- A line is read permissively just if it is spelled by the grammar, and then as the sentence
of its fields. So a sentence of writable values, rendered, is read back. -/
theorem reads_grammar :
    (∀ (line : String) (s : Sentence), (parse .permissive line).result = .ok s ↔
      ∃ w : SpelledLine, w.text = line ∧ w.sentence = s) ∧
    ∀ (s : Sentence) (marker : Char), s.IsWritable → marker = '!' ∨ marker = '$' →
      (parse .permissive (s.render marker)).result = .ok s :=
  ⟨fun _ _ => parse_permissive_iff_spelled, fun _ _ h hmarker => h.parse_render hmarker⟩

/-- An asterisk in the payload does not end it. -/
theorem asterisk_in_payload_read :
    ∃ s : Sentence, s.payload = "1*00" ∧ s.IsWritable ∧ s.render '!' = "!AIVDM,2,1,3,A,1*00,0*0D" ∧
      (parse .permissive (s.render '!')).result = .ok s := by
  let s : Sentence := {
    talker := "AI"
    carrier := .other
    fragmentCount := 2
    fragmentIndex := 1
    sequence := some 3
    channel := some 'A'
    payload := "1*00"
    fill := 0
    checksum := 0x0d
    checksumOk := true
    tagBlock := none }
  have hwritable : s.IsWritable := {
    talker_length := by decide
    talker_alphanum := by simp [s]
    index_pos := by decide
    index_le := by decide
    count_lt := by decide
    sequence_lt := by simp [s]
    channel_byte := by simp [s]
    payload_graphic := by simp [s]; decide
    fill_lt := by decide
    checksumOk_eq := by decide +kernel
    tagBlock_eq := rfl }
  exact ⟨s, rfl, hwritable, by decide +kernel, reads_grammar.2 s '!' hwritable (Or.inl rfl)⟩

end Sentence
end VesselTraffic
