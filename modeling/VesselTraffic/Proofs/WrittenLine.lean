import Mathlib.Tactic.Common
import VesselTraffic.Proofs.Cuts
import VesselTraffic.Sentence

/-!
# Well-formed lines

A line is written from its fields in every spelling that the form allows: numbers with
or without a leading zero, either marker, hexadecimal digits of either case, blanks
around it, a tag block in front. Reading gives back the fields and no notice.
-/
namespace VesselTraffic

/-- One or two decimal digits. -/
inductive Numeral
  | one (d : Fin 10)
  | two (tens ones : Fin 10)

namespace Numeral

def digit (d : Fin 10) : Char := Char.ofNat (48 + d.val)

def text : Numeral → List Char
  | one d => [digit d]
  | two tens ones => [digit tens, digit ones]

def value : Numeral → Nat
  | one d => d.val
  | two tens ones => 10 * tens.val + ones.val

def byte (n : Numeral) : UInt8 := UInt8.ofNat n.value

theorem value_lt (n : Numeral) : n.value < 100 := by
  cases n <;> simp only [value] <;> omega

@[simp] theorem toNat_byte (n : Numeral) : n.byte.toNat = n.value :=
  Nat.mod_eq_of_lt (Nat.lt_trans n.value_lt (by decide))

theorem byte_le_byte {n m : Numeral} : n.byte ≤ m.byte ↔ n.value ≤ m.value := by
  rw [UInt8.le_iff_toNat_le, toNat_byte, toNat_byte]

@[simp] theorem oneOrTwoDigits?_text (n : Numeral) : Text.oneOrTwoDigits? n.text = some n.byte := by
  cases n with
  | one d => revert d; decide
  | two tens ones => revert tens ones; decide +kernel

theorem text_ne_nil (n : Numeral) : n.text ≠ [] := by cases n <;> simp [text]

theorem comma_not_mem_text (n : Numeral) : ',' ∉ n.text := by
  cases n with
  | one d => revert d; decide
  | two tens ones => revert tens ones; decide +kernel

end Numeral

/-- The fields of a sentence as they are written. -/
structure SentenceFields where
  marker : Char
  talker : List Char
  carrier : Carrier
  count : Numeral
  index : Numeral
  sequence : Option Numeral
  channel : Option Char
  payload : List Char
  fill : Numeral
  marker_eq : marker = '!' ∨ marker = '$'
  talker_length : talker.length = 2
  talker_alphanum : ∀ c ∈ talker, c.isAlphanum
  index_pos : 1 ≤ index.value
  index_le : index.value ≤ count.value
  channel_byte : ∀ c ∈ channel, c.toNat < 128 ∧ c ≠ ','
  payload_graphic : ∀ c ∈ payload, Sentence.isGraphic c ∧ c ≠ ','

namespace SentenceFields

variable (w : SentenceFields)

def formatter : Carrier → List Char
  | .other => ['V', 'D', 'M']
  | .own => ['V', 'D', 'O']

def texts : List (List Char) :=
  [w.talker ++ formatter w.carrier, w.count.text, w.index.text,
   (w.sequence.map Numeral.text).getD [], w.channel.toList, w.payload, w.fill.text]

/-- The characters that the checksum covers. -/
def covered : List Char := List.intercalate [','] w.texts

theorem comma_not_mem_texts : ∀ field ∈ w.texts, ',' ∉ field := by
  intro field hfield
  simp only [texts, List.mem_cons, List.not_mem_nil, or_false] at hfield
  rcases hfield with rfl | rfl | rfl | rfl | rfl | rfl | rfl
  · rw [List.mem_append, not_or]
    refine ⟨fun h => absurd (w.talker_alphanum _ h) (by decide), ?_⟩
    cases w.carrier <;> decide
  · exact w.count.comma_not_mem_text
  · exact w.index.comma_not_mem_text
  · cases w.sequence with
    | none => simp
    | some n => exact n.comma_not_mem_text
  · intro h
    exact (w.channel_byte _ (Option.mem_toList.mp h)).2 rfl
  · intro h
    exact (w.payload_graphic _ h).2 rfl
  · exact w.fill.comma_not_mem_text

theorem pieces_covered : Text.pieces ',' w.covered = w.texts :=
  Text.pieces_intercalate w.comma_not_mem_texts

theorem take_address : (w.talker ++ formatter w.carrier).take 2 = w.talker := by
  have htalker := w.talker_length
  rw [List.take_append_of_le_length (by omega), List.take_of_length_le (by omega)]

theorem drop_address : (w.talker ++ formatter w.carrier).drop 2 = formatter w.carrier :=
  List.drop_left' w.talker_length

theorem address_alphanum : (w.talker ++ formatter w.carrier).length = 5 ∧
    (w.talker ++ formatter w.carrier).all Char.isAlphanum := by
  have hformatter : (formatter w.carrier).length = 3 ∧ (formatter w.carrier).all Char.isAlphanum := by
    cases w.carrier <;> decide
  refine ⟨by rw [List.length_append, w.talker_length, hformatter.1], ?_⟩
  rw [List.all_append, hformatter.2, Bool.and_true, List.all_eq_true]
  exact w.talker_alphanum

theorem ofFormatter?_formatter (carrier : Carrier) :
    Carrier.ofFormatter? (formatter carrier) = some carrier := by
  cases carrier <;> rfl

theorem filter_count : (some w.count.byte).filter (1 ≤ ·) = some w.count.byte := by
  have h : (1 : UInt8) ≤ w.count.byte := by
    rw [UInt8.le_iff_toNat_le, Numeral.toNat_byte]
    exact Nat.le_trans w.index_pos w.index_le
  simp [h]

theorem filter_index : (some w.index.byte).filter (fun i => 1 ≤ i && i ≤ w.count.byte) =
    some w.index.byte := by
  have hpos : (1 : UInt8) ≤ w.index.byte := by
    rw [UInt8.le_iff_toNat_le, Numeral.toNat_byte]
    exact w.index_pos
  simp [hpos, Numeral.byte_le_byte, w.index_le]

theorem optional?_sequence :
    Sentence.optional? Text.oneOrTwoDigits? ((w.sequence.map Numeral.text).getD []) =
      some (w.sequence.map Numeral.byte) := by
  cases w.sequence with
  | none => rfl
  | some n => simp [Sentence.optional?, n.text_ne_nil]

theorem optional?_channel :
    Sentence.optional? Sentence.channel? w.channel.toList = some w.channel := by
  cases hchannel : w.channel with
  | none => rfl
  | some c =>
    have hbyte := (w.channel_byte c hchannel).1
    simp [Sentence.optional?, Sentence.channel?, hbyte]

end SentenceFields

/-- A sentence as it is written: its fields and two digits for its checksum. -/
structure WrittenSentence extends SentenceFields where
  high : Char
  low : Char
  high_hex : Text.isHexDigit high
  low_hex : Text.isHexDigit low

namespace WrittenSentence

variable (w : WrittenSentence)

def declared : UInt8 :=
  UInt8.ofNat (16 * Text.hexDigitValue w.high + Text.hexDigitValue w.low)

def text : List Char := w.marker :: (w.covered ++ ['*', w.high, w.low])

/-- The sentence that the fields stand for. -/
def sentence (tagBlock : Option TagBlock) : Sentence where
  talker := String.ofList w.talker
  carrier := w.carrier
  fragmentCount := w.count.byte
  fragmentIndex := w.index.byte
  sequence := w.sequence.map Numeral.byte
  channel := w.channel
  payload := String.ofList w.payload
  fill := w.fill.byte
  checksum := w.declared
  checksumOk := w.declared == Checksum.ofText w.covered
  tagBlock := tagBlock

theorem hexDigit_ne_asterisk {c : Char} (h : Text.isHexDigit c) : c ≠ '*' := by
  rintro rfl
  exact absurd h (by decide)

theorem body?_text : Sentence.body? w.text = .ok ⟨w.covered, w.declared⟩ := by
  have hdigits : '*' ∉ [w.high, w.low] := by
    simp [(hexDigit_ne_asterisk w.high_hex).symm, (hexDigit_ne_asterisk w.low_hex).symm]
  have hcut : Text.cutLast? '*' (w.covered ++ ['*', w.high, w.low]) =
      some (w.covered, [w.high, w.low]) := Text.cutLast?_append _ hdigits
  have hpair : Text.hexPair? [w.high, w.low] = some w.declared := by
    rw [Text.hexPair?, w.high_hex, w.low_hex]
    rfl
  rw [text]
  rcases w.marker_eq with hmarker | hmarker <;>
    simp only [hmarker, Sentence.body?, hcut, hpair]

theorem ofBody_text (malformed : SentenceFlaw → Refusal) (tagBlock : Option TagBlock) :
    Sentence.ofBody malformed tagBlock ⟨w.covered, w.declared⟩ = .ok (w.sentence tagBlock) := by
  have hpayload : w.payload.all Sentence.isGraphic := by
    rw [List.all_eq_true]
    exact fun c hc => (w.payload_graphic c hc).1
  unfold Sentence.ofBody
  simp only [SentenceFields.pieces_covered, SentenceFields.texts, if_pos w.address_alphanum,
    SentenceFields.drop_address, SentenceFields.take_address, SentenceFields.ofFormatter?_formatter,
    Numeral.oneOrTwoDigits?_text, SentenceFields.filter_count, SentenceFields.filter_index,
    SentenceFields.optional?_sequence, SentenceFields.optional?_channel, if_pos hpayload, bind, Except.bind]
  rfl

/-- The sentence behind the text of a tag block, if there is one. -/
def behind : Option (List Char) → List Char
  | none => w.text
  | some tag => '\\' :: (tag ++ '\\' :: w.text)

theorem behind_eq_cons (tag : Option (List Char)) :
    ∃ c rest, w.behind tag = c :: rest ∧ ¬ Text.isBlank c := by
  cases tag with
  | none =>
    refine ⟨w.marker, _, rfl, ?_⟩
    rcases w.marker_eq with hmarker | hmarker <;> rw [hmarker] <;> decide
  | some tag => exact ⟨'\\', _, rfl, by decide⟩

theorem hexDigit_not_lineEnd {c : Char} (h : Text.isHexDigit c) : ¬ Sentence.isLineEnd c := by
  intro hend
  simp only [Sentence.isLineEnd, Bool.or_eq_true, decide_eq_true_eq] at hend
  rcases hend with ((rfl | rfl) | rfl) | rfl <;> exact absurd h (by decide)

theorem behind_eq_concat (tag : Option (List Char)) : ∃ init, w.behind tag = init ++ [w.low] := by
  obtain ⟨init, hbody⟩ : ∃ init, w.text = init ++ [w.low] :=
    ⟨w.marker :: (w.covered ++ ['*', w.high]), by simp [text]⟩
  cases tag with
  | none => exact ⟨init, hbody⟩
  | some tag => exact ⟨'\\' :: (tag ++ '\\' :: init), by simp [behind, hbody]⟩

/-- What stands around a sentence and its tag block is stripped off, and no more. -/
theorem stripped_behind (tag : Option (List Char)) {lead ending : List Char}
    (hlead : ∀ c ∈ lead, Text.isBlank c) (hending : ∀ c ∈ ending, Sentence.isLineEnd c) :
    Sentence.stripped (lead ++ w.behind tag ++ ending) = w.behind tag := by
  obtain ⟨c, rest, hfirst, hblank⟩ := w.behind_eq_cons tag
  obtain ⟨init, hlast⟩ := w.behind_eq_concat tag
  have hend : Text.trimEnd Sentence.isLineEnd (lead ++ w.behind tag) = lead ++ w.behind tag := by
    rw [hlast, ← List.append_assoc]
    exact Text.trimEnd_concat (hexDigit_not_lineEnd w.low_hex) _
  rw [Sentence.stripped, Text.trimEnd_append hending, hend, Text.trimStart_append hlead, hfirst,
    Text.trimStart_cons hblank]

end WrittenSentence

theorem Text.hexDigit_spec {n : Nat} (h : n < 16) :
    Text.isHexDigit (Text.hexDigit n) ∧ Text.hexDigitValue (Text.hexDigit n) = n := by
  have key : ∀ i : Fin 16, Text.isHexDigit (Text.hexDigit i) ∧
      Text.hexDigitValue (Text.hexDigit i) = i := by decide
  exact key ⟨n, h⟩

namespace SentenceFields

variable (w : SentenceFields)

theorem checksum_lt : (Checksum.ofText w.covered).toNat / 16 < 16 :=
  Nat.div_lt_of_lt_mul (Checksum.ofText w.covered).toNat_lt

/-- The sentence with these fields and the right checksum. -/
def checked : WrittenSentence where
  toSentenceFields := w
  high := Text.hexDigit ((Checksum.ofText w.covered).toNat / 16)
  low := Text.hexDigit ((Checksum.ofText w.covered).toNat % 16)
  high_hex := (Text.hexDigit_spec w.checksum_lt).1
  low_hex := (Text.hexDigit_spec (Nat.mod_lt _ (by decide))).1

theorem declared_checked : w.checked.declared = Checksum.ofText w.covered := by
  rw [WrittenSentence.declared, checked, (Text.hexDigit_spec w.checksum_lt).2,
    (Text.hexDigit_spec (Nat.mod_lt _ (by decide))).2, Nat.div_add_mod, UInt8.ofNat_toNat]

end SentenceFields

theorem Checksum.verify_self (mode : ChecksumMode) (part : CheckedPart) (declared : UInt8) :
    Checksum.verify mode part declared declared = ⟨[], .ok true⟩ := by
  simp [verify, pure]

/-- A tag block that is read strictly is read in every mode, without a notice. -/
theorem TagBlock.parse_of_strict {text : List Char} {block : TagBlock}
    (h : (TagBlock.parse .strict text).result = .ok block) (mode : ChecksumMode) :
    TagBlock.parse mode text = ⟨[], .ok block⟩ := by
  unfold TagBlock.parse at h ⊢
  cases hcut : Text.cutLast? '*' text with
  | none => simp [hcut, Outcome.refuse] at h
  | some cut =>
    obtain ⟨parameters, digits⟩ := cut
    cases hpair : Text.hexPair? digits with
    | none => simp [hcut, hpair, Outcome.refuse] at h
    | some declared =>
      by_cases hsum : declared = Checksum.ofText parameters
      · subst hsum
        simp only [hcut, hpair, Checksum.verify_self, Outcome.ok_bind, Outcome.ofExcept] at h ⊢
        rw [h]
      · simp only [hcut, hpair, Checksum.verify, if_neg hsum] at h
        contradiction

/-- A tag block with the right checksum, without the backslashes around it. -/
structure WrittenTag where
  text : List Char
  block : TagBlock
  backslash_not_mem : '\\' ∉ text
  read : (TagBlock.parse .strict text).result = .ok block

/-- A line with the right checksums. -/
structure WrittenLine where
  lead : List Char
  tag : Option WrittenTag
  body : WrittenSentence
  ending : List Char
  lead_blank : ∀ c ∈ lead, Text.isBlank c
  ending_blank : ∀ c ∈ ending, Sentence.isLineEnd c
  verified : body.declared = Checksum.ofText body.covered

/-- The line with these fields, the right checksum and nothing around. -/
def SentenceFields.line (w : SentenceFields) : WrittenLine where
  lead := []
  tag := none
  body := w.checked
  ending := []
  lead_blank := by simp
  ending_blank := by simp
  verified := w.declared_checked

namespace WrittenLine

variable (w : WrittenLine)

/-- The line without the blanks around it. -/
def core : List Char :=
  match w.tag with
  | none => w.body.text
  | some tag => '\\' :: (tag.text ++ '\\' :: w.body.text)

def text : String := String.ofList (w.lead ++ w.core ++ w.ending)

def sentence : Sentence := w.body.sentence (w.tag.map WrittenTag.block)

theorem core_eq_behind : w.core = w.body.behind (w.tag.map WrittenTag.text) := by
  unfold core
  cases w.tag <;> rfl

theorem stripped_text : Sentence.stripped w.text.toList = w.core := by
  rw [text, String.toList_ofList, core_eq_behind]
  exact w.body.stripped_behind _ w.lead_blank w.ending_blank

theorem leadingTagBlock_core (mode : ChecksumMode) (malformed : SentenceFlaw → Refusal) :
    Sentence.leadingTagBlock mode malformed w.core =
      ⟨[], .ok (w.tag.map WrittenTag.block, w.body.text)⟩ := by
  unfold core
  cases w.tag with
  | none =>
    rcases w.body.marker_eq with hmarker | hmarker <;>
      rw [WrittenSentence.text, hmarker] <;> rfl
  | some tag =>
    simp only [Sentence.leadingTagBlock, Text.cutFirst?_append tag.backslash_not_mem,
      TagBlock.parse_of_strict tag.read, Outcome.ok_bind]
    rfl

/-- A written line is read as the sentence of its fields. -/
theorem parse_text (mode : ChecksumMode) : Sentence.parse mode w.text = ⟨[], .ok w.sentence⟩ := by
  have hverify : Checksum.verify mode .sentence w.body.declared (Checksum.ofText w.body.covered) =
      ⟨[], .ok true⟩ := by
    rw [← w.verified]
    exact Checksum.verify_self ..
  unfold Sentence.parse
  simp only [stripped_text, leadingTagBlock_core, Outcome.ok_bind, WrittenSentence.body?_text,
    Except.mapError, Outcome.ofExcept, WrittenSentence.ofBody_text, hverify]
  rfl

end WrittenLine
end VesselTraffic
