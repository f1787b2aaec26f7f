import VesselTraffic.Proofs.Encoding
import VesselTraffic.Proofs.Mismatches

/-!
# Lines with one wrong character

The strict mode reads just the lines that are written with the right checksums. The exclusive
or of a text changes with any one character of one byte, and only one pair of digits, up to
case, stands for a sum. So no line stays readable when one of its covered characters or of its
digits is exchanged, even where the exchange makes or removes a comma, an asterisk or a blank.
-/
namespace VesselTraffic

/-! ## Sums and digits -/

namespace Checksum

theorem foldl_xor (sum : UInt8) (bytes : List UInt8) :
    bytes.foldl (· ^^^ ·) sum = sum ^^^ bytes.foldl (· ^^^ ·) 0 := by
  have hsum : sum ^^^ 0 = sum := UInt8.xor_zero
  conv_lhs => rw [← hsum]
  exact List.foldl_assoc

theorem ofText_append (as bs : List Char) : ofText (as ++ bs) = ofText as ^^^ ofText bs := by
  rw [ofText, Text.Utf8.encode, List.flatMap_append, List.foldl_append, foldl_xor]
  rfl

theorem ofText_cons {c : Char} (h : c.toNat < 128) (cs : List Char) :
    ofText (c :: cs) = UInt8.ofNat c.toNat ^^^ ofText cs := by
  have hbyte : String.utf8EncodeChar c = [c.val.toUInt8] :=
    String.utf8EncodeChar_eq_singleton (Text.utf8Size_eq_one h)
  rw [ofText, Text.Utf8.encode, List.flatMap_cons, hbyte, List.singleton_append, List.foldl_cons,
    UInt8.zero_xor, foldl_xor]
  rfl

/-- Exchanging one character of one byte changes the checksum. -/
theorem eq_of_ofText_eq {before after : List Char} {old new : Char} (hold : old.toNat < 128)
    (hnew : new.toNat < 128)
    (h : ofText (before ++ old :: after) = ofText (before ++ new :: after)) : old = new := by
  rw [ofText_append, ofText_append, UInt8.xor_right_inj, ofText_cons hold, ofText_cons hnew,
    UInt8.xor_left_inj] at h
  have hvalue := congrArg UInt8.toNat h
  rw [UInt8.toNat_ofNat', UInt8.toNat_ofNat'] at hvalue
  exact Char.toNat_inj.mp (by omega)

end Checksum

namespace Text

theorem toNat_lt_of_isHexDigit {c : Char} (h : isHexDigit c) : c.toNat < 128 := by
  have upTo {last : Char} (hlast : last.toNat < 128) (hc : c ≤ last) : c.toNat < 128 :=
    Nat.lt_of_le_of_lt hc hlast
  simp only [isHexDigit, Bool.or_eq_true, Bool.and_eq_true, decide_eq_true_eq] at h
  rcases h with (hdigit | hlower) | hupper
  · exact toNat_lt_of_isAlphanum (by simp [Char.isAlphanum, hdigit])
  · exact upTo (by decide) hlower.2
  · exact upTo (by decide) hupper.2

/-- A digit is known from its value, up to case. -/
theorem hexDigitValue_spec {c : Char} (h : isHexDigit c) :
    hexDigitValue c < 16 ∧ (hexDigit (hexDigitValue c)).toLower = c.toLower := by
  have key : ∀ i : Fin 128, isHexDigit (Char.ofNat i) → hexDigitValue (Char.ofNat i) < 16 ∧
      (hexDigit (hexDigitValue (Char.ofNat i))).toLower = (Char.ofNat i).toLower := by decide
  have hc := key ⟨c.toNat, toNat_lt_of_isHexDigit h⟩
  rw [Char.ofNat_toNat] at hc
  exact hc h

theorem toLower_eq_of_hexDigitValue_eq {a b : Char} (ha : isHexDigit a) (hb : isHexDigit b)
    (h : hexDigitValue a = hexDigitValue b) : a.toLower = b.toLower := by
  rw [← (hexDigitValue_spec ha).2, h, (hexDigitValue_spec hb).2]

end Text

/-! ## What the strict mode reads -/

theorem Numeral.toNat_lt_of_mem_text (n : Numeral) : ∀ c ∈ n.text, c.toNat < 128 := by
  have key : ∀ d : Fin 10, (digit d).toNat < 128 := by decide
  cases n <;> simp [text, key]

theorem Sentence.toNat_lt_of_isGraphic {c : Char} (h : isGraphic c) : c.toNat < 128 := by
  have hmost : c ≤ '~' := of_decide_eq_true ((Bool.and_eq_true _ _).mp h).2
  exact Nat.lt_of_le_of_lt hmost (by decide)

/-- The checksum of a sentence covers characters of one byte only. -/
theorem SentenceFields.toNat_lt_of_mem_covered (w : SentenceFields) :
    ∀ c ∈ w.covered, c.toNat < 128 := by
  intro c hc
  rcases Text.mem_of_mem_intercalate hc with rfl | ⟨field, hfield, hc⟩
  · decide
  simp only [texts, List.mem_cons, List.not_mem_nil, or_false] at hfield
  rcases hfield with rfl | rfl | rfl | rfl | rfl | rfl | rfl
  · exact Text.toNat_lt_of_isAlphanum (List.all_eq_true.mp w.address_alphanum.2 c hc)
  · exact w.count.toNat_lt_of_mem_text c hc
  · exact w.index.toNat_lt_of_mem_text c hc
  · cases hsequence : w.sequence with
    | none => simp [hsequence] at hc
    | some n =>
      rw [hsequence] at hc
      exact n.toNat_lt_of_mem_text c hc
  · exact (w.channel_byte c (Option.mem_toList.mp hc)).1
  · exact Sentence.toNat_lt_of_isGraphic (w.payload_graphic c hc).1
  · exact w.fill.toNat_lt_of_mem_text c hc

/-- Only one pair of digits stands for a sum, up to case. -/
theorem WrittenSentence.toLower_digits_of_declared_eq {w w' : WrittenSentence}
    (h : w.declared = w'.declared) :
    w.high.toLower = w'.high.toLower ∧ w.low.toLower = w'.low.toLower := by
  have hhigh := (Text.hexDigitValue_spec w.high_hex).1
  have hlow := (Text.hexDigitValue_spec w.low_hex).1
  have hhigh' := (Text.hexDigitValue_spec w'.high_hex).1
  have hlow' := (Text.hexDigitValue_spec w'.low_hex).1
  have hvalue := congrArg UInt8.toNat h
  rw [declared, declared, UInt8.toNat_ofNat', UInt8.toNat_ofNat'] at hvalue
  exact ⟨Text.toLower_eq_of_hexDigitValue_eq w.high_hex w'.high_hex (by omega),
    Text.toLower_eq_of_hexDigitValue_eq w.low_hex w'.low_hex (by omega)⟩

namespace SpelledLine

variable (w : SpelledLine)

theorem tagSums?_text :
    Sentence.tagSums? w.text = (w.tag.map SpelledTag.text).bind Checksum.sums? := by
  rw [Sentence.tagSums?, parts?_text, Option.bind_some]

/-- A tag block that is spelled with the right checksum is written. -/
theorem exists_writtenTag (h : Checksum.compare (Sentence.tagSums? w.text) = .ok ()) :
    ∃ tag : Option WrittenTag, tag.map WrittenTag.text = w.tag.map SpelledTag.text ∧
      tag.map WrittenTag.block = w.tag.map SpelledTag.block := by
  rw [tagSums?_text] at h
  cases htag : w.tag with
  | none => exact ⟨none, rfl, rfl⟩
  | some tag =>
    rw [htag, Option.map_some, Option.bind_some] at h
    refine ⟨some ⟨tag.text, tag.block, tag.backslash_not_mem, ?_⟩, rfl, rfl⟩
    rw [TagBlock.result_parse_strict, h]
    exact tag.read

end SpelledLine

namespace Sentence

/-- A line is read strictly just if it is written with the right checksums. -/
theorem parse_strict_iff_written {line : String} {s : Sentence} :
    (parse .strict line).result = .ok s ↔ ∃ w : WrittenLine, w.text = line ∧ w.sentence = s := by
  constructor
  · intro h
    rw [result_parse_strict] at h
    obtain ⟨⟨⟩, htag, h⟩ := Refusal.bind_eq_ok_iff.mp h
    obtain ⟨sentence, hs, h⟩ := Refusal.bind_eq_ok_iff.mp h
    obtain ⟨⟨⟩, hbody, ⟨⟩⟩ := Refusal.bind_eq_ok_iff.mp h
    have hok := (compare_bodySums?_eq_ok_iff hs).mp hbody
    obtain ⟨w, rfl, rfl⟩ := parse_permissive_iff_spelled.mp hs
    obtain ⟨tag, htext, hblock⟩ := w.exists_writtenTag htag
    refine ⟨⟨w.lead, tag, w.body, w.ending, w.lead_blank, w.ending_blank, beq_iff_eq.mp hok⟩, ?_, ?_⟩
    · rw [WrittenLine.text, WrittenLine.core_eq_behind, htext]
      rfl
    · rw [WrittenLine.sentence, hblock]
      rfl
  · rintro ⟨w, rfl, rfl⟩
    rw [w.parse_text]

/-! ## Where a line is cut -/

def isMarker (c : Char) : Bool := c = '!' || c = '$'

theorem not_isMarker_of_isBlank {c : Char} (h : Text.isBlank c) : ¬ isMarker c := by
  intro hmarker
  simp only [isMarker, Bool.or_eq_true, decide_eq_true_eq] at hmarker
  rcases hmarker with rfl | rfl <;> exact absurd h (by decide)

/-- There is one first marker in a line. -/
theorem eq_of_first_marker {lead lead' rest rest' : List Char} {marker marker' : Char}
    (hlead : ∀ c ∈ lead, ¬ isMarker c) (hlead' : ∀ c ∈ lead', ¬ isMarker c)
    (hmarker : isMarker marker) (hmarker' : isMarker marker')
    (h : lead ++ marker :: rest = lead' ++ marker' :: rest') :
    lead = lead' ∧ marker = marker' ∧ rest = rest' := by
  have hrest := congrArg (Text.trimStart (!isMarker ·)) h
  rw [Text.trimStart_append (by simpa using hlead), Text.trimStart_append (by simpa using hlead'),
    Text.trimStart_cons (by simpa using hmarker),
    Text.trimStart_cons (by simpa using hmarker')] at hrest
  obtain ⟨rfl, rfl⟩ := List.cons.inj hrest
  exact ⟨List.append_cancel_right h, rfl, rfl⟩

/-- There is one last asterisk in a line. -/
theorem eq_of_last_asterisk {front front' digits digits' : List Char} (hdigits : '*' ∉ digits)
    (hdigits' : '*' ∉ digits') (h : front ++ '*' :: digits = front' ++ '*' :: digits') :
    front = front' ∧ digits = digits' := by
  have hcut := congrArg (Text.cutLast? '*') h
  rw [Text.cutLast?_append front hdigits, Text.cutLast?_append front' hdigits'] at hcut
  exact Prod.mk.inj (Option.some.inj hcut)

end Sentence

namespace WrittenLine

variable (w : WrittenLine)

theorem isMarker_marker : Sentence.isMarker w.body.marker := by
  simpa [Sentence.isMarker] using w.body.marker_eq

theorem lead_not_marker : ∀ c ∈ w.lead, ¬ Sentence.isMarker c :=
  fun c hc => Sentence.not_isMarker_of_isBlank (w.lead_blank c hc)

theorem asterisk_not_mem_digits : '*' ∉ w.body.high :: w.body.low :: w.ending := by
  simp only [List.mem_cons, not_or]
  refine ⟨(WrittenSentence.hexDigit_ne_asterisk w.body.high_hex).symm,
    (WrittenSentence.hexDigit_ne_asterisk w.body.low_hex).symm, fun hend => ?_⟩
  exact absurd (w.ending_blank _ hend) (by decide)

theorem toList_text_of_tag (htag : w.tag = none) : w.text.toList =
    w.lead ++ w.body.marker :: (w.body.covered ++ '*' :: w.body.high :: w.body.low :: w.ending) := by
  simp [text, core, htag, WrittenSentence.text]

/-- A line that begins with a marker, up to blanks, has no tag block. -/
theorem tag_eq_none {lead rest : List Char} {marker : Char} (hlead : ∀ c ∈ lead, Text.isBlank c)
    (hmarker : Sentence.isMarker marker) (h : w.text.toList = lead ++ marker :: rest) :
    w.tag = none := by
  cases htag : w.tag with
  | none => rfl
  | some tag =>
    have hline : w.text.toList = w.lead ++ '\\' :: (tag.text ++ '\\' :: w.body.text ++ w.ending) := by
      simp [text, core, htag]
    have hblank : ¬ Text.isBlank marker := fun hblank =>
      Sentence.not_isMarker_of_isBlank hblank hmarker
    have hfirst := congrArg (Text.trimStart Text.isBlank) (hline.symm.trans h)
    rw [Text.trimStart_append w.lead_blank, Text.trimStart_append hlead,
      Text.trimStart_cons (by decide), Text.trimStart_cons hblank] at hfirst
    rw [← (List.cons.inj hfirst).1] at hmarker
    exact absurd hmarker (by decide)

/-- The parts of a line without a tag block are found at its first marker and its last
asterisk. -/
theorem parts_eq (htag : w.tag = none) {lead data digits : List Char} {marker : Char}
    (hlead : ∀ c ∈ lead, ¬ Sentence.isMarker c) (hmarker : Sentence.isMarker marker)
    (hdigits : '*' ∉ digits) (h : w.text.toList = lead ++ marker :: (data ++ '*' :: digits)) :
    w.lead = lead ∧ w.body.covered = data ∧ w.body.high :: w.body.low :: w.ending = digits := by
  rw [w.toList_text_of_tag htag] at h
  obtain ⟨hleadEq, -, hrest⟩ :=
    Sentence.eq_of_first_marker w.lead_not_marker hlead w.isMarker_marker hmarker h
  exact ⟨hleadEq, Sentence.eq_of_last_asterisk w.asterisk_not_mem_digits hdigits hrest⟩

/-- One of the digits stands behind at most one character of what follows the last asterisk. -/
theorem digit_cases {before after : List Char} {c : Char} (hbefore : before.length < 2)
    (h : w.body.high :: w.body.low :: w.ending = before ++ c :: after) :
    before = [] ∧ c = w.body.high ∧ after = w.body.low :: w.ending ∨
      before = [w.body.high] ∧ c = w.body.low ∧ after = w.ending := by
  match before, hbefore with
  | [], _ =>
    obtain ⟨hhigh, hafter⟩ := List.cons.inj h
    exact Or.inl ⟨rfl, hhigh.symm, hafter.symm⟩
  | [b], _ =>
    obtain ⟨rfl, hrest⟩ := List.cons.inj h
    obtain ⟨hlow, hafter⟩ := List.cons.inj hrest
    exact Or.inr ⟨rfl, hlow.symm, hafter.symm⟩

variable {w} {w' : WrittenLine}

/-- Lines with the same digits do not differ in just one covered character. -/
theorem eq_of_data (htag : w.tag = none) {lead before after digits : List Char}
    {marker old new : Char} (hlead : ∀ c ∈ lead, ¬ Sentence.isMarker c)
    (hmarker : Sentence.isMarker marker) (hdigits : '*' ∉ digits) (hascii : new.toNat < 128)
    (h : w.text.toList = lead ++ marker :: ((before ++ old :: after) ++ '*' :: digits))
    (h' : w'.text.toList = lead ++ marker :: ((before ++ new :: after) ++ '*' :: digits)) :
    new = old := by
  obtain ⟨rfl, hdata, hpair⟩ := w.parts_eq htag hlead hmarker hdigits h
  have htag' : w'.tag = none := w'.tag_eq_none w.lead_blank hmarker h'
  obtain ⟨-, hdata', hpair'⟩ := w'.parts_eq htag' hlead hmarker hdigits h'
  obtain ⟨hhigh, hrest⟩ := List.cons.inj (hpair.trans hpair'.symm)
  have hsum : Checksum.ofText w.body.covered = Checksum.ofText w'.body.covered := by
    rw [← w.verified, ← w'.verified, WrittenSentence.declared, WrittenSentence.declared, hhigh,
      (List.cons.inj hrest).1]
  have hold : old.toNat < 128 := w.body.toNat_lt_of_mem_covered old (by simp [hdata])
  rw [hdata, hdata'] at hsum
  exact (Checksum.eq_of_ofText_eq hold hascii hsum).symm

/-- Lines with the same covered text do not differ in just one digit, up to case. -/
theorem toLower_eq_of_digit (htag : w.tag = none) {front before after : List Char} {old new : Char}
    (hbefore : before.length < 2) (hlast : '*' ∉ before ++ old :: after)
    (h : w.text.toList = front ++ '*' :: (before ++ old :: after))
    (h' : w'.text.toList = front ++ '*' :: (before ++ new :: after)) :
    new.toLower = old.toLower := by
  have hline : w.text.toList = (w.lead ++ w.body.marker :: w.body.covered) ++
      '*' :: w.body.high :: w.body.low :: w.ending := by
    rw [w.toList_text_of_tag htag, List.append_assoc, List.cons_append]
  obtain ⟨rfl, hpair⟩ :=
    Sentence.eq_of_last_asterisk w.asterisk_not_mem_digits hlast (hline.symm.trans h)
  have hdigit := w.digit_cases hbefore hpair
  rw [List.append_assoc, List.cons_append] at h'
  have htag' : w'.tag = none := w'.tag_eq_none w.lead_blank w.isMarker_marker h'
  have hafter : '*' ∉ after := fun hmem =>
    hlast (List.mem_append_right before (List.mem_cons_of_mem old hmem))
  -- An asterisk in the place of a digit leaves at most one digit behind it.
  have hnew : new ≠ '*' := by
    rintro rfl
    have hline' : w'.text.toList =
        w.lead ++ w.body.marker :: ((w.body.covered ++ '*' :: before) ++ '*' :: after) := by
      rw [h', List.append_assoc, List.cons_append]
    obtain ⟨-, -, hpair'⟩ := w'.parts_eq htag' w.lead_not_marker w.isMarker_marker hafter hline'
    have hlow : w'.body.low ∈ w.ending := by
      rcases hdigit with ⟨-, -, rfl⟩ | ⟨-, -, rfl⟩
      · simp [← (List.cons.inj hpair').2]
      · simp [← hpair']
    exact WrittenSentence.hexDigit_not_lineEnd w'.body.low_hex (w.ending_blank _ hlow)
  have hlast' : '*' ∉ before ++ new :: after := by
    simp only [List.mem_append, List.mem_cons, not_or] at hlast ⊢
    exact ⟨hlast.1, hnew.symm, hafter⟩
  obtain ⟨-, hdata, hpair'⟩ := w'.parts_eq htag' w.lead_not_marker w.isMarker_marker hlast' h'
  have hdeclared : w'.body.declared = w.body.declared := by rw [w.verified, w'.verified, hdata]
  obtain ⟨hhigh, hlow⟩ := WrittenSentence.toLower_digits_of_declared_eq hdeclared
  rcases hdigit with ⟨rfl, rfl, -⟩ | ⟨rfl, rfl, -⟩
  · rwa [← (List.cons.inj hpair').1]
  · rwa [← (List.cons.inj (List.cons.inj hpair').2).1]

end WrittenLine

namespace Sentence

/-- One character is exchanged: one between the first marker and the last asterisk for another
of one byte, or one of the two behind the last asterisk for any that is not the same up to case. -/
inductive Corrupts : List Char → List Char → Prop
  | data {lead before after digits : List Char} {marker old new : Char}
      (hlead : ∀ c ∈ lead, ¬ isMarker c) (hmarker : isMarker marker) (hdigits : '*' ∉ digits)
      (hascii : new.toNat < 128) (hne : new ≠ old) :
      Corrupts (lead ++ marker :: ((before ++ old :: after) ++ '*' :: digits))
        (lead ++ marker :: ((before ++ new :: after) ++ '*' :: digits))
  | digit {front before after : List Char} {old new : Char} (hbefore : before.length < 2)
      (hlast : '*' ∉ before ++ old :: after) (hne : new.toLower ≠ old.toLower) :
      Corrupts (front ++ '*' :: (before ++ old :: after)) (front ++ '*' :: (before ++ new :: after))

/-- Written lines with the right checksums are not one exchanged character apart. -/
theorem not_corrupts {w w' : WrittenLine} (htag : w.tag = none) :
    ¬ Corrupts w.text.toList w'.text.toList := by
  intro h
  generalize hline : w.text.toList = line at h
  generalize hline' : w'.text.toList = line' at h
  cases h with
  | data hlead hmarker hdigits hascii hne =>
    exact hne (WrittenLine.eq_of_data htag hlead hmarker hdigits hascii hline hline')
  | digit hbefore hlast hne =>
    exact hne (WrittenLine.toLower_eq_of_digit htag hbefore hlast hline hline')

/-- A line without a tag block that is read strictly is refused when one character is
exchanged. -/
theorem strict_refuses_corrupted {line changed : String} {s : Sentence}
    (h : (parse .strict line).result = .ok s) (htag : s.tagBlock = none)
    (hchange : Corrupts line.toList changed.toList) :
    ∃ r, (parse .strict changed).result = .error r := by
  cases hresult : (parse .strict changed).result with
  | error r => exact ⟨r, rfl⟩
  | ok t =>
    obtain ⟨w, rfl, rfl⟩ := parse_strict_iff_written.mp h
    obtain ⟨w', rfl, -⟩ := parse_strict_iff_written.mp hresult
    exact absurd hchange (not_corrupts (Option.map_eq_none_iff.mp htag))

/-- An asterisk in the place of a comma, and a blank in that of a digit. -/
theorem misplaced_asterisk_refused :
    ∃ s, (parse .strict "!AIVDM,1,1,,A,1,0*17").result = .ok s ∧ s.tagBlock = none ∧
      (∃ r, (parse .strict "!AIVDM,1,1,*A,1,0*17").result = .error r) ∧
      ∃ r, (parse .strict "!AIVDM,1,1,,A,1,0*1 ").result = .error r := by
  let s : Sentence := {
    talker := "AI"
    carrier := .other
    fragmentCount := 1
    fragmentIndex := 1
    sequence := none
    channel := some 'A'
    payload := "1"
    fill := 0
    checksum := 0x17
    checksumOk := true
    tagBlock := none }
  have hline : (parse .strict "!AIVDM,1,1,,A,1,0*17").result = .ok s := by decide +kernel
  have hcomma : Corrupts "!AIVDM,1,1,,A,1,0*17".toList "!AIVDM,1,1,*A,1,0*17".toList := by
    simpa using @Corrupts.data [] "AIVDM,1,1,".toList "A,1,0".toList ['1', '7'] '!' ',' '*'
      (by simp) (by decide) (by decide) (by decide) (by decide)
  have hdigit : Corrupts "!AIVDM,1,1,,A,1,0*17".toList "!AIVDM,1,1,,A,1,0*1 ".toList := by
    simpa using @Corrupts.digit "!AIVDM,1,1,,A,1,0".toList ['1'] [] '7' ' '
      (by decide) (by decide) (by decide)
  exact ⟨s, hline, rfl, strict_refuses_corrupted hline rfl hcomma,
    strict_refuses_corrupted hline rfl hdigit⟩

end Sentence
end VesselTraffic
