import VesselTraffic.Proofs.WrittenLine

/-!
# The grammar of lines

What the permissive mode reads is what can be spelled: a line is accepted just if it is
put together from the fields of a sentence, two digits for its checksum, possibly a tag
block in front, and blanks around. Each reader of a part is inverted first: what it
accepts is what the writer of that part writes.
-/
namespace VesselTraffic

/-! ## Results one after the other -/

theorem Outcome.result_bind {α β : Type} (x : Outcome α) (f : α → Outcome β) :
    (x >>= f).result = x.result >>= fun a => (f a).result := by
  obtain ⟨notices, result⟩ := x
  cases result <;> rfl

namespace Refusal

theorem bind_eq_ok_iff {α β : Type} {x : Except Refusal α} {f : α → Except Refusal β} {b : β} :
    (x >>= f) = .ok b ↔ ∃ a, x = .ok a ∧ f a = .ok b := by
  cases x with
  | error r => simp [bind, Except.bind]
  | ok a => simp [bind, Except.bind]

/-- A value that is required is there. -/
theorem require_eq_ok_iff {α : Type} {value : Option α} {r : Refusal} {a : α} :
    (match value with
      | some a => Except.ok a
      | none => Except.error r) = .ok a ↔ value = some a := by
  cases value <;> simp

theorem mapError_eq_ok_iff {ε α : Type} {x : Except ε α} {f : ε → Refusal} {a : α} :
    x.mapError f = .ok a ↔ x = .ok a := by
  cases x <;> simp [Except.mapError]

end Refusal

@[simp] theorem Checksum.result_verify_permissive (part : CheckedPart) (declared actual : UInt8) :
    (verify .permissive part declared actual).result = .ok (declared == actual) := by
  unfold verify
  split_ifs with h
  · rw [beq_iff_eq.mpr h]
    rfl
  · rw [beq_eq_false_iff_ne.mpr h]

/-! ## Fields -/

namespace Numeral

theorem exists_digit_eq {c : Char} (h : c.isDigit) : ∃ d, digit d = c := by
  simp only [Char.isDigit, Bool.and_eq_true, decide_eq_true_eq, ge_iff_le,
    UInt32.le_iff_toNat_le] at h
  obtain ⟨hleast, hmost⟩ := h
  change 48 ≤ c.toNat at hleast
  change c.toNat ≤ 57 at hmost
  refine ⟨⟨c.toNat - 48, by omega⟩, ?_⟩
  rw [digit, Nat.add_sub_cancel' hleast, Char.ofNat_toNat]

theorem exists_text_eq {cs : List Char} {b : UInt8} (h : Text.oneOrTwoDigits? cs = some b) :
    ∃ n : Numeral, n.text = cs := by
  unfold Text.oneOrTwoDigits? Text.decimal? at h
  match cs with
  | [] => simp at h
  | [c] =>
    have hc : c.isDigit := by
      by_contra hc
      simp [hc] at h
    obtain ⟨d, rfl⟩ := exists_digit_eq hc
    exact ⟨.one d, rfl⟩
  | [c, c'] =>
    have hcs : c.isDigit ∧ c'.isDigit := by
      by_contra hcs
      simp [hcs] at h
    obtain ⟨d, rfl⟩ := exists_digit_eq hcs.1
    obtain ⟨d', rfl⟩ := exists_digit_eq hcs.2
    exact ⟨.two d d', rfl⟩
  | _ :: _ :: _ :: _ => simp at h

/-- What is read as a number of one or two digits is written with them. -/
theorem oneOrTwoDigits?_eq_some_iff {cs : List Char} {b : UInt8} :
    Text.oneOrTwoDigits? cs = some b ↔ ∃ n : Numeral, n.text = cs ∧ n.byte = b := by
  constructor
  · intro h
    obtain ⟨n, rfl⟩ := exists_text_eq h
    rw [oneOrTwoDigits?_text] at h
    exact ⟨n, rfl, Option.some.inj h⟩
  · rintro ⟨n, rfl, rfl⟩
    exact n.oneOrTwoDigits?_text

end Numeral

theorem Text.hexPair?_eq_some_iff {digits : List Char} {b : UInt8} :
    hexPair? digits = some b ↔ ∃ high low, digits = [high, low] ∧ isHexDigit high ∧ isHexDigit low ∧
      UInt8.ofNat (16 * hexDigitValue high + hexDigitValue low) = b := by
  match digits with
  | [] | [_] | _ :: _ :: _ :: _ => simp [hexPair?]
  | [high, low] => simp [hexPair?, and_assoc]

theorem Carrier.ofFormatter?_eq_some_iff {text : List Char} {carrier : Carrier} :
    ofFormatter? text = some carrier ↔ text = SentenceFields.formatter carrier := by
  constructor
  · intro h
    unfold ofFormatter? at h
    split_ifs at h with hother hown <;> cases h
    · exact hother
    · exact hown
  · rintro rfl
    exact SentenceFields.ofFormatter?_formatter carrier

namespace Sentence

/-- A field that may be empty is empty or read. -/
theorem optional?_eq_some_iff {α : Type} {read : List Char → Option α} {field : List Char}
    {value : Option α} :
    optional? read field = some value ↔
      field = [] ∧ value = none ∨ field ≠ [] ∧ ∃ a, read field = some a ∧ value = some a := by
  cases field with
  | nil => simp [optional?, eq_comm]
  | cons c cs => simp [optional?, eq_comm]

theorem exists_sequence_eq {field : List Char} {value : Option UInt8}
    (h : optional? Text.oneOrTwoDigits? field = some value) :
    ∃ sequence : Option Numeral, (sequence.map Numeral.text).getD [] = field := by
  rcases optional?_eq_some_iff.mp h with ⟨rfl, -⟩ | ⟨-, b, hb, -⟩
  · exact ⟨none, rfl⟩
  · obtain ⟨n, hn, -⟩ := Numeral.oneOrTwoDigits?_eq_some_iff.mp hb
    exact ⟨some n, hn⟩

theorem channel?_eq_some_iff {field : List Char} {c : Char} :
    channel? field = some c ↔ field = [c] ∧ c.toNat < 128 := by
  match field with
  | [] | _ :: _ :: _ => simp [channel?]
  | [d] =>
    simp only [channel?, Option.ite_none_right_eq_some, Option.some.injEq, List.cons.injEq, and_true]
    constructor
    · rintro ⟨hd, rfl⟩
      exact ⟨rfl, hd⟩
    · rintro ⟨rfl, hd⟩
      exact ⟨hd, rfl⟩

theorem exists_channel_eq {field : List Char} {value : Option Char}
    (h : optional? channel? field = some value) :
    ∃ channel : Option Char, channel.toList = field ∧ ∀ c ∈ channel, c.toNat < 128 := by
  rcases optional?_eq_some_iff.mp h with ⟨rfl, -⟩ | ⟨-, c, hc, -⟩
  · exact ⟨none, rfl, by simp⟩
  · obtain ⟨rfl, hbyte⟩ := channel?_eq_some_iff.mp hc
    exact ⟨some c, rfl, by simpa using hbyte⟩

/-! ## The parts of a line -/

theorem exists_fields_of_pieces {address count index sequence channel payload fill : List Char}
    {carrier : Carrier} {n i f : UInt8} {q : Option UInt8} {c : Option Char} {marker : Char}
    (hmarker : marker = '!' ∨ marker = '$')
    (hcommas : ∀ field ∈ [address, count, index, sequence, channel, payload, fill], ',' ∉ field)
    (haddress : address.length = 5 ∧ address.all Char.isAlphanum)
    (hcarrier : Carrier.ofFormatter? (address.drop 2) = some carrier)
    (hcount : (Text.oneOrTwoDigits? count).filter (1 ≤ ·) = some n)
    (hindex : (Text.oneOrTwoDigits? index).filter (fun i => 1 ≤ i && i ≤ n) = some i)
    (hsequence : optional? Text.oneOrTwoDigits? sequence = some q)
    (hchannel : optional? channel? channel = some c)
    (hpayload : payload.all isGraphic) (hfill : Text.oneOrTwoDigits? fill = some f) :
    ∃ w : SentenceFields, w.marker = marker ∧
      w.texts = [address, count, index, sequence, channel, payload, fill] := by
  obtain ⟨hn, -⟩ := Option.filter_eq_some_iff.mp hcount
  obtain ⟨hi, hbounds⟩ := Option.filter_eq_some_iff.mp hindex
  rw [Bool.and_eq_true, decide_eq_true_eq, decide_eq_true_eq] at hbounds
  obtain ⟨count, rfl, rfl⟩ := Numeral.oneOrTwoDigits?_eq_some_iff.mp hn
  obtain ⟨index, rfl, rfl⟩ := Numeral.oneOrTwoDigits?_eq_some_iff.mp hi
  obtain ⟨fill, rfl, rfl⟩ := Numeral.oneOrTwoDigits?_eq_some_iff.mp hfill
  obtain ⟨sequence, rfl⟩ := exists_sequence_eq hsequence
  obtain ⟨channel, rfl, hbyte⟩ := exists_channel_eq hchannel
  have hformatter := Carrier.ofFormatter?_eq_some_iff.mp hcarrier
  have halphanum := List.all_eq_true.mp haddress.2
  have hgraphic := List.all_eq_true.mp hpayload
  simp only [List.mem_cons, List.not_mem_nil, or_false, forall_eq_or_imp, forall_eq] at hcommas
  obtain ⟨-, -, -, -, hchannelComma, hpayloadComma, -⟩ := hcommas
  refine ⟨{
    marker := marker
    talker := address.take 2
    carrier := carrier
    count := count
    index := index
    sequence := sequence
    channel := channel
    payload := payload
    fill := fill
    marker_eq := hmarker
    talker_length := by rw [List.length_take, haddress.1]; rfl
    talker_alphanum := fun a ha => halphanum a (List.mem_of_mem_take ha)
    index_pos := ?_
    index_le := Numeral.byte_le_byte.mp hbounds.2
    channel_byte := ?_
    payload_graphic := ?_ }, rfl, ?_⟩
  · have hpos := UInt8.le_iff_toNat_le.mp hbounds.1
    rwa [Numeral.toNat_byte] at hpos
  · intro a ha
    refine ⟨hbyte a ha, ?_⟩
    rintro rfl
    exact hchannelComma (Option.mem_toList.mpr ha)
  · intro a ha
    refine ⟨hgraphic a ha, ?_⟩
    rintro rfl
    exact hpayloadComma ha
  · rw [SentenceFields.texts, ← hformatter, List.take_append_drop]

/-- What stands between marker and checksum is accepted only if it is written from fields. -/
theorem exists_fields_of_ofBody {malformed : SentenceFlaw → Refusal} {tagBlock : Option TagBlock}
    {body : Body} {s : Sentence} {marker : Char} (hmarker : marker = '!' ∨ marker = '$')
    (h : ofBody malformed tagBlock body = .ok s) :
    ∃ w : SentenceFields, w.marker = marker ∧ w.covered = body.covered := by
  unfold ofBody at h
  split at h
  case h_2 => cases h
  case h_1 address count index sequence channel payload fill hpieces =>
    dsimp only at h
    split at h
    case isFalse => cases h
    case isTrue haddress =>
      split at h
      case h_2 => cases h
      case h_1 carrier hcarrier =>
        simp only [Refusal.bind_eq_ok_iff] at h
        obtain ⟨n, hcount, i, hindex, q, hsequence, c, hchannel, h⟩ := h
        split at h
        case isFalse => cases h
        case isTrue hpayload =>
          obtain ⟨f, hfill, -⟩ := Refusal.bind_eq_ok_iff.mp h
          have hcommas : ∀ field ∈ Text.pieces ',' body.covered, ',' ∉ field :=
            fun _ => Text.not_mem_of_mem_pieces
          obtain ⟨w, hw, htexts⟩ := exists_fields_of_pieces hmarker (hpieces ▸ hcommas) haddress
            hcarrier (Refusal.require_eq_ok_iff.mp hcount) (Refusal.require_eq_ok_iff.mp hindex)
            (Refusal.require_eq_ok_iff.mp hsequence) (Refusal.require_eq_ok_iff.mp hchannel)
            hpayload (Refusal.require_eq_ok_iff.mp hfill)
          refine ⟨w, hw, ?_⟩
          rw [SentenceFields.covered, htexts, ← hpieces, Text.intercalate_pieces]

theorem body?_cons {marker : Char} (h : marker = '!' ∨ marker = '$') (inner : List Char) :
    body? (marker :: inner) = match Text.cutLast? '*' inner with
      | none => .error .missingChecksum
      | some (covered, digits) =>
        match Text.hexPair? digits with
        | none => .error .badChecksum
        | some declared => .ok ⟨covered, declared⟩ := by
  rcases h with rfl | rfl <;> rfl

/-- Behind the marker of a body the last asterisk ends what the checksum covers. -/
theorem body?_eq_ok_iff {text : List Char} {body : Body} :
    body? text = .ok body ↔ ∃ marker inner digits, (marker = '!' ∨ marker = '$') ∧
      text = marker :: inner ∧ Text.cutLast? '*' inner = some (body.covered, digits) ∧
      Text.hexPair? digits = some body.declared := by
  constructor
  · intro h
    have hmarker : ∃ marker inner, (marker = '!' ∨ marker = '$') ∧ text = marker :: inner := by
      unfold body? at h
      split at h
      case h_1 inner => exact ⟨'!', inner, Or.inl rfl, rfl⟩
      case h_2 inner => exact ⟨'$', inner, Or.inr rfl, rfl⟩
      case h_3 => cases h
    obtain ⟨marker, inner, hmarker, rfl⟩ := hmarker
    rw [body?_cons hmarker] at h
    split at h
    case h_1 => cases h
    case h_2 covered digits hcut =>
      split at h
      case h_1 => cases h
      case h_2 declared hpair =>
        cases h
        exact ⟨marker, inner, digits, hmarker, rfl, hcut, hpair⟩
  · rintro ⟨marker, inner, digits, hmarker, rfl, hcut, hpair⟩
    simp only [body?_cons hmarker, hcut, hpair]

/-- A body is accepted only if it ends with an asterisk and two digits. -/
theorem exists_digits_of_body? {text : List Char} {body : Body} (h : body? text = .ok body) :
    ∃ marker high low, (marker = '!' ∨ marker = '$') ∧ Text.isHexDigit high ∧ Text.isHexDigit low ∧
      text = marker :: (body.covered ++ ['*', high, low]) := by
  obtain ⟨marker, inner, digits, hmarker, rfl, hcut, hpair⟩ := body?_eq_ok_iff.mp h
  obtain ⟨high, low, rfl, hhigh, hlow, -⟩ := Text.hexPair?_eq_some_iff.mp hpair
  refine ⟨marker, high, low, hmarker, hhigh, hlow, ?_⟩
  rw [(Text.cutLast?_eq_some_iff.mp hcut).1]

/-- A text is read as a sentence just if it is written as one. -/
theorem ofBody_eq_ok_iff {malformed : SentenceFlaw → Refusal} {tagBlock : Option TagBlock}
    {text : List Char} {s : Sentence} :
    (∃ body, body? text = .ok body ∧ ofBody malformed tagBlock body = .ok s) ↔
      ∃ w : WrittenSentence, w.text = text ∧ w.sentence tagBlock = s := by
  constructor
  · rintro ⟨body, hbody, hs⟩
    obtain ⟨marker, high, low, hmarker, hhigh, hlow, rfl⟩ := exists_digits_of_body? hbody
    obtain ⟨fields, rfl, hcovered⟩ := exists_fields_of_ofBody hmarker hs
    let w : WrittenSentence :=
      { toSentenceFields := fields, high := high, low := low, high_hex := hhigh, low_hex := hlow }
    have htext : w.text = fields.marker :: (body.covered ++ ['*', high, low]) := by
      rw [WrittenSentence.text, ← hcovered]
    refine ⟨w, htext, ?_⟩
    -- Only the text has been recovered: that it stands for `s` follows from reading it again.
    rw [← htext, w.body?_text] at hbody
    rw [← Except.ok.inj hbody, w.ofBody_text malformed tagBlock] at hs
    exact Except.ok.inj hs
  · rintro ⟨w, rfl, rfl⟩
    exact ⟨_, w.body?_text, w.ofBody_text malformed tagBlock⟩

/-- The text of a tag block in front, if there is one, and what follows. -/
def parts? : List Char → Option (Option (List Char) × List Char)
  | '\\' :: rest => (Text.cutFirst? '\\' rest).map fun (tag, text) => (some tag, text)
  | line => some (none, line)

theorem parts?_of_ne {line : List Char} (h : ∀ rest, line ≠ '\\' :: rest) :
    parts? line = some (none, line) := by
  unfold parts?
  split
  case h_1 rest => exact absurd rfl (h rest)
  case h_2 => rfl

/-- The parts are those of a sentence behind a tag block. -/
theorem parts?_eq_some_iff {line : List Char} {tag : Option (List Char)} (w : WrittenSentence) :
    parts? line = some (tag, w.text) ↔ line = w.behind tag ∧ ∀ inner ∈ tag, '\\' ∉ inner := by
  constructor
  · intro h
    unfold parts? at h
    split at h
    case h_1 rest =>
      obtain ⟨cut, hcut, hparts⟩ := Option.map_eq_some_iff.mp h
      obtain ⟨rfl, htext⟩ := Prod.mk.inj hparts
      obtain ⟨hrest, hinner⟩ := Text.cutFirst?_eq_some_iff.mp hcut
      rw [htext] at hrest
      refine ⟨by rw [hrest]; rfl, ?_⟩
      rintro inner ⟨⟩
      exact hinner
    case h_2 =>
      obtain ⟨rfl, hline⟩ := Prod.mk.inj (Option.some.inj h)
      exact ⟨hline, by simp⟩
  · rintro ⟨rfl, htag⟩
    cases tag with
    | none =>
      refine parts?_of_ne fun rest hrest => ?_
      have hfirst : w.marker = '\\' := (List.cons.inj hrest).1
      rcases w.marker_eq with hmarker | hmarker <;>
        exact absurd (hmarker.symm.trans hfirst) (by decide)
    | some inner => rw [WrittenSentence.behind, parts?, Text.cutFirst?_append (htag inner rfl)]; rfl

/-- The tag block, if there is a text of one, is read. -/
def readTag (mode : ChecksumMode) : Option (List Char) → Outcome (Option TagBlock)
  | none => pure none
  | some tag => do return some (← TagBlock.parse mode tag)

theorem leadingTagBlock_eq (mode : ChecksumMode) (malformed : SentenceFlaw → Refusal)
    (line : List Char) :
    leadingTagBlock mode malformed line = match parts? line with
      | none => .refuse (malformed .unterminatedTagBlock)
      | some (tag, text) => do return (← readTag mode tag, text) := by
  by_cases h : ∃ rest, line = '\\' :: rest
  · obtain ⟨rest, rfl⟩ := h
    cases hcut : Text.cutFirst? '\\' rest with
    | none => simp only [leadingTagBlock, parts?, hcut, Option.map_none]
    | some cut =>
      simp only [leadingTagBlock, parts?, hcut, Option.map_some, readTag]
      cases hread : TagBlock.parse mode cut.1 with
      | mk notices result => cases result <;> simp [bind, Outcome.andThen, pure]
  · rw [not_exists] at h
    rw [parts?_of_ne h]
    unfold leadingTagBlock
    split
    case h_1 rest => exact absurd rfl (h rest)
    case h_2 => rfl

/-- The tag block, the body and its fields are read one after the other, and then the
checksum is verified. -/
theorem result_parse (mode : ChecksumMode) (line : String) :
    let malformed flaw := Refusal.malformedSentence flaw (String.ofList (stripped line.toList))
    (parse mode line).result = match parts? (stripped line.toList) with
      | none => .error (malformed .unterminatedTagBlock)
      | some (tag, text) => do
        let tagBlock ← (readTag mode tag).result
        let body ← (body? text).mapError malformed
        let sentence ← ofBody malformed tagBlock body
        let _ ← (Checksum.verify mode .sentence body.declared (Checksum.ofText body.covered)).result
        return sentence := by
  intro malformed
  unfold parse
  rw [Outcome.result_bind, leadingTagBlock_eq]
  cases parts? (stripped line.toList) with
  | none => rfl
  | some parts =>
    simp only [Outcome.result_bind, bind_assoc]
    rfl

theorem parse_permissive_eq_ok_iff {line : String} {s : Sentence} :
    (parse .permissive line).result = .ok s ↔
      ∃ tag text tagBlock, parts? (stripped line.toList) = some (tag, text) ∧
        (readTag .permissive tag).result = .ok tagBlock ∧
        ∃ w : WrittenSentence, w.text = text ∧ w.sentence tagBlock = s := by
  rw [result_parse]
  constructor
  · intro h
    cases hparts : parts? (stripped line.toList) with
    | none => rw [hparts] at h; cases h
    | some parts =>
      rw [hparts] at h
      simp only [Refusal.bind_eq_ok_iff, Refusal.mapError_eq_ok_iff] at h
      obtain ⟨tagBlock, htag, body, hbody, sentence, hs, -, -, ⟨⟩⟩ := h
      exact ⟨parts.1, parts.2, tagBlock, rfl, htag, ofBody_eq_ok_iff.mp ⟨body, hbody, hs⟩⟩
  · rintro ⟨tag, text, tagBlock, hparts, htag, hw⟩
    obtain ⟨body, hbody, hs⟩ := ofBody_eq_ok_iff.mpr hw
    rw [hparts]
    simp only [Refusal.bind_eq_ok_iff, Refusal.mapError_eq_ok_iff]
    exact ⟨tagBlock, htag, body, hbody, s, hs, _, Checksum.result_verify_permissive .., rfl⟩

end Sentence

/-! ## Lines -/

/-- The text of a tag block that the permissive mode reads, without the backslashes around it. -/
structure SpelledTag where
  text : List Char
  block : TagBlock
  backslash_not_mem : '\\' ∉ text
  read : (TagBlock.parse .permissive text).result = .ok block

/-- A line as it is spelled, whether or not its checksums are right. -/
structure SpelledLine where
  lead : List Char
  tag : Option SpelledTag
  body : WrittenSentence
  ending : List Char
  lead_blank : ∀ c ∈ lead, Text.isBlank c
  ending_blank : ∀ c ∈ ending, Sentence.isLineEnd c

namespace SpelledLine

variable (w : SpelledLine)

def text : String :=
  String.ofList (w.lead ++ w.body.behind (w.tag.map SpelledTag.text) ++ w.ending)

/-- The sentence that the line stands for. -/
def sentence : Sentence := w.body.sentence (w.tag.map SpelledTag.block)

theorem stripped_text :
    Sentence.stripped w.text.toList = w.body.behind (w.tag.map SpelledTag.text) := by
  rw [text, String.toList_ofList]
  exact w.body.stripped_behind _ w.lead_blank w.ending_blank

theorem parts?_text : Sentence.parts? (Sentence.stripped w.text.toList) =
    some (w.tag.map SpelledTag.text, w.body.text) := by
  rw [stripped_text]
  refine (Sentence.parts?_eq_some_iff w.body).mpr ⟨rfl, ?_⟩
  intro inner hinner
  obtain ⟨tag, -, rfl⟩ := Option.map_eq_some_iff.mp hinner
  exact tag.backslash_not_mem

theorem readTag_text : (Sentence.readTag .permissive (w.tag.map SpelledTag.text)).result =
    .ok (w.tag.map SpelledTag.block) := by
  cases w.tag with
  | none => rfl
  | some tag =>
    rw [Option.map_some, Sentence.readTag, Outcome.result_bind, tag.read]
    rfl

theorem parse_text : (Sentence.parse .permissive w.text).result = .ok w.sentence :=
  Sentence.parse_permissive_eq_ok_iff.mpr
    ⟨_, _, _, w.parts?_text, w.readTag_text, w.body, rfl, rfl⟩

end SpelledLine

namespace Sentence

/-- What `stripped` drops is white space. -/
theorem exists_stripped_eq (line : List Char) : ∃ lead ending,
    line = lead ++ stripped line ++ ending ∧ (∀ c ∈ lead, Text.isBlank c) ∧
      ∀ c ∈ ending, isLineEnd c := by
  obtain ⟨ending, hline, hending⟩ := Text.exists_trimEnd_eq isLineEnd line
  obtain ⟨lead, hcore, hlead⟩ := Text.exists_trimStart_eq Text.isBlank (Text.trimEnd isLineEnd line)
  refine ⟨lead, ending, ?_, hlead, hending⟩
  rw [stripped, ← hcore]
  exact hline

theorem exists_tag_of_readTag {tag : Option (List Char)} {tagBlock : Option TagBlock}
    (hbackslash : ∀ inner ∈ tag, '\\' ∉ inner)
    (h : (readTag .permissive tag).result = .ok tagBlock) :
    ∃ spelled : Option SpelledTag, spelled.map SpelledTag.text = tag ∧
      spelled.map SpelledTag.block = tagBlock := by
  cases tag with
  | none => cases h; exact ⟨none, rfl, rfl⟩
  | some inner =>
    rw [readTag, Outcome.result_bind] at h
    obtain ⟨block, hblock, ⟨⟩⟩ := Refusal.bind_eq_ok_iff.mp h
    exact ⟨some ⟨inner, block, hbackslash inner rfl, hblock⟩, rfl, rfl⟩

/-- A line is read permissively just if it is spelled, and as the sentence that it spells. -/
theorem parse_permissive_iff_spelled {line : String} {s : Sentence} :
    (parse .permissive line).result = .ok s ↔ ∃ w : SpelledLine, w.text = line ∧ w.sentence = s := by
  constructor
  · intro h
    obtain ⟨tag, text, tagBlock, hparts, htag, body, rfl, rfl⟩ := parse_permissive_eq_ok_iff.mp h
    obtain ⟨hstripped, hbackslash⟩ := (parts?_eq_some_iff body).mp hparts
    obtain ⟨tag, rfl, rfl⟩ := exists_tag_of_readTag hbackslash htag
    obtain ⟨lead, ending, hline, hlead, hending⟩ := exists_stripped_eq line.toList
    refine ⟨⟨lead, tag, body, ending, hlead, hending⟩, ?_, rfl⟩
    rw [SpelledLine.text, ← hstripped, ← hline, String.ofList_toList]
  · rintro ⟨w, rfl, rfl⟩
    exact w.parse_text

end Sentence
end VesselTraffic
