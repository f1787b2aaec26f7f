import VesselTraffic.Proofs.Grammar

/-!
# Lines with a checksum that does not match

The strict mode is the permissive one with two comparisons more: the checksum of a tag block
is compared before its parameters and the sentence behind it are read, that of the sentence
after all its fields. So the modes differ on lines with a mismatch, and a line with several
faults may be refused for different ones.
-/
namespace VesselTraffic

namespace Checksum

/-- The checksum declared behind the last asterisk of a text and that of the text before it. -/
def sums? (text : List Char) : Option (UInt8 × UInt8) := do
  let (covered, digits) ← Text.cutLast? '*' text
  let declared ← Text.hexPair? digits
  return (declared, ofText covered)

/-- Refuses a declared checksum that is not the actual one. -/
def compare : Option (UInt8 × UInt8) → Except Refusal Unit
  | none => .ok ()
  | some (declared, actual) =>
    if declared = actual then .ok () else .error (.checksumMismatch declared actual)

@[simp] theorem compare_none : compare none = .ok () := rfl

@[simp] theorem compare_self (sum : UInt8) : compare (some (sum, sum)) = .ok () := if_pos rfl

theorem compare_of_ne {declared actual : UInt8} (h : declared ≠ actual) :
    compare (some (declared, actual)) = .error (.checksumMismatch declared actual) := if_neg h

theorem compare_eq_ok_iff {sums : UInt8 × UInt8} : compare (some sums) = .ok () ↔ sums.1 = sums.2 := by
  obtain ⟨declared, actual⟩ := sums
  by_cases h : declared = actual <;> simp [compare, h]

theorem compare_cases (sums : Option (UInt8 × UInt8)) :
    compare sums = .ok () ∨ ∃ declared actual, sums = some (declared, actual) ∧ declared ≠ actual := by
  rcases sums with _ | ⟨declared, actual⟩
  · exact Or.inl compare_none
  · rw [compare_eq_ok_iff]
    exact (eq_or_ne declared actual).imp id fun hne => ⟨declared, actual, rfl, hne⟩

theorem result_verify_strict (part : CheckedPart) (declared actual : UInt8) :
    (verify .strict part declared actual).result =
      compare (some (declared, actual)) >>= fun _ => .ok true := by
  by_cases h : declared = actual
  · rw [h, verify_self, compare_self]
    rfl
  · rw [verify, if_neg h, compare_of_ne h]
    rfl

end Checksum

namespace TagBlock

theorem checksumOk_of_assign {block next : TagBlock} {key value : List Char}
    (h : block.assign key value = .ok next) : next.checksumOk = block.checksumOk := by
  unfold assign at h
  split at h <;> (try split at h) <;> cases h <;> rfl

theorem checksumOk_of_assignPiece {block next : TagBlock} {piece : List Char}
    (h : block.assignPiece piece = .ok next) : next.checksumOk = block.checksumOk := by
  unfold assignPiece at h
  split at h
  case h_1 => cases h
  case h_2 key value _ => exact checksumOk_of_assign h

/-- Parameters do not touch the verdict on the checksum. -/
theorem checksumOk_of_foldlM {pieces : List (List Char)} {block next : TagBlock}
    (h : pieces.foldlM assignPiece block = .ok next) : next.checksumOk = block.checksumOk := by
  induction pieces generalizing block with
  | nil => cases h; rfl
  | cons piece pieces ih =>
    rw [List.foldlM_cons] at h
    cases hpiece : block.assignPiece piece with
    | error flaw => rw [hpiece] at h; cases h
    | ok assigned =>
      rw [hpiece] at h
      exact (ih h).trans (checksumOk_of_assignPiece hpiece)

theorem checksumOk_of_ofPieces {parameters : List Char} {ok : Bool} {block : TagBlock}
    (h : ofPieces parameters ok = .ok block) : block.checksumOk = ok := checksumOk_of_foldlM h

theorem result_parse (mode : ChecksumMode) (text : List Char) :
    let malformed flaw := Refusal.malformedTagBlock flaw (String.ofList text)
    (parse mode text).result = match Text.cutLast? '*' text with
      | none => .error (malformed .missingChecksum)
      | some (parameters, digits) =>
        match Text.hexPair? digits with
        | none => .error (malformed .badChecksum)
        | some declared =>
          (Checksum.verify mode .tagBlock declared (Checksum.ofText parameters)).result >>= fun ok =>
            (ofPieces parameters ok).mapError malformed := by
  unfold parse
  cases Text.cutLast? '*' text with
  | none => rfl
  | some cut =>
    dsimp only
    cases Text.hexPair? cut.2 with
    | none => rfl
    | some declared => exact Outcome.result_bind _ _

/-- Strictly, the checksums are compared before anything is read. -/
theorem result_parse_strict (text : List Char) :
    (parse .strict text).result =
      Checksum.compare (Checksum.sums? text) >>= fun _ => (parse .permissive text).result := by
  rw [result_parse, result_parse]
  cases hcut : Text.cutLast? '*' text with
  | none =>
    have hsums : Checksum.sums? text = none := by simp [Checksum.sums?, hcut]
    rw [hsums]
    rfl
  | some cut =>
    cases hpair : Text.hexPair? cut.2 with
    | none =>
      have hsums : Checksum.sums? text = none := by simp [Checksum.sums?, hcut, hpair]
      rw [hsums]
      simp only [hpair]
      rfl
    | some declared =>
      have hsums : Checksum.sums? text = some (declared, Checksum.ofText cut.1) := by
        simp [Checksum.sums?, hcut, hpair]
      simp only [hpair, Checksum.result_verify_strict, Checksum.result_verify_permissive]
      rw [hsums]
      by_cases h : declared = Checksum.ofText cut.1
      · rw [h, Checksum.compare_self, beq_self_eq_true]
        rfl
      · rw [Checksum.compare_of_ne h]
        rfl

/-- The verdict on the checksum of a block that is read permissively. -/
theorem checksumOk_of_parse {text : List Char} {block : TagBlock}
    (h : (parse .permissive text).result = .ok block) :
    ∃ declared actual, Checksum.sums? text = some (declared, actual) ∧
      block.checksumOk = (declared == actual) := by
  rw [result_parse] at h
  split at h
  case h_1 => cases h
  case h_2 parameters digits hcut =>
    split at h
    case h_1 => cases h
    case h_2 declared hpair =>
      rw [Checksum.result_verify_permissive] at h
      have hpieces := Refusal.mapError_eq_ok_iff.mp h
      refine ⟨declared, Checksum.ofText parameters, ?_, checksumOk_of_ofPieces hpieces⟩
      simp [Checksum.sums?, hcut, hpair]

end TagBlock

namespace Sentence

theorem result_readTag_strict (tag : Option (List Char)) :
    (readTag .strict tag).result =
      Checksum.compare (tag.bind Checksum.sums?) >>= fun _ => (readTag .permissive tag).result := by
  cases tag with
  | none => rfl
  | some text =>
    rw [readTag, readTag, Outcome.result_bind, Outcome.result_bind, TagBlock.result_parse_strict,
      bind_assoc]
    rfl

theorem checksumOk_of_readTag {tag : Option (List Char)} {tagBlock : Option TagBlock}
    (h : (readTag .permissive tag).result = .ok tagBlock) :
    tagBlock.map TagBlock.checksumOk = (tag.bind Checksum.sums?).map fun sums => sums.1 == sums.2 := by
  cases tag with
  | none => cases h; rfl
  | some text =>
    rw [readTag, Outcome.result_bind] at h
    obtain ⟨block, hblock, ⟨⟩⟩ := Refusal.bind_eq_ok_iff.mp h
    obtain ⟨declared, actual, hsums, hok⟩ := TagBlock.checksumOk_of_parse hblock
    rw [Option.bind_some, hsums, Option.map_some, hok]
    rfl

theorem sums?_of_body? {text : List Char} {body : Body} (h : body? text = .ok body) :
    Checksum.sums? text.tail = some (body.declared, Checksum.ofText body.covered) := by
  obtain ⟨marker, inner, digits, -, rfl, hcut, hpair⟩ := body?_eq_ok_iff.mp h
  simp [Checksum.sums?, hcut, hpair]

/-- The checksums of the tag block of a line, the declared one first. -/
def tagSums? (line : String) : Option (UInt8 × UInt8) :=
  (parts? (stripped line.toList)).bind fun (tag, _) => tag.bind Checksum.sums?

/-- The checksums of the sentence of a line, which do not cover its marker. -/
def bodySums? (line : String) : Option (UInt8 × UInt8) :=
  (parts? (stripped line.toList)).bind fun (_, text) => Checksum.sums? text.tail

/-- Strictly, the checksums of a tag block are compared first and those of the sentence last. -/
theorem result_parse_strict (line : String) :
    (parse .strict line).result = do
      Checksum.compare (tagSums? line)
      let sentence ← (parse .permissive line).result
      Checksum.compare (bodySums? line)
      return sentence := by
  rw [result_parse, result_parse, tagSums?, bodySums?]
  cases parts? (stripped line.toList) with
  | none => rfl
  | some parts =>
    obtain ⟨tag, text⟩ := parts
    simp only [Option.bind_some, result_readTag_strict, bind_assoc]
    refine bind_congr fun _ => bind_congr fun tagBlock => ?_
    cases hbody : body? text with
    | error flaw => rfl
    | ok body =>
      rw [sums?_of_body? hbody]
      simp only [Checksum.result_verify_strict, Checksum.result_verify_permissive]
      change (ofBody _ tagBlock body >>= _) = (ofBody _ tagBlock body >>= _)
      refine bind_congr fun sentence => ?_
      rw [bind_assoc]
      rfl

/-- What a sentence that is read permissively tells of its checksums. -/
theorem checksums_of_parse {line : String} {s : Sentence}
    (h : (parse .permissive line).result = .ok s) :
    s.tagBlock.map TagBlock.checksumOk = (tagSums? line).map (fun sums => sums.1 == sums.2) ∧
      ∃ actual, bodySums? line = some (s.checksum, actual) ∧ s.checksumOk = (s.checksum == actual) := by
  obtain ⟨tag, text, tagBlock, hparts, htag, w, rfl, rfl⟩ := parse_permissive_eq_ok_iff.mp h
  rw [tagSums?, bodySums?, hparts, Option.bind_some, Option.bind_some]
  exact ⟨checksumOk_of_readTag htag, Checksum.ofText w.covered, sums?_of_body? w.body?_text, rfl⟩

/-- The flags of a sentence that is read permissively tell whether the comparisons succeed. -/
theorem compare_tagSums?_eq_ok_iff {line : String} {s : Sentence}
    (h : (parse .permissive line).result = .ok s) :
    Checksum.compare (tagSums? line) = .ok () ↔ ∀ block ∈ s.tagBlock, block.checksumOk := by
  have hflags := (checksums_of_parse h).1
  cases hblock : s.tagBlock with
  | none =>
    rw [hblock, Option.map_none, eq_comm, Option.map_eq_none_iff] at hflags
    simp [hflags]
  | some block =>
    rw [hblock, Option.map_some, eq_comm, Option.map_eq_some_iff] at hflags
    obtain ⟨sums, hsums, hok⟩ := hflags
    rw [hsums, Checksum.compare_eq_ok_iff, beq_iff_eq.symm, hok]
    simp

theorem compare_bodySums?_eq_ok_iff {line : String} {s : Sentence}
    (h : (parse .permissive line).result = .ok s) :
    Checksum.compare (bodySums? line) = .ok () ↔ s.checksumOk := by
  obtain ⟨-, actual, hsums, hok⟩ := checksums_of_parse h
  rw [hsums, Checksum.compare_eq_ok_iff, hok, beq_iff_eq]

/-- A mismatch in the tag block comes before every other flaw. -/
theorem parse_strict_of_tagSums? {line : String} {declared actual : UInt8}
    (hsums : tagSums? line = some (declared, actual)) (hne : declared ≠ actual) :
    (parse .strict line).result = .error (.checksumMismatch declared actual) := by
  rw [result_parse_strict, hsums, Checksum.compare_of_ne hne]
  rfl

/-- Behind a right tag block the modes differ only in the checksum of the sentence. -/
theorem parse_strict_of_compare {line : String} (h : Checksum.compare (tagSums? line) = .ok ()) :
    (parse .strict line).result = (parse .permissive line).result >>= fun s =>
      Checksum.compare (bodySums? line) >>= fun _ => .ok s := by
  rw [result_parse_strict, h]
  rfl

/-- The modes agree up to mismatches. The strict mode reads just what the permissive mode reads
without a false flag. Where a flag is false it tells of that checksum, of the tag block's
before the sentence's. Where the permissive mode refuses a line the strict mode does so too,
for the same reason or for the checksum of the tag block. -/
theorem strict_up_to_mismatch (line : String) :
    (∀ s, (parse .strict line).result = .ok s ↔ (parse .permissive line).result = .ok s ∧
      s.checksumOk ∧ ∀ block ∈ s.tagBlock, block.checksumOk) ∧
    (∀ s, (parse .permissive line).result = .ok s →
      (∀ block ∈ s.tagBlock, ¬ block.checksumOk → ∃ declared actual,
        tagSums? line = some (declared, actual) ∧ declared ≠ actual ∧
        (parse .strict line).result = .error (.checksumMismatch declared actual)) ∧
      ((∀ block ∈ s.tagBlock, block.checksumOk) → ¬ s.checksumOk → ∃ actual,
        bodySums? line = some (s.checksum, actual) ∧ s.checksum ≠ actual ∧
        (parse .strict line).result = .error (.checksumMismatch s.checksum actual))) ∧
    ∀ r, (parse .permissive line).result = .error r →
      (parse .strict line).result = .error r ∨ ∃ declared actual,
        tagSums? line = some (declared, actual) ∧ declared ≠ actual ∧
        (parse .strict line).result = .error (.checksumMismatch declared actual) := by
  refine ⟨fun s => ⟨fun hstrict => ?_, ?_⟩, fun s hs => ⟨fun block hblock hfalse => ?_, ?_⟩, ?_⟩
  · rw [result_parse_strict] at hstrict
    obtain ⟨⟨⟩, htag, hstrict⟩ := Refusal.bind_eq_ok_iff.mp hstrict
    obtain ⟨sentence, hs, hstrict⟩ := Refusal.bind_eq_ok_iff.mp hstrict
    obtain ⟨⟨⟩, hbody, ⟨⟩⟩ := Refusal.bind_eq_ok_iff.mp hstrict
    exact ⟨hs, (compare_bodySums?_eq_ok_iff hs).mp hbody, (compare_tagSums?_eq_ok_iff hs).mp htag⟩
  · rintro ⟨hs, hok, hblocks⟩
    rw [parse_strict_of_compare ((compare_tagSums?_eq_ok_iff hs).mpr hblocks), hs,
      (compare_bodySums?_eq_ok_iff hs).mpr hok]
    rfl
  · rcases Checksum.compare_cases (tagSums? line) with hcompare | ⟨declared, actual, hsums, hne⟩
    · exact absurd ((compare_tagSums?_eq_ok_iff hs).mp hcompare block hblock) hfalse
    · exact ⟨declared, actual, hsums, hne, parse_strict_of_tagSums? hsums hne⟩
  · intro hblocks hfalse
    obtain ⟨-, actual, hsums, hok⟩ := checksums_of_parse hs
    have hne : s.checksum ≠ actual := by
      intro heq
      exact hfalse (by rw [hok, heq, beq_self_eq_true])
    refine ⟨actual, hsums, hne, ?_⟩
    rw [parse_strict_of_compare ((compare_tagSums?_eq_ok_iff hs).mpr hblocks), hs, hsums,
      Checksum.compare_of_ne hne]
    rfl
  · intro r hr
    rcases Checksum.compare_cases (tagSums? line) with hcompare | ⟨declared, actual, hsums, hne⟩
    · left
      rw [parse_strict_of_compare hcompare, hr]
      rfl
    · exact Or.inr ⟨declared, actual, hsums, hne, parse_strict_of_tagSums? hsums hne⟩

-- A line with two faults: the strict mode stops at the tag block.
example : (parse .strict "\\s:x*00\\!AIVDM*00").result = .error (.checksumMismatch 0 0x31) := by
  decide +kernel

example : (parse .permissive "\\s:x*00\\!AIVDM*00").result =
    .error (.malformedSentence .fieldCount "\\s:x*00\\!AIVDM*00") := by
  decide +kernel

end Sentence
end VesselTraffic
