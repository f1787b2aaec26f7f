import VesselTraffic.Feed
import VesselTraffic.Proofs.Grammar
import VesselTraffic.Proofs.Modes

/-!
# Lines that were cleaned

Cleaning takes every kind of white space off both ends of a line and leaves out comments. A sentence
allows white space of any kind in front of it, but only spaces, tabs and line ends behind it. So no
line that is read is lost or read otherwise once it is clean, and what cleaning makes readable
are the lines with other white space at their end.
-/
namespace VesselTraffic

/-! ## What is left of a line -/

theorem Feed.clean?_eq_some_iff {line cleaned : List Char} :
    clean? line = some cleaned ↔
      Text.trim line = cleaned ∧ cleaned ≠ [] ∧ cleaned.head? ≠ some '#' := by
  rw [clean?]
  split
  case h_1 htrim =>
    rw [htrim]
    refine iff_of_false (by simp) ?_
    rintro ⟨rfl, hne, -⟩
    exact hne rfl
  case h_2 rest htrim =>
    rw [htrim]
    refine iff_of_false (by simp) ?_
    rintro ⟨rfl, -, hhead⟩
    exact hhead rfl
  case h_3 hne hcomment =>
    constructor
    · rintro ⟨⟩
      refine ⟨rfl, hne, fun hhead => ?_⟩
      obtain ⟨rest, hrest⟩ := List.head?_eq_some_iff.mp hhead
      exact hcomment rest hrest
    · rintro ⟨rfl, -, -⟩
      rfl

theorem Sentence.isBlank_of_isLineEnd {c : Char} (h : isLineEnd c) : Text.isBlank c := by
  simp only [isLineEnd, Bool.or_eq_true, decide_eq_true_eq] at h
  rcases h with ((rfl | rfl) | rfl) | rfl <;> decide

/-- A text without white space at its ends stays as it is. -/
theorem Sentence.stripped_of_isTrimmed {line : List Char} (h : Text.IsTrimmed line) :
    stripped line = line := by
  have hend : Text.trimEnd isLineEnd line = line :=
    Text.trimEnd_eq_self_iff.mpr fun c hc hlineEnd => h.last c hc (isBlank_of_isLineEnd hlineEnd)
  rw [stripped, hend]
  exact Text.trimStart_eq_self_iff.mpr h.first

/-! ## Sentences -/

namespace WrittenSentence

variable (w : WrittenSentence)

theorem hexDigit_not_isBlank {c : Char} (h : Text.isHexDigit c) : ¬ Text.isBlank c := by
  have hrange : 48 ≤ c.toNat ∧ c.toNat ≤ 102 := by
    simp only [Text.isHexDigit, Char.isDigit, Char.le_def, UInt32.le_iff_toNat_le, Bool.or_eq_true,
      Bool.and_eq_true, decide_eq_true_eq, ge_iff_le] at h
    change ((48 ≤ c.toNat ∧ c.toNat ≤ 57) ∨ 97 ≤ c.toNat ∧ c.toNat ≤ 102) ∨
      65 ≤ c.toNat ∧ c.toNat ≤ 70 at h
    omega
  simp [Text.isBlank]
  omega

theorem isTrimmed_behind (tag : Option (List Char)) : Text.IsTrimmed (w.behind tag) := by
  obtain ⟨c, rest, hfirst, hblank⟩ := w.behind_eq_cons tag
  obtain ⟨init, hlast⟩ := w.behind_eq_concat tag
  constructor
  · rw [hfirst]
    exact List.cons_ne_nil c rest
  · rw [hfirst]
    rintro a ⟨⟩
    exact hblank
  · rw [hlast, List.getLast?_concat]
    rintro a ⟨⟩
    exact hexDigit_not_isBlank w.low_hex

/-- A sentence is no comment, with a tag block in front or without. -/
theorem head?_behind_ne (tag : Option (List Char)) : (w.behind tag).head? ≠ some '#' := by
  cases tag with
  | none =>
    have hhead : (w.behind none).head? = some w.marker := rfl
    rw [hhead]
    rcases w.marker_eq with hmarker | hmarker <;> rw [hmarker] <;> decide
  | some tag => simp [behind]

end WrittenSentence

namespace SpelledLine

variable (w : SpelledLine)

theorem trim_text : Text.trim w.text.toList = w.body.behind (w.tag.map SpelledTag.text) := by
  have hending : ∀ c ∈ w.ending, Text.isBlank c :=
    fun c hc => Sentence.isBlank_of_isLineEnd (w.ending_blank c hc)
  rw [text, String.toList_ofList, Text.trim_append_blanks hending, Text.trim_blanks_append w.lead_blank]
  exact (w.body.isTrimmed_behind _).trim_eq

/-- Of what stands around a sentence nothing is left. -/
theorem clean?_text :
    Feed.clean? w.text.toList = some (w.body.behind (w.tag.map SpelledTag.text)) :=
  Feed.clean?_eq_some_iff.mpr
    ⟨w.trim_text, (w.body.isTrimmed_behind _).ne_nil, w.body.head?_behind_ne _⟩

/-- Whatever kinds of white space are dropped behind a sentence, if those that it allows are among
them and no digit is, what is left is the same. -/
theorem trimEnd_text {p : Char → Bool} (hlineEnd : ∀ c, Sentence.isLineEnd c → p c)
    (hdigit : ∀ c, Text.isHexDigit c → ¬ p c) :
    Text.trimEnd p w.text.toList = w.lead ++ w.body.behind (w.tag.map SpelledTag.text) := by
  obtain ⟨init, hlast⟩ := w.body.behind_eq_concat (w.tag.map SpelledTag.text)
  rw [text, String.toList_ofList,
    Text.trimEnd_append fun c hc => hlineEnd c (w.ending_blank c hc), hlast, ← List.append_assoc]
  exact Text.trimEnd_concat (hdigit _ w.body.low_hex) _

end SpelledLine

namespace Sentence

theorem exists_spelled_of_parse {mode : ChecksumMode} {line : String} {s : Sentence}
    (h : (parse mode line).result = .ok s) : ∃ w : SpelledLine, w.text = line := by
  have hpermissive : (parse .permissive line).result = .ok s := by
    cases mode with
    | strict => rw [carries_parse .permissive line s h]
    | permissive => exact h
  obtain ⟨w, htext, -⟩ := parse_permissive_iff_spelled.mp hpermissive
  exact ⟨w, htext⟩

/-- All that counts of a line is what is stripped out of it. -/
theorem parse_congr {line line' : String} (h : stripped line.toList = stripped line'.toList)
    (mode : ChecksumMode) : parse mode line = parse mode line' := by
  unfold parse
  rw [h]

/-- All white space behind the text of a line is of the kinds that a sentence allows there. -/
def EndsPlainly (line : List Char) : Prop :=
  Text.trimEnd isLineEnd line = Text.trimEnd Text.isBlank line

instance (line : List Char) : Decidable (EndsPlainly line) :=
  inferInstanceAs (Decidable (Text.trimEnd isLineEnd line = Text.trimEnd Text.isBlank line))

theorem EndsPlainly.stripped_eq {line : List Char} (h : EndsPlainly line) :
    stripped line = Text.trim line := by
  rw [stripped, h, Text.trimStart_trimEnd]

theorem endsPlainly_text (w : SpelledLine) : EndsPlainly w.text.toList := by
  rw [EndsPlainly, w.trimEnd_text (fun _ => id) fun _ => WrittenSentence.hexDigit_not_lineEnd,
    w.trimEnd_text (fun _ => isBlank_of_isLineEnd) fun _ => WrittenSentence.hexDigit_not_isBlank]

/-- A line that ends plainly is read as what cleaning leaves of it. -/
theorem parse_cleaned {line : String} {cleaned : List Char} (hends : EndsPlainly line.toList)
    (hclean : Feed.clean? line.toList = some cleaned) (mode : ChecksumMode) :
    parse mode (String.ofList cleaned) = parse mode line := by
  obtain ⟨rfl, hne, -⟩ := Feed.clean?_eq_some_iff.mp hclean
  refine parse_congr ?_ mode
  rw [String.toList_ofList, stripped_of_isTrimmed (Text.isTrimmed_trim hne), hends.stripped_eq]

/-- Whatever is read in either mode is still there when the line is clean, and is read as the same
sentence with the same notices. Cleaning makes no other line readable that ends plainly. -/
theorem parse_eq_ok_iff_cleaned (mode : ChecksumMode) (line : String) (s : Sentence) :
    (parse mode line).result = .ok s ↔ EndsPlainly line.toList ∧
      ∃ cleaned, Feed.clean? line.toList = some cleaned ∧
        parse mode (String.ofList cleaned) = ⟨(parse mode line).notices, .ok s⟩ := by
  constructor
  · intro h
    obtain ⟨w, rfl⟩ := exists_spelled_of_parse h
    refine ⟨endsPlainly_text w, _, w.clean?_text, ?_⟩
    rw [parse_cleaned (endsPlainly_text w) w.clean?_text mode, ← h]
  · rintro ⟨hends, cleaned, hclean, hparse⟩
    rw [← parse_cleaned hends hclean mode, hparse]

/-- With a no-break space behind its text a line does not end plainly. In front of it that does not
matter. -/
example : ¬ EndsPlainly "!x*00\u00a0".toList ∧ EndsPlainly "\u00a0!x*00\r\n".toList := by decide

end Sentence

end VesselTraffic
