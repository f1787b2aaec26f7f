import VesselTraffic.Proofs.SixBitTexts

/-!
# Padded texts

A text is written into a field with signs `@` and spaces around it, and maybe a few bits behind it that
are no whole symbol. What is read is the text alone. Whatever is read from any bits is such a text
itself, so it is read again from where it is written.
-/
namespace VesselTraffic

namespace SixBit

/-- A text that a field can hold: letters, and no space at either end. -/
structure IsText (cs : List Char) : Prop where
  letters : ∀ c ∈ cs, IsLetter c
  head : cs.head? ≠ some ' '
  last : cs.getLast? ≠ some ' '

/-- What fills a field around a text. -/
def IsPadding (c : Char) : Prop := c = '@' ∨ c = ' '

theorem isLetter_read {n : Nat} (h : n < 64) : IsLetter (read n) := by
  have key : ∀ n : Fin 64, IsLetter (read n) := by decide +kernel
  exact key ⟨n, h⟩

/-- The sign `@` reads as a space. -/
theorem isBlank_read_symbol {c : Char} (h : IsPadding c) : Text.isBlank (read (symbol c)) := by
  rcases h with rfl | rfl <;> decide

theorem isBlank_of_mem_padding {cs : List Char} (h : ∀ c ∈ cs, IsPadding c) :
    ∀ b ∈ (cs.map symbol).map read, Text.isBlank b := by
  intro b hb
  obtain ⟨n, hn, rfl⟩ := List.mem_map.mp hb
  obtain ⟨c, hc, rfl⟩ := List.mem_map.mp hn
  exact isBlank_read_symbol (h c hc)

theorem IsText.trim_eq {cs : List Char} (h : IsText cs) : Text.trim cs = cs := by
  have hfirst : ∀ c ∈ cs.head?, ¬ Text.isBlank c := by
    intro c hc hblank
    rw [isBlank_iff (h.letters c (List.mem_of_head? hc))] at hblank
    exact h.head (hblank ▸ hc)
  have hlast : ∀ c ∈ cs.getLast?, ¬ Text.isBlank c := by
    intro c hc hblank
    rw [isBlank_iff (h.letters c (List.mem_of_getLast? hc))] at hblank
    exact h.last (hblank ▸ hc)
  rw [Text.trim_eq_trimEnd hfirst]
  exact Text.trimEnd_eq_self_iff.mpr hlast

/-- What is left of some letters when the spaces at both ends are gone. -/
theorem isText_trim {cs : List Char} (h : ∀ c ∈ cs, IsLetter c) : IsText (Text.trim cs) := by
  have hletters : ∀ c ∈ Text.trim cs, IsLetter c := fun c hc => h c (Text.mem_of_mem_trim hc)
  by_cases hempty : Text.trim cs = []
  · rw [hempty]
    exact ⟨by simp, by simp, by simp⟩
  · have htrimmed := Text.isTrimmed_trim hempty
    refine ⟨hletters, fun hhead => ?_, fun hlast => ?_⟩
    · exact htrimmed.first ' ' hhead (by decide)
    · exact htrimmed.last ' ' hlast (by decide)

end SixBit

namespace BitView

variable {v : BitView} {start : Nat}

/-- A text is read from any field that holds it. -/
theorem text_of_padded (before behind : List Char) {cs : List Char} {rest : Nat}
    (hcs : SixBit.IsText cs) (hpadding : ∀ c ∈ before ++ behind, SixBit.IsPadding c) (hrest : rest < 6)
    (h : v.Holds start (SixBit.write (before ++ cs ++ behind))) :
    v.text start (start + 6 * (before ++ cs ++ behind).length + rest) = String.ofList cs := by
  obtain ⟨hbefore, hbehind⟩ := List.forall_mem_append.mp hpadding
  rw [text, symbols_add_rest _ _ _ hrest, symbols_eq_of_holds h]
  simp only [List.map_append]
  rw [Text.trim_append_blanks (SixBit.isBlank_of_mem_padding hbehind),
    Text.trim_blanks_append (SixBit.isBlank_of_mem_padding hbefore),
    SixBit.map_read_symbol hcs.letters, hcs.trim_eq]

theorem isText_text (v : BitView) (first last : Nat) : SixBit.IsText (v.text first last).toList := by
  rw [text, String.toList_ofList]
  refine SixBit.isText_trim fun c hc => ?_
  obtain ⟨n, hn, rfl⟩ := List.mem_map.mp hc
  obtain ⟨i, -, rfl⟩ := List.mem_map.mp hn
  exact SixBit.isLetter_read (v.unsigned_lt_of_le (Nat.le_refl _))

theorem length_text_le (v : BitView) (first last : Nat) :
    (v.text first last).length ≤ (last - first) / 6 := by
  have hsymbols : ((v.symbols first last).map SixBit.read).length = (last - first) / 6 := by
    simp [symbols]
  rw [text, ← String.length_toList, String.toList_ofList, ← hsymbols]
  exact Text.length_trim_le _

/-- A text is read from any place of any view where it stands with padding around it, also if the
range ends with some bits of the next symbol. Whatever is read from any range is such a text, of no
more characters than the range has room for, and written anywhere it is read again. -/
theorem text_round_trip (v : BitView) :
    (∀ (start rest : Nat) (before cs behind : List Char), SixBit.IsText cs →
      (∀ c ∈ before ++ behind, SixBit.IsPadding c) → rest < 6 →
      v.Holds start (SixBit.write (before ++ cs ++ behind)) →
      v.text start (start + 6 * (before ++ cs ++ behind).length + rest) = String.ofList cs) ∧
    ∀ first last, SixBit.IsText (v.text first last).toList ∧
      (v.text first last).length ≤ (last - first) / 6 ∧
      ∀ (w : BitView) (start : Nat),
        (w.overwrite start (SixBit.write (v.text first last).toList)).text start
          (start + 6 * (v.text first last).length) = v.text first last := by
  refine ⟨fun _ _ before _ behind => text_of_padded before behind,
    fun first last => ⟨v.isText_text first last, v.length_text_le first last, fun w start => ?_⟩⟩
  have hread := text_of_padded [] [] (v.isText_text first last) (List.forall_mem_nil _)
    (by decide : 0 < 6) (w.holds_overwrite start _)
  rwa [String.ofList_toList, List.nil_append, List.append_nil, String.length_toList, Nat.add_zero]
    at hread

/-- A name with a dash and a space in it, padding of both kinds around it, and a range that ends behind
the end of the view. -/
theorem padded_name_read :
    let before := "@ ".toList
    let name := "A-B C".toList
    let behind := " @@".toList
    let v := (tabulate 3 fun _ => true).overwrite 3 (SixBit.write (before ++ name ++ behind))
    (SixBit.IsText name ∧ (∀ c ∈ before ++ behind, SixBit.IsPadding c) ∧ 5 < 6 ∧ v.len < 68 ∧
      v.Holds 3 (SixBit.write (before ++ name ++ behind))) ∧ v.text 3 68 = "A-B C" := by
  intro before name behind v
  have hname : SixBit.IsText name :=
    ⟨SixBit.isLetter_of_all (by decide), by decide, by decide⟩
  have hpadding : ∀ c ∈ before ++ behind, SixBit.IsPadding c := by
    simp [before, behind, SixBit.IsPadding]
  have hholds := holds_overwrite (tabulate 3 fun _ => true) 3 (SixBit.write (before ++ name ++ behind))
  exact ⟨⟨hname, hpadding, by decide, by decide, hholds⟩,
    (text_round_trip v).1 3 5 before name behind hname hpadding (by decide) hholds⟩

end BitView

end VesselTraffic
