import Mathlib.Tactic.Common
import VesselTraffic.Text.Blank
import VesselTraffic.Text.Split

/-!
# Cutting and trimming what was put together

Texts joined by a separator that stands in none of them are found again by cutting,
and blanks put around a text are found again by trimming.
-/
namespace VesselTraffic.Text

theorem pieces_ne_nil {α : Type} [DecidableEq α] (sep : α) (as : List α) : pieces sep as ≠ [] := by
  induction as with
  | nil => simp
  | cons a as ih =>
    rw [pieces_cons]
    cases h : pieces sep as with
    | nil => exact absurd h ih
    | cons p ps =>
      rw [addToPieces]
      split <;> simp

theorem pieces_of_not_mem {α : Type} [DecidableEq α] {sep : α} {as : List α} (h : sep ∉ as) :
    pieces sep as = [as] := by
  induction as with
  | nil => rfl
  | cons a as ih =>
    obtain ⟨hne, has⟩ := not_or.mp (mt List.mem_cons.mpr h)
    rw [pieces_cons, ih has, addToPieces, if_neg (Ne.symm hne)]

theorem addToPieces_append {α : Type} [DecidableEq α] (sep a : α) {ps : List (List α)}
    (h : ps ≠ []) (qs : List (List α)) :
    addToPieces sep a (ps ++ qs) = addToPieces sep a ps ++ qs := by
  cases ps with
  | nil => exact absurd rfl h
  | cons p ps =>
    rw [List.cons_append, addToPieces, addToPieces]
    split <;> rfl

/-- Cutting at one separator first makes no difference. -/
theorem pieces_append_sep {α : Type} [DecidableEq α] (sep : α) (as bs : List α) :
    pieces sep (as ++ sep :: bs) = pieces sep as ++ pieces sep bs := by
  induction as with
  | nil =>
    rw [List.nil_append, pieces_cons]
    cases hbs : pieces sep bs with
    | nil => exact absurd hbs (pieces_ne_nil sep bs)
    | cons p ps => rw [addToPieces, if_pos rfl]; rfl
  | cons a as ih =>
    rw [List.cons_append, pieces_cons, ih, addToPieces_append sep a (pieces_ne_nil sep as),
      pieces_cons]

theorem pieces_append {α : Type} [DecidableEq α] {sep : α} {as : List α} (h : sep ∉ as)
    (bs : List α) : pieces sep (as ++ sep :: bs) = as :: pieces sep bs := by
  rw [pieces_append_sep, pieces_of_not_mem h]
  rfl

/-- Texts joined by a separator are the pieces between the separators. -/
theorem pieces_intercalate {α : Type} [DecidableEq α] {sep : α} {p : List α} {ps : List (List α)}
    (h : ∀ q ∈ p :: ps, sep ∉ q) : pieces sep (List.intercalate [sep] (p :: ps)) = p :: ps := by
  induction ps generalizing p with
  | nil =>
    rw [List.intercalate_singleton]
    exact pieces_of_not_mem (h p (by simp))
  | cons q ps ih =>
    have htail := ih fun r hr => h r (List.mem_cons_of_mem p hr)
    rw [List.intercalate_cons_cons, List.append_assoc]
    exact (pieces_append (h p (by simp)) _).trans (congrArg (p :: ·) htail)

/-- No texts, joined, have one empty piece; otherwise the pieces are the texts. -/
theorem filter_pieces_intercalate {α : Type} [DecidableEq α] {sep : α} {ps : List (List α)}
    (h : ∀ p ∈ ps, sep ∉ p) :
    (pieces sep (List.intercalate [sep] ps)).filter (!·.isEmpty) = ps.filter (!·.isEmpty) := by
  cases ps with
  | nil => rfl
  | cons p ps => rw [pieces_intercalate h]

/-- The pieces of a text, joined again, are the text. -/
theorem intercalate_pieces {α : Type} [DecidableEq α] (sep : α) (as : List α) :
    List.intercalate [sep] (pieces sep as) = as := by
  induction as with
  | nil => rfl
  | cons a as ih =>
    rw [pieces_cons]
    cases h : pieces sep as with
    | nil => exact absurd h (pieces_ne_nil sep as)
    | cons p ps =>
      rw [h] at ih
      rw [addToPieces]
      split
      next ha => rw [List.intercalate_cons_cons, ih, ha]; rfl
      next =>
        cases ps with
        | nil => rw [List.intercalate_singleton] at ih ⊢; rw [ih]
        | cons q ps => rw [List.intercalate_cons_cons] at ih ⊢; rw [← ih]; rfl

theorem not_mem_of_mem_pieces {α : Type} [DecidableEq α] {sep : α} {as p : List α}
    (h : p ∈ pieces sep as) : sep ∉ p := by
  induction as generalizing p with
  | nil => rw [pieces_nil, List.mem_singleton] at h; rw [h]; exact List.not_mem_nil
  | cons a as ih =>
    rw [pieces_cons] at h
    cases hpieces : pieces sep as with
    | nil => exact absurd hpieces (pieces_ne_nil sep as)
    | cons q qs =>
      rw [hpieces] at h ih
      rw [addToPieces] at h
      split at h
      case isTrue =>
        rcases List.mem_cons.mp h with rfl | hmem
        · exact List.not_mem_nil
        · exact ih hmem
      case isFalse ha =>
        rcases List.mem_cons.mp h with rfl | hmem
        · exact List.not_mem_cons_of_ne_of_not_mem (Ne.symm ha) (ih List.mem_cons_self)
        · exact ih (List.mem_cons_of_mem q hmem)

/-- What stands in joined texts is the separator or stands in one of them. -/
theorem mem_of_mem_intercalate {α : Type} {sep a : α} {ps : List (List α)}
    (h : a ∈ List.intercalate [sep] ps) : a = sep ∨ ∃ p ∈ ps, a ∈ p := by
  induction ps with
  | nil => cases h
  | cons p ps ih =>
    cases ps with
    | nil => exact Or.inr ⟨p, List.mem_singleton_self p, by simpa using h⟩
    | cons q qs =>
      rw [List.intercalate_cons_cons, List.mem_append, List.mem_append, List.mem_singleton] at h
      rcases h with (hp | rfl) | hqs
      · exact Or.inr ⟨p, List.mem_cons_self, hp⟩
      · exact Or.inl rfl
      · exact (ih hqs).imp id fun ⟨r, hr, hmem⟩ => ⟨r, List.mem_cons_of_mem p hr, hmem⟩

theorem cutFirst?_append {sep : Char} {as : List Char} (h : sep ∉ as) (bs : List Char) :
    cutFirst? sep (as ++ sep :: bs) = some (as, bs) := by
  induction as with
  | nil => rw [List.nil_append, cutFirst?, if_pos rfl]
  | cons a as ih =>
    obtain ⟨hne, has⟩ := not_or.mp (mt List.mem_cons.mpr h)
    rw [List.cons_append, cutFirst?, if_neg (Ne.symm hne), ih has]
    rfl

theorem cutLast?_append {sep : Char} (as : List Char) {bs : List Char} (h : sep ∉ bs) :
    cutLast? sep (as ++ sep :: bs) = some (as, bs) := by
  induction as with
  | nil => rw [List.nil_append, cutLast?, (cutLast?_eq_none_iff sep bs).mpr h, if_pos rfl]
  | cons a as ih => rw [List.cons_append, cutLast?, ih]

theorem cutFirst?_eq_some_iff {sep : Char} {cs as bs : List Char} :
    cutFirst? sep cs = some (as, bs) ↔ cs = as ++ sep :: bs ∧ sep ∉ as := by
  constructor
  · intro h
    induction cs generalizing as with
    | nil => cases h
    | cons c cs ih =>
      rw [cutFirst?] at h
      split at h
      case isTrue hc =>
        cases h
        exact ⟨by rw [hc, List.nil_append], List.not_mem_nil⟩
      case isFalse hc =>
        obtain ⟨parts, hparts, hcons⟩ := Option.map_eq_some_iff.mp h
        cases hcons
        obtain ⟨hcs, hnot⟩ := ih hparts
        exact ⟨by rw [hcs, List.cons_append], List.not_mem_cons_of_ne_of_not_mem (Ne.symm hc) hnot⟩
  · rintro ⟨rfl, h⟩
    exact cutFirst?_append h bs

theorem cutLast?_eq_some_iff {sep : Char} {cs as bs : List Char} :
    cutLast? sep cs = some (as, bs) ↔ cs = as ++ sep :: bs ∧ sep ∉ bs := by
  constructor
  · intro h
    induction cs generalizing as with
    | nil => cases h
    | cons c cs ih =>
      rw [cutLast?] at h
      split at h
      case h_1 hparts =>
        cases h
        obtain ⟨hcs, hnot⟩ := ih hparts
        exact ⟨by rw [hcs, List.cons_append], hnot⟩
      case h_2 hnone =>
        split at h
        case isTrue hc =>
          cases h
          exact ⟨by rw [hc, List.nil_append], (cutLast?_eq_none_iff sep _).mp hnone⟩
        case isFalse => cases h
  · rintro ⟨rfl, h⟩
    exact cutLast?_append as h

theorem trimStart_append {p : Char → Bool} {blanks : List Char} (h : ∀ c ∈ blanks, p c)
    (cs : List Char) : trimStart p (blanks ++ cs) = trimStart p cs := by
  induction blanks with
  | nil => rfl
  | cons b blanks ih =>
    rw [List.cons_append, trimStart, List.dropWhile_cons_of_pos (h b (by simp))]
    exact ih fun c hc => h c (List.mem_cons_of_mem _ hc)

theorem trimStart_cons {p : Char → Bool} {c : Char} (h : ¬ p c) (cs : List Char) :
    trimStart p (c :: cs) = c :: cs := by
  rw [trimStart, List.dropWhile_cons_of_neg h]

theorem trimStart_append_cons {p : Char → Bool} {c : Char} (h : ¬ p c) (as bs : List Char) :
    trimStart p (as ++ c :: bs) = trimStart p as ++ c :: bs := by
  induction as with
  | nil => exact trimStart_cons h bs
  | cons a as ih =>
    rw [List.cons_append]
    by_cases ha : p a
    · have hskip : ∀ cs, trimStart p (a :: cs) = trimStart p cs :=
        fun cs => List.dropWhile_cons_of_pos ha
      rw [hskip, hskip, ih]
    · rw [trimStart_cons ha, trimStart_cons ha, List.cons_append]

theorem trimStart_concat {p : Char → Bool} {c : Char} (h : ¬ p c) (cs : List Char) :
    trimStart p (cs ++ [c]) = trimStart p cs ++ [c] := trimStart_append_cons h cs []

theorem trimEnd_append_cons {p : Char → Bool} {c : Char} (h : ¬ p c) (as bs : List Char) :
    trimEnd p (as ++ c :: bs) = as ++ c :: trimEnd p bs := by
  have hreverse : (as ++ c :: bs).reverse = bs.reverse ++ c :: as.reverse := by simp
  have hstart := trimStart_append_cons h bs.reverse as.reverse
  rw [trimStart, trimStart] at hstart
  rw [trimEnd, trimEnd, hreverse, hstart]
  simp

theorem trimEnd_append {p : Char → Bool} {blanks : List Char} (h : ∀ c ∈ blanks, p c)
    (cs : List Char) : trimEnd p (cs ++ blanks) = trimEnd p cs := by
  rw [trimEnd, List.reverse_append]
  exact congrArg List.reverse (trimStart_append (fun c hc => h c (List.mem_reverse.mp hc)) cs.reverse)

theorem trimEnd_concat {p : Char → Bool} {c : Char} (h : ¬ p c) (cs : List Char) :
    trimEnd p (cs ++ [c]) = cs ++ [c] := trimEnd_append_cons h cs []

theorem trimEnd_cons {p : Char → Bool} {c : Char} (h : ¬ p c) (cs : List Char) :
    trimEnd p (c :: cs) = c :: trimEnd p cs := trimEnd_append_cons h [] cs

theorem exists_trimStart_eq (p : Char → Bool) (cs : List Char) :
    ∃ blanks, cs = blanks ++ trimStart p cs ∧ ∀ c ∈ blanks, p c :=
  ⟨cs.takeWhile p, List.takeWhile_append_dropWhile.symm, List.all_eq_true.mp List.all_takeWhile⟩

theorem exists_trimEnd_eq (p : Char → Bool) (cs : List Char) :
    ∃ blanks, cs = trimEnd p cs ++ blanks ∧ ∀ c ∈ blanks, p c := by
  obtain ⟨blanks, hcs, hblanks⟩ := exists_trimStart_eq p cs.reverse
  refine ⟨blanks.reverse, ?_, fun c hc => hblanks c (List.mem_reverse.mp hc)⟩
  rw [trimEnd, ← List.reverse_append]
  exact List.reverse_eq_iff.mp hcs

theorem trimStart_eq_self_iff {p : Char → Bool} {cs : List Char} :
    trimStart p cs = cs ↔ ∀ c ∈ cs.head?, ¬ p c := by
  cases cs with
  | nil => simp [trimStart]
  | cons c cs =>
    simp only [List.head?_cons, Option.mem_def, Option.some.injEq, forall_eq']
    refine ⟨fun h hc => ?_, fun h => trimStart_cons h cs⟩
    have hle := (List.dropWhile_suffix p (l := cs)).length_le
    rw [trimStart, List.dropWhile_cons_of_pos hc] at h
    rw [h, List.length_cons] at hle
    omega

theorem trimEnd_eq_self_iff {p : Char → Bool} {cs : List Char} :
    trimEnd p cs = cs ↔ ∀ c ∈ cs.getLast?, ¬ p c := by
  rw [← List.head?_reverse, ← trimStart_eq_self_iff, trimEnd, List.reverse_eq_iff, trimStart]

/-- Two texts trimmed where they meet join as they are if there is nothing to trim. -/
theorem trimEnd_append_trimStart_eq_iff {p : Char → Bool} {as bs : List Char} :
    trimEnd p as ++ trimStart p bs = as ++ bs ↔ trimEnd p as = as ∧ trimStart p bs = bs := by
  refine ⟨fun h => ?_, fun ⟨has, hbs⟩ => by rw [has, hbs]⟩
  obtain ⟨behind, has, -⟩ := exists_trimEnd_eq p as
  obtain ⟨front, hbs, -⟩ := exists_trimStart_eq p bs
  have hlengths := congrArg List.length h
  have hlengthAs := congrArg List.length has
  have hlengthBs := congrArg List.length hbs
  simp only [List.length_append] at hlengths hlengthAs hlengthBs
  exact List.append_inj h (by omega)

/-- White space in front of a text goes. -/
theorem trim_blanks_append {blanks : List Char} (h : ∀ c ∈ blanks, isBlank c) (cs : List Char) :
    trim (blanks ++ cs) = trim cs := by
  rw [trim, trimStart_append h, trim]

/-- White space behind a text goes. -/
theorem trim_append_blanks {blanks : List Char} (h : ∀ c ∈ blanks, isBlank c) (cs : List Char) :
    trim (cs ++ blanks) = trim cs := by
  rw [trim, trimStart, List.dropWhile_append]
  split
  next hempty =>
    have hblanks : blanks.dropWhile isBlank = [] := by
      rw [← List.append_nil blanks]
      exact trimStart_append h []
    rw [trim, trimStart, hblanks, List.isEmpty_iff.mp hempty]
  next => rw [trimEnd_append h, trim, trimStart]

/-- Behind a text that does not end in white space nothing is trimmed. -/
theorem trim_concat {c : Char} (h : ¬ isBlank c) (cs : List Char) :
    trim (cs ++ [c]) = trimStart isBlank cs ++ [c] := by
  rw [trim, trimStart_concat h, trimEnd_concat h]

theorem trim_eq_trimEnd {cs : List Char} (h : ∀ c ∈ cs.head?, ¬ isBlank c) :
    trim cs = trimEnd isBlank cs := by
  rw [trim, trimStart_eq_self_iff.mpr h]

theorem trim_eq_trimStart {cs : List Char} (h : ∀ c ∈ cs.getLast?, ¬ isBlank c) :
    trim cs = trimStart isBlank cs := by
  rcases cs.eq_nil_or_concat with rfl | ⟨cs, c, rfl⟩
  · rfl
  · have hc : ¬ isBlank c := h c (by simp)
    rw [List.concat_eq_append, trim_concat hc, trimStart_concat hc]

/-- The last character of a text counts, unless it is white space. -/
theorem trim_concat_inj {cs : List Char} {c d : Char} :
    trim (cs ++ [c]) = trim (cs ++ [d]) ↔ c = d ∨ isBlank c ∧ isBlank d := by
  have hshort : ∀ c d, ¬ isBlank c → isBlank d → trim (cs ++ [c]) ≠ trim (cs ++ [d]) := by
    intro c d hc hd h
    obtain ⟨behind, htrim, -⟩ := exists_trimEnd_eq isBlank (trimStart isBlank cs)
    rw [trim_concat hc, trim_append_blanks (by simpa using hd), trim] at h
    have hlength := congrArg List.length h
    have hlength' := congrArg List.length htrim
    simp only [List.length_append, List.length_singleton] at hlength hlength'
    omega
  by_cases hc : isBlank c <;> by_cases hd : isBlank d
  · refine iff_of_true ?_ (.inr ⟨hc, hd⟩)
    rw [trim_append_blanks (by simpa using hc), trim_append_blanks (by simpa using hd)]
  · exact iff_of_false (hshort d c hd hc).symm (by rintro (rfl | ⟨-, h⟩) <;> contradiction)
  · exact iff_of_false (hshort c d hc hd) (by rintro (rfl | ⟨h, -⟩) <;> contradiction)
  · rw [trim_concat hc, trim_concat hd, List.append_cancel_left_eq, List.singleton_inj]
    simp [hc]

/-- A text with something in it and no white space at either end. -/
structure IsTrimmed (cs : List Char) : Prop where
  ne_nil : cs ≠ []
  first : ∀ c ∈ cs.head?, ¬ isBlank c
  last : ∀ c ∈ cs.getLast?, ¬ isBlank c

namespace IsTrimmed

variable {as bs cs : List Char}

theorem of_forall (hne : cs ≠ []) (h : ∀ c ∈ cs, ¬ isBlank c) : IsTrimmed cs where
  ne_nil := hne
  first c hc := h c (List.mem_of_head? hc)
  last c hc := h c (List.mem_of_getLast? hc)

theorem trim_eq (h : IsTrimmed cs) : trim cs = cs := by
  rw [trim_eq_trimEnd h.first]
  exact trimEnd_eq_self_iff.mpr h.last

theorem getLast?_append (h : IsTrimmed cs) (front : List Char) :
    (front ++ cs).getLast? = cs.getLast? := by
  have hlast := List.getLast?_eq_some_getLast h.ne_nil
  rw [List.getLast?_append, hlast, Option.some_or]

/-- What stands between two texts does not matter. -/
theorem append (has : IsTrimmed as) (hbs : IsTrimmed bs) (cs : List Char) :
    IsTrimmed (as ++ (cs ++ bs)) where
  ne_nil := List.append_ne_nil_of_left_ne_nil has.ne_nil _
  first := by
    obtain ⟨a, as, rfl⟩ := List.exists_cons_of_ne_nil has.ne_nil
    exact has.first
  last := by
    rw [← List.append_assoc, hbs.getLast?_append]
    exact hbs.last

end IsTrimmed

/-! ### What is left of a trimmed text -/

theorem head?_trimStart (p : Char → Bool) (cs : List Char) :
    ∀ c ∈ (trimStart p cs).head?, ¬ p c := by
  intro c hc
  have hfirst := List.head?_dropWhile_not p cs
  rw [trimStart] at hc
  rw [hc] at hfirst
  exact Bool.eq_false_iff.mp hfirst

theorem getLast?_trimEnd (p : Char → Bool) (cs : List Char) :
    ∀ c ∈ (trimEnd p cs).getLast?, ¬ p c := by
  intro c hc
  rw [trimEnd, List.getLast?_reverse] at hc
  exact head?_trimStart p cs.reverse c hc

/-- What is left of a text has no white space at either end. -/
theorem isTrimmed_trim {cs : List Char} (h : trim cs ≠ []) : IsTrimmed (trim cs) where
  ne_nil := h
  first := by
    cases hstart : trimStart isBlank cs with
    | nil => rw [trim, hstart]; simp [trimEnd]
    | cons a as =>
      have ha : ¬ isBlank a := head?_trimStart isBlank cs a (by rw [hstart]; rfl)
      rw [trim, hstart, trimEnd_cons ha]
      rintro c ⟨⟩
      exact ha
  last := getLast?_trimEnd isBlank (trimStart isBlank cs)

theorem trim_trimStart (cs : List Char) : trim (trimStart isBlank cs) = trim cs := by
  obtain ⟨blanks, hcs, hblanks⟩ := exists_trimStart_eq isBlank cs
  rw [← trim_blanks_append hblanks, ← hcs]

theorem trim_trimEnd (cs : List Char) : trim (trimEnd isBlank cs) = trim cs := by
  obtain ⟨blanks, hcs, hblanks⟩ := exists_trimEnd_eq isBlank cs
  rw [← trim_append_blanks hblanks, ← hcs]

/-- It does not matter which end is trimmed first. -/
theorem trimStart_trimEnd (cs : List Char) : trimStart isBlank (trimEnd isBlank cs) = trim cs := by
  rw [← trim_eq_trimStart (getLast?_trimEnd isBlank cs), trim_trimEnd]

/-- What is trimmed at either end stops at a character that is not white space. -/
theorem trim_append_cons {c : Char} (h : ¬ isBlank c) (as bs : List Char) :
    trim (as ++ c :: bs) = trimStart isBlank as ++ c :: trimEnd isBlank bs := by
  rw [trim, trimStart_append_cons h, trimEnd_append_cons h]

theorem exists_trim_eq (cs : List Char) :
    ∃ front behind, cs = front ++ trim cs ++ behind ∧ ∀ c ∈ front ++ behind, isBlank c := by
  obtain ⟨front, hcs, hfront⟩ := exists_trimStart_eq isBlank cs
  obtain ⟨behind, hrest, hbehind⟩ := exists_trimEnd_eq isBlank (trimStart isBlank cs)
  refine ⟨front, behind, ?_, List.forall_mem_append.mpr ⟨hfront, hbehind⟩⟩
  rw [List.append_assoc, trim, ← hrest, ← hcs]

theorem mem_of_mem_trim {c : Char} {cs : List Char} (h : c ∈ trim cs) : c ∈ cs := by
  obtain ⟨front, behind, hcs, -⟩ := exists_trim_eq cs
  rw [hcs]
  exact List.mem_append_left behind (List.mem_append_right front h)

theorem length_trim_le (cs : List Char) : (trim cs).length ≤ cs.length := by
  obtain ⟨front, behind, hcs, -⟩ := exists_trim_eq cs
  have hlength := congrArg List.length hcs
  rw [List.length_append, List.length_append] at hlength
  omega

/-! ## Lines -/

/-- A text that is found again when it has a line to itself. -/
structure IsLine (cs : List Char) : Prop where
  not_mem : '\n' ∉ cs
  getLast?_ne : cs.getLast? ≠ some '\r'

instance (cs : List Char) : Decidable (IsLine cs) :=
  decidable_of_iff ('\n' ∉ cs ∧ cs.getLast? ≠ some '\r')
    ⟨fun h => ⟨h.1, h.2⟩, fun h => ⟨h.not_mem, h.getLast?_ne⟩⟩

theorem IsLine.dropReturn_eq {line : List Char} (h : IsLine line) : dropReturn line = line :=
  if_neg h.getLast?_ne

/-- A line feed behind each of some lines, and they are the lines of the text. -/
theorem linesOf_intercalate {p : List Char} {ps : List (List Char)} (h : ∀ q ∈ p :: ps, IsLine q) :
    linesOf (List.intercalate ['\n'] (p :: ps) ++ ['\n']) = p :: ps := by
  have hends : (p :: ps).map dropReturn = p :: ps := by
    refine (List.map_congr_left fun q hq => ?_).trans (List.map_id _)
    exact (h q hq).dropReturn_eq
  rw [linesOf, pieces_append_sep, pieces_intercalate fun q hq => (h q hq).not_mem, pieces_nil,
    List.dropLast_concat, List.getLast?_concat]
  exact hends

theorem not_mem_of_mem_linesOf {cs line : List Char} (h : line ∈ linesOf cs) : '\n' ∉ line := by
  have hdropped : line ∈ (pieces '\n' cs).dropLast.map dropReturn → '\n' ∉ line := by
    intro hline
    obtain ⟨piece, hpiece, rfl⟩ := List.mem_map.mp hline
    have hnot : '\n' ∉ piece := not_mem_of_mem_pieces (List.dropLast_subset _ hpiece)
    rw [dropReturn]
    split
    · exact fun hmem => hnot (List.dropLast_subset _ hmem)
    · exact hnot
  rw [linesOf] at h
  split at h
  case h_1 c rest hlast =>
    rcases List.mem_append.mp h with hline | hline
    · exact hdropped hline
    · rw [List.mem_singleton.mp hline]
      exact not_mem_of_mem_pieces (List.mem_of_getLast? hlast)
  case h_2 => exact hdropped h

end VesselTraffic.Text
