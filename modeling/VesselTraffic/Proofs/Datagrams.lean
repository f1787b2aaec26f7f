import VesselTraffic.Proofs.Noise

/-!
# Cutting and repairing

A file is cut into lines before they are repaired, a datagram is repaired before it is cut. That
makes no difference: a line feed continues no character, and no line feed is read from bytes
without one. What the two cuts do with a carriage return at the end of a line or with an empty
last line does not matter either, since lines are trimmed and empty ones left out. So a file and
a datagram of the same bytes have the same lines.
-/
namespace VesselTraffic

namespace Text.Utf8

/-! ### A line feed is read from its own byte only -/

/-- The number of the character will not be below 128, whatever bytes continue it. -/
def Unfinished.IsLong (u : Unfinished) : Prop :=
  2 ≤ u.bits ∨ u.missing ≠ 0 ∧ 2 ≤ 64 * u.bits + (u.low.toNat - 0x80)

theorem isLong_of_opening {b : UInt8} {u : Unfinished} (h : opening b = .rest u) : u.IsLong := by
  -- After 0xe0 and 0xf0 there are no bits yet, but the least byte that may follow has some.
  unfold opening at h
  repeat' split at h
  all_goals simp only [reduceCtorEq, Opening.rest.injEq] at h
  all_goals subst h
  all_goals
    simp only [Unfinished.IsLong, UInt8.lt_iff_toNat_lt, ← UInt8.toNat_inj, UInt8.reduceToNat] at *
  all_goals omega

theorem isLong_first (b : UInt8) : ∀ u ∈ (first b).2, u.IsLong := by
  intro u hu
  rw [first] at hu
  split at hu
  case h_2 v hopening =>
    cases hu
    exact isLong_of_opening hopening
  all_goals cases hu

theorem isLong_step {state : Option Unfinished} (hstate : ∀ u ∈ state, u.IsLong) (b : UInt8) :
    ∀ u ∈ (step state b).2, u.IsLong := by
  cases state with
  | none => exact isLong_first b
  | some v =>
    intro u hu
    have hv : v.IsLong := hstate v rfl
    rw [step, within] at hu
    split_ifs at hu with hb
    · have hlow : v.low.toNat ≤ b.toNat := UInt8.le_iff_toNat_le.mp hb.1
      split at hu
      · contradiction
      · simp only [Option.mem_def, Option.some.injEq] at hu
        subst hu
        refine .inl ?_
        change 2 ≤ 64 * v.bits + (b.toNat - 0x80)
        unfold Unfinished.IsLong at hv
        omega
    · exact isLong_first b u hu

theorem eq_of_ofNat_eq_lineFeed {n : Nat} (h : Char.ofNat n = '\n') : n = 10 := by
  by_cases hn : n.isValidChar
  · rw [Char.ofNat, dif_pos hn] at h
    exact congrArg Char.toNat h
  · rw [Char.ofNat, dif_neg hn] at h
    cases h

theorem lineFeed_of_mem_first {b : UInt8} (h : some '\n' ∈ (first b).1) : b = 0x0a := by
  rw [first] at h
  split at h
  case h_1 c hopening =>
    obtain rfl : '\n' = c := Option.some.inj (List.mem_singleton.mp h)
    unfold opening at hopening
    split at hopening
    · have hbyte := eq_of_ofNat_eq_lineFeed (Opening.whole.inj hopening)
      exact UInt8.toNat_inj.mp hbyte
    · repeat' split at hopening
      all_goals simp only [reduceCtorEq] at hopening
  all_goals simp at h

/-- Inside a character a line feed is not read, since the number is too large. -/
theorem lineFeed_of_mem_step {state : Option Unfinished} (hstate : ∀ u ∈ state, u.IsLong)
    {b : UInt8} (h : some '\n' ∈ (step state b).1) : b = 0x0a := by
  cases state with
  | none => exact lineFeed_of_mem_first h
  | some u =>
    have hu : u.IsLong := hstate u rfl
    rw [step, within] at h
    split_ifs at h
    · split at h
      case h_1 hmissing =>
        have hnumber := eq_of_ofNat_eq_lineFeed (Option.some.inj (List.mem_singleton.mp h)).symm
        unfold Unfinished.IsLong at hu
        omega
      case h_2 => cases h
    · refine lineFeed_of_mem_first ?_
      simpa only [List.mem_cons, reduceCtorEq, false_or] using h

theorem lineFeed_of_mem_run {state : Option Unfinished} (hstate : ∀ u ∈ state, u.IsLong)
    {bytes : List UInt8} (h : some '\n' ∈ run state bytes) : 0x0a ∈ bytes := by
  induction bytes generalizing state with
  | nil => cases state <;> simp [run] at h
  | cons b bytes ih =>
    rw [run_cons, List.mem_append] at h
    rcases h with hstep | hrest
    · exact List.mem_cons.mpr (.inl (lineFeed_of_mem_step hstate hstep).symm)
    · exact List.mem_cons_of_mem b (ih (isLong_step hstate b) hrest)

theorem lineFeed_of_mem_repaired {bytes : List UInt8} (h : '\n' ∈ repaired bytes) :
    0x0a ∈ bytes := by
  obtain ⟨item, hitem, hchar⟩ := List.mem_map.mp h
  cases item with
  | none => cases hchar
  | some c =>
    obtain rfl : c = '\n' := hchar
    have hnone : ∀ u ∈ (none : Option Unfinished), u.IsLong := nofun
    exact lineFeed_of_mem_run hnone hitem

/-! ### Repairing the pieces -/

theorem repaired_append_lineFeed (as bs : List UInt8) :
    repaired (as ++ 0x0a :: bs) = repaired as ++ '\n' :: repaired bs := by
  rw [repaired_append (.inl (by decide))]
  exact congrArg (repaired as ++ ·) (repaired_encode_append ['\n'] bs)

theorem repaired_intercalate {p : List UInt8} (ps : List (List UInt8)) :
    repaired (List.intercalate [0x0a] (p :: ps)) =
      List.intercalate ['\n'] ((p :: ps).map repaired) := by
  induction ps generalizing p with
  | nil => rw [List.intercalate_singleton, List.map_singleton, List.intercalate_singleton]
  | cons q ps ih =>
    rw [List.intercalate_cons_cons, List.append_assoc, List.singleton_append,
      repaired_append_lineFeed, ih, List.map_cons, List.map_cons, List.map_cons,
      List.intercalate_cons_cons, List.append_assoc, List.singleton_append]

/-- The lines of repaired bytes are the lines of the bytes, repaired. -/
theorem pieces_repaired (bytes : List UInt8) :
    pieces '\n' (repaired bytes) = (pieces 0x0a bytes).map repaired := by
  have hnot : ∀ q ∈ (pieces 0x0a bytes).map repaired, '\n' ∉ q := by
    intro q hq hmem
    obtain ⟨p, hp, rfl⟩ := List.mem_map.mp hq
    exact not_mem_of_mem_pieces hp (lineFeed_of_mem_repaired hmem)
  have hjoined := intercalate_pieces 0x0a bytes
  cases hpieces : pieces 0x0a bytes with
  | nil => exact absurd hpieces (pieces_ne_nil _ bytes)
  | cons p ps =>
    rw [hpieces] at hnot hjoined
    rw [← hjoined, repaired_intercalate ps]
    exact pieces_intercalate hnot

end Text.Utf8

/-! ## The lines of a file and of a datagram -/

namespace Feed

open Text

theorem clean?_dropReturn (line : List Char) : clean? (dropReturn line) = clean? line := by
  rw [dropReturn]
  split_ifs with h
  · obtain ⟨front, rfl⟩ := List.getLast?_eq_some_iff.mp h
    have hblank : ∀ c ∈ ['\r'], isBlank c := by simp [isBlank]
    rw [List.dropLast_concat]
    exact (clean?_congr (trim_append_blanks hblank front)).symm
  · rfl

/-- Cleaned, the lines of a text are its pieces between line feeds. -/
theorem filterMap_clean?_linesOf (cs : List Char) :
    (linesOf cs).filterMap clean? = (pieces '\n' cs).filterMap clean? := by
  have hended : ∀ ps : List (List Char),
      (ps.map dropReturn).filterMap clean? = ps.filterMap clean? := by
    intro ps
    rw [List.filterMap_map]
    exact congrArg (List.filterMap · ps) (funext clean?_dropReturn)
  obtain ⟨ps, last, hpieces⟩ : ∃ ps last, pieces '\n' cs = ps ++ [last] :=
    ⟨_, _, (List.dropLast_append_getLast (pieces_ne_nil '\n' cs)).symm⟩
  rw [linesOf, hpieces, List.dropLast_concat, List.getLast?_concat, List.filterMap_append]
  cases last with
  | nil =>
    have hempty : [([] : List Char)].filterMap clean? = [] := rfl
    rw [hempty, List.append_nil]
    exact hended ps
  | cons c rest =>
    rw [List.filterMap_append, hended]

/-- However the bytes are cut into lines and whatever in them is no text, a file and a datagram
give the same lines. -/
theorem fileLines_eq_datagramLines (bytes : List UInt8) : fileLines bytes = datagramLines bytes := by
  have hmap : ∀ lines : List (List Char),
      lines.filterMap (fun line => (clean? line).map String.ofList) =
        (lines.filterMap clean?).map String.ofList := by
    intro lines
    rw [List.map_filterMap]
  calc fileLines bytes
      = ((pieces lineFeed bytes).map Utf8.repaired).filterMap
          (fun line => (clean? line).map String.ofList) := by rw [List.filterMap_map]; rfl
    _ = ((pieces '\n' (Utf8.repaired bytes)).filterMap clean?).map String.ofList := by
        rw [Utf8.pieces_repaired, hmap]; rfl
    _ = datagramLines bytes := by rw [← filterMap_clean?_linesOf, ← hmap]; rfl

end Feed

end VesselTraffic
