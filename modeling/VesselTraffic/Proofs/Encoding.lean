import Mathlib.Tactic.IntervalCases
import VesselTraffic.Text.Utf8

/-!
# Where characters begin

A byte that continues no character ends what was unfinished before it. So at such a byte a
text can be cut and its parts read apart, and characters that are written at either end of
any bytes are read back, whatever is malformed in between.
-/
namespace VesselTraffic.Text

/-! ## Characters of one byte -/

theorem utf8Size_eq_one {c : Char} (h : c.toNat < 128) : c.utf8Size = 1 := by
  have hle : c.val ≤ 0x7f := UInt32.le_iff_toNat_le.mpr (Nat.le_of_lt_succ h)
  exact if_pos hle

theorem toNat_lt_of_isAlphanum {c : Char} (h : c.isAlphanum) : c.toNat < 128 := by
  have upTo {last : UInt32} (hlast : last.toNat < 128) (hc : c.val ≤ last) : c.toNat < 128 :=
    Nat.lt_of_le_of_lt (UInt32.le_iff_toNat_le.mp hc) hlast
  rcases (Bool.or_eq_true c.isAlpha c.isDigit).mp h with halpha | hdigit
  · rcases (Bool.or_eq_true c.isUpper c.isLower).mp halpha with hupper | hlower
    · exact upTo (by decide) (of_decide_eq_true hupper).2
    · exact upTo (by decide) (of_decide_eq_true ((Bool.and_eq_true _ _).mp hlower).2)
  · exact upTo (by decide) (of_decide_eq_true ((Bool.and_eq_true _ _).mp hdigit).2)

namespace Utf8

/-! ## One character -/

theorem opening_one {n : Nat} (hmost : n < 128) : opening (UInt8.ofNat n) = .whole (Char.ofNat n) := by
  have hbyte : (UInt8.ofNat n).toNat = n := by
    rw [UInt8.toNat_ofNat']
    exact Nat.mod_eq_of_lt (by omega)
  have hlt : UInt8.ofNat n < 0x80 := by
    rw [UInt8.lt_iff_toNat_lt, hbyte]
    exact hmost
  rw [opening, if_pos hlt, hbyte]

theorem opening_two {n : Nat} (hleast : 2 ≤ n) (hmost : n < 32) :
    opening (UInt8.ofNat (n + 192)) = .rest ⟨n, 0, 0x80, 0xbf⟩ := by
  interval_cases n <;> rfl

theorem opening_three {n : Nat} (hmost : n < 16) :
    opening (UInt8.ofNat (n + 224)) =
      .rest ⟨n, 1, if n = 0 then 0xa0 else 0x80, if n = 13 then 0x9f else 0xbf⟩ := by
  interval_cases n <;> rfl

theorem opening_four {n : Nat} (hmost : n < 5) :
    opening (UInt8.ofNat (n + 240)) =
      .rest ⟨n, 2, if n = 0 then 0x90 else 0x80, if n = 4 then 0x8f else 0xbf⟩ := by
  interval_cases n <;> rfl

/-- The byte that carries the last six bits of a number inside a character. -/
def sixBits (n : Nat) : UInt8 := UInt8.ofNat (n % 64 + 128)

theorem toNat_sixBits (n : Nat) : (sixBits n).toNat = n % 64 + 128 := by
  rw [sixBits, UInt8.toNat_ofNat']
  omega

theorem least_le_sixBits (n : Nat) : (0x80 : UInt8).toNat ≤ n % 64 + 128 := Nat.le_add_left 128 _

theorem sixBits_le_most (n : Nat) : n % 64 + 128 ≤ (0xbf : UInt8).toNat :=
  Nat.add_le_add_right (Nat.le_of_lt_succ (Nat.mod_lt n (by decide))) 128

theorem within_sixBits {u : Unfinished} {n : Nat} (hlow : u.low.toNat ≤ n % 64 + 128)
    (hhigh : n % 64 + 128 ≤ u.high.toNat) :
    within u (sixBits n) = match u.missing with
      | 0 => ([some (Char.ofNat (64 * u.bits + n % 64))], none)
      | m + 1 => ([], some ⟨64 * u.bits + n % 64, m, 0x80, 0xbf⟩) := by
  have hbyte : u.low ≤ sixBits n ∧ sixBits n ≤ u.high := by
    rw [UInt8.le_iff_toNat_le, UInt8.le_iff_toNat_le, toNat_sixBits]
    exact ⟨hlow, hhigh⟩
  have hvalue : (sixBits n).toNat - 128 = n % 64 := by rw [toNat_sixBits, Nat.add_sub_cancel]
  unfold within
  cases u.missing with
  | zero => rw [if_pos hbyte, hvalue]
  | succ m => rw [if_pos hbyte, hvalue]

theorem run_whole {b : UInt8} {c : Char} (h : opening b = .whole c) (bytes : List UInt8) :
    run none (b :: bytes) = some c :: run none bytes := by
  simp only [run, step, first, h, List.singleton_append]

theorem run_rest {b : UInt8} {u : Unfinished} (h : opening b = .rest u) (bytes : List UInt8) :
    run none (b :: bytes) = run (some u) bytes := by
  simp only [run, step, first, h, List.nil_append]

/-- The last byte inside a character ends it. -/
theorem run_last {bits n : Nat} {low high : UInt8} (hlow : low.toNat ≤ n % 64 + 128)
    (hhigh : n % 64 + 128 ≤ high.toNat) (bytes : List UInt8) :
    run (some ⟨bits, 0, low, high⟩) (sixBits n :: bytes) =
      some (Char.ofNat (64 * bits + n % 64)) :: run none bytes := by
  have hwithin : within ⟨bits, 0, low, high⟩ (sixBits n) = _ := within_sixBits hlow hhigh
  simp only [run, step, hwithin, List.singleton_append]

theorem run_further {bits missing n : Nat} {low high : UInt8} (hlow : low.toNat ≤ n % 64 + 128)
    (hhigh : n % 64 + 128 ≤ high.toNat) (bytes : List UInt8) :
    run (some ⟨bits, missing + 1, low, high⟩) (sixBits n :: bytes) =
      run (some ⟨64 * bits + n % 64, missing, 0x80, 0xbf⟩) bytes := by
  have hwithin : within ⟨bits, missing + 1, low, high⟩ (sixBits n) = _ :=
    within_sixBits hlow hhigh
  simp only [run, step, hwithin, List.nil_append]

/-- A character that is written is read back, whatever follows. -/
theorem run_utf8EncodeChar (c : Char) (bytes : List UInt8) :
    run none (String.utf8EncodeChar c ++ bytes) = some c :: run none bytes := by
  have hvalid : c.toNat < 0xd800 ∨ 0xdfff < c.toNat ∧ c.toNat < 0x110000 := c.valid
  have hchar : Char.ofNat c.toNat = c := Char.ofNat_toNat c
  have hval : c.val.toNat = c.toNat := rfl
  generalize c.toNat = v at *
  simp only [String.utf8EncodeChar, hval]
  split_ifs with hone htwo hthree
  · rw [List.singleton_append, run_whole (opening_one (by omega)), hchar]
  · have hbits : 64 * (v / 64 % 32) + v % 64 = v := by omega
    rw [List.cons_append, run_rest (opening_two (by omega) (by omega)), List.singleton_append,
      ← sixBits, run_last (least_le_sixBits _) (sixBits_le_most _), hbits, hchar]
  -- The bounds of the second byte keep out surrogates and what two bytes would do for.
  · have hbits : 64 * (64 * (v / 4096 % 16) + v / 64 % 64) + v % 64 = v := by omega
    rw [List.cons_append, run_rest (opening_three (by omega)), List.cons_append,
      List.singleton_append, ← sixBits, ← sixBits, run_further ?_ ?_,
      run_last (least_le_sixBits _) (sixBits_le_most _), hbits, hchar]
    · split_ifs
      · simp only [UInt8.reduceToNat]
        omega
      · exact least_le_sixBits _
    · split_ifs
      · simp only [UInt8.reduceToNat]
        omega
      · exact sixBits_le_most _
  · have hbits : 64 * (64 * (64 * (v / 262144 % 8) + v / 4096 % 64) + v / 64 % 64) + v % 64 = v := by
      omega
    rw [List.cons_append, run_rest (opening_four (by omega)), List.cons_append, List.cons_append,
      List.singleton_append, ← sixBits, ← sixBits, ← sixBits, run_further ?_ ?_,
      run_further (least_le_sixBits _) (sixBits_le_most _),
      run_last (least_le_sixBits _) (sixBits_le_most _), hbits, hchar]
    · split_ifs
      · simp only [UInt8.reduceToNat]
        omega
      · exact least_le_sixBits _
    · split_ifs
      · simp only [UInt8.reduceToNat]
        omega
      · exact sixBits_le_most _

/-- A byte of the first 128 stands for itself wherever it stands in written text. -/
theorem eq_of_mem_utf8EncodeChar {b : UInt8} {c : Char} (hb : b < 0x80)
    (h : b ∈ String.utf8EncodeChar c) : c = Char.ofNat b.toNat := by
  have hlt : b.toNat < 128 := UInt8.lt_iff_toNat_lt.mp hb
  have hval : c.val.toNat = c.toNat := rfl
  have hhigh : ∀ n : Nat, 128 ≤ n → n < 256 → b ≠ UInt8.ofNat n := by
    rintro n hleast hmost rfl
    rw [UInt8.toNat_ofNat'] at hlt
    omega
  simp only [String.utf8EncodeChar, hval] at h
  split_ifs at h with hone <;> simp only [List.mem_cons, List.not_mem_nil, or_false] at h
  · have hbyte : b.toNat = c.toNat := by
      rw [h, UInt8.toNat_ofNat']
      omega
    rw [hbyte, Char.ofNat_toNat]
  · rcases h with h | h <;> exact absurd h (hhigh _ (by omega) (by omega))
  · rcases h with h | h | h <;> exact absurd h (hhigh _ (by omega) (by omega))
  · rcases h with h | h | h | h <;> exact absurd h (hhigh _ (by omega) (by omega))

/-! ## A cut where a character begins -/

/-- A byte that continues no character. -/
def Begins (b : UInt8) : Prop := b < 0x80 ∨ 0xbf < b

theorem exists_begins (c : Char) : ∃ b rest, String.utf8EncodeChar c = b :: rest ∧ Begins b := by
  have hvalid : c.toNat < 0xd800 ∨ 0xdfff < c.toNat ∧ c.toNat < 0x110000 := c.valid
  have hval : c.val.toNat = c.toNat := rfl
  simp only [String.utf8EncodeChar, hval, Begins, UInt8.lt_iff_toNat_lt]
  split_ifs
  · exact ⟨_, _, rfl, .inl (by simp; omega)⟩
  all_goals exact ⟨_, _, rfl, .inr (by rw [UInt8.toNat_ofNat']; simp; omega)⟩

/-- Only a byte that continues a character can be the next of an unfinished one. -/
structure Unfinished.IsProper (u : Unfinished) : Prop where
  least : 0x80 ≤ u.low
  most : u.high ≤ 0xbf

theorem isProper_first (b : UInt8) : ∀ u ∈ (first b).2, u.IsProper := by
  intro u hu
  unfold first opening at hu
  split_ifs at hu <;> simp only [Option.mem_def, reduceCtorEq, Option.some.injEq] at hu <;>
    exact hu ▸ ⟨of_decide_eq_true rfl, of_decide_eq_true rfl⟩

theorem isProper_step (state : Option Unfinished) (b : UInt8) :
    ∀ u ∈ (step state b).2, u.IsProper := by
  cases state with
  | none => exact isProper_first b
  | some v =>
    intro u hu
    rw [step, within] at hu
    split_ifs at hu
    · split at hu
      · contradiction
      · simp only [Option.mem_def, Option.some.injEq] at hu
        rw [← hu]
        exact ⟨Nat.le_refl _, Nat.le_refl _⟩
    · exact isProper_first b u hu

theorem step_of_begins {b : UInt8} (hb : Begins b) {u : Unfinished} (hu : u.IsProper) :
    step (some u) b = (none :: (first b).1, (first b).2) := by
  refine if_neg ?_
  rintro ⟨hlow, hhigh⟩
  have hleast := hu.least
  have hmost := hu.most
  simp only [Begins, UInt8.lt_iff_toNat_lt, UInt8.le_iff_toNat_le] at *
  omega

theorem run_cons (state : Option Unfinished) (b : UInt8) (bytes : List UInt8) :
    run state (b :: bytes) = (step state b).1 ++ run (step state b).2 bytes := by
  cases state <;> rfl

/-- What stands before a byte that begins a character is read as if the text ended there. -/
theorem run_append {b : UInt8} (hb : Begins b) (state : Option Unfinished)
    (hstate : ∀ u ∈ state, u.IsProper) (as bs : List UInt8) :
    run state (as ++ b :: bs) = run state as ++ run none (b :: bs) := by
  induction as generalizing state with
  | nil =>
    cases state with
    | none => rfl
    | some u =>
      rw [List.nil_append, run_cons, step_of_begins hb (hstate u rfl)]
      rfl
  | cons a as ih =>
    rw [List.cons_append, run_cons state a, ih _ (isProper_step state a), run_cons state a,
      List.append_assoc]

theorem repaired_append {b : UInt8} (hb : Begins b) (as bs : List UInt8) :
    repaired (as ++ b :: bs) = repaired as ++ repaired (b :: bs) := by
  have hitems : items (as ++ b :: bs) = items as ++ items (b :: bs) :=
    run_append hb none (fun u hu => nomatch hu) as bs
  rw [repaired, hitems, List.map_append]
  rfl

theorem items_encode_append (cs : List Char) (bytes : List UInt8) :
    items (encode cs ++ bytes) = cs.map some ++ items bytes := by
  induction cs with
  | nil => rfl
  | cons c cs ih =>
    rw [encode, List.flatMap_cons, List.append_assoc, items, run_utf8EncodeChar, List.map_cons,
      List.cons_append]
    exact congrArg (some c :: ·) ih

/-- Characters in front of any bytes are read back. -/
theorem repaired_encode_append (cs : List Char) (bytes : List UInt8) :
    repaired (encode cs ++ bytes) = cs ++ repaired bytes := by
  rw [repaired, items_encode_append, List.map_append, List.map_map]
  exact congrArg (· ++ repaired bytes) (List.map_id cs)

/-- The bytes of a text are the text again. -/
theorem decode?_encode (cs : List Char) : decode? (encode cs) = some cs := by
  have hmapM : (cs.map some).mapM id = some cs := by
    induction cs with
    | nil => rfl
    | cons c cs ih => rw [List.map_cons, List.mapM_cons, ih]; rfl
  have hitems : items (encode cs) = cs.map some := by
    simpa [items, run] using items_encode_append cs []
  rw [decode?, hitems, hmapM]

/-- Characters behind any bytes are read back. -/
theorem repaired_append_encode (bytes : List UInt8) (cs : List Char) :
    repaired (bytes ++ encode cs) = repaired bytes ++ cs := by
  cases cs with
  | nil => simp [encode]
  | cons c cs =>
    obtain ⟨b, rest, hc, hb⟩ := exists_begins c
    have hencode : encode (c :: cs) = b :: (rest ++ encode cs) := by
      rw [encode, List.flatMap_cons, hc, List.cons_append]
      rfl
    have hread : repaired (encode (c :: cs)) = c :: cs := by
      simpa [repaired, items, run] using repaired_encode_append (c :: cs) []
    rw [hencode, repaired_append hb, ← hencode, hread]

end Utf8
end VesselTraffic.Text
