import Mathlib.Data.List.Basic
import VesselTraffic.Text.Digits

/-!
# Numbers in decimal

What a reader of numbers accepts is spelled with digits and at most one sign, and lies in the
reader's range. What is written in decimal is spelled so, so it is read back by every reader
whose range it lies in, and it holds nothing that could end it between commas.
-/
namespace VesselTraffic.Text

/-- Digits for a natural number, with any zeros in front. -/
structure IsDecimal (digits : List Char) (n : Nat) : Prop where
  ne_nil : digits ≠ []
  isDigit : ∀ c ∈ digits, c.isDigit
  value : Nat.ofDigitChars 10 digits 0 = n

/-- Digits for an integer, with a sign or without one. -/
inductive Spells : List Char → Int → Prop
  | plain {digits : List Char} {n : Nat} (h : IsDecimal digits n) : Spells digits n
  | plus {digits : List Char} {n : Nat} (h : IsDecimal digits n) : Spells ('+' :: digits) n
  | minus {digits : List Char} {n : Nat} (h : IsDecimal digits n) : Spells ('-' :: digits) (-n)

/-- A number that a signed word of 64 bits can hold. -/
def IsSigned64 (cs : List Char) : Prop :=
  ∃ t, Spells cs t ∧ -9223372036854775808 ≤ t ∧ t ≤ 9223372036854775807

/-- A number that a word of 32 bits can hold, without a minus sign. -/
def IsUnsigned32 (cs : List Char) : Prop := ∃ n : Nat, Spells cs n ∧ '-' ∉ cs ∧ n ≤ 4294967295

theorem decimal?_eq_some_iff {cs : List Char} {n : Nat} : decimal? cs = some n ↔ IsDecimal cs n := by
  have hfields : IsDecimal cs n ↔
      cs ≠ [] ∧ (∀ c ∈ cs, c.isDigit) ∧ Nat.ofDigitChars 10 cs 0 = n :=
    ⟨fun h => ⟨h.ne_nil, h.isDigit, h.value⟩, fun ⟨hne, hdigit, hvalue⟩ => ⟨hne, hdigit, hvalue⟩⟩
  simp only [hfields, decimal?, Option.ite_none_right_eq_some, Bool.and_eq_true, Bool.not_eq_true',
    List.isEmpty_eq_false_iff, List.all_eq_true, Option.some.injEq, Nat.ofDigitChars_eq_foldl,
    digitValue, and_assoc]

namespace IsDecimal

variable {digits : List Char} {n : Nat}

theorem not_mem (h : IsDecimal digits n) {c : Char} (hc : ¬ c.isDigit) : c ∉ digits :=
  fun hmem => hc (h.isDigit c hmem)

/-- Digits do not begin with a sign. -/
theorem ne_cons (h : IsDecimal digits n) {c : Char} (hc : ¬ c.isDigit) (rest : List Char) :
    digits ≠ c :: rest := by
  rintro rfl
  exact h.not_mem hc List.mem_cons_self

end IsDecimal

theorem integer?_eq_some_iff {least most t : Int} {cs : List Char} :
    integer? least most cs = some t ↔ Spells cs t ∧ least ≤ t ∧ t ≤ most := by
  unfold integer?
  simp only [Option.filter_eq_some_iff, Bool.and_eq_true, decide_eq_true_eq]
  refine and_congr_left fun _ => ?_
  constructor
  · intro h
    split at h <;> obtain ⟨n, hn, rfl⟩ := Option.map_eq_some_iff.mp h
    · exact Spells.plus (decimal?_eq_some_iff.mp hn)
    · obtain ⟨m, hm, ⟨⟩⟩ := Option.bind_eq_some_iff.mp hn
      exact Spells.minus (decimal?_eq_some_iff.mp hm)
    · exact Spells.plain (decimal?_eq_some_iff.mp hn)
  · rintro (hdigits | hdigits | hdigits)
    · split
      case h_1 r => exact absurd rfl (hdigits.ne_cons (by decide) r)
      case h_2 r => exact absurd rfl (hdigits.ne_cons (by decide) r)
      case h_3 => exact Option.map_eq_some_iff.mpr ⟨_, decimal?_eq_some_iff.mpr hdigits, rfl⟩
    · exact Option.map_eq_some_iff.mpr ⟨_, decimal?_eq_some_iff.mpr hdigits, rfl⟩
    · refine Option.map_eq_some_iff.mpr ⟨_, Option.bind_eq_some_iff.mpr ⟨_, ?_, rfl⟩, rfl⟩
      exact decimal?_eq_some_iff.mpr hdigits

theorem natural?_eq_some_iff {most n : Nat} {cs : List Char} :
    natural? most cs = some n ↔ Spells cs n ∧ '-' ∉ cs ∧ n ≤ most := by
  unfold natural?
  simp only [Option.filter_eq_some_iff, decide_eq_true_eq, decimal?_eq_some_iff, ← and_assoc]
  refine and_congr_left fun _ => ?_
  constructor
  · intro h
    split at h
    · exact ⟨Spells.plus h, List.not_mem_cons_of_ne_of_not_mem (by decide) (h.not_mem (by decide))⟩
    · exact ⟨Spells.plain h, h.not_mem (by decide)⟩
  · rintro ⟨hspells, hminus⟩
    generalize ht : (n : Int) = t at hspells
    cases hspells with
    | plain hdigits =>
      cases Int.ofNat.inj ht
      split
      case h_1 r => exact absurd rfl (hdigits.ne_cons (by decide) r)
      case h_2 => exact hdigits
    | plus hdigits =>
      cases Int.ofNat.inj ht
      exact hdigits
    | minus => exact absurd List.mem_cons_self hminus

theorem signed64?_eq_some_iff {cs : List Char} {t : Int} : signed64? cs = some t ↔
    Spells cs t ∧ -9223372036854775808 ≤ t ∧ t ≤ 9223372036854775807 :=
  integer?_eq_some_iff

theorem isSigned64_iff {cs : List Char} : IsSigned64 cs ↔ ∃ t, signed64? cs = some t :=
  exists_congr fun _ => signed64?_eq_some_iff.symm

/-- A word is read from a number that it can hold. -/
theorem map_natural?_eq_some_iff {α : Type} {ofNat : Nat → α} {toNat : α → Nat} {most : Nat}
    (hle : ∀ a, toNat a ≤ most) (hword : ∀ n ≤ most, toNat (ofNat n) = n)
    (hnumber : ∀ a, ofNat (toNat a) = a) {cs : List Char} {a : α} :
    (natural? most cs).map ofNat = some a ↔ Spells cs (toNat a) ∧ '-' ∉ cs := by
  rw [Option.map_eq_some_iff]
  constructor
  · rintro ⟨n, hn, rfl⟩
    obtain ⟨hspells, hminus, hmost⟩ := natural?_eq_some_iff.mp hn
    rw [hword n hmost]
    exact ⟨hspells, hminus⟩
  · rintro ⟨hspells, hminus⟩
    exact ⟨toNat a, natural?_eq_some_iff.mpr ⟨hspells, hminus, hle a⟩, hnumber a⟩

theorem unsigned32?_eq_some_iff {cs : List Char} {n : UInt32} :
    unsigned32? cs = some n ↔ Spells cs n.toNat ∧ '-' ∉ cs := by
  apply map_natural?_eq_some_iff
  · exact fun n => Nat.le_of_lt_succ n.toNat_lt
  · exact fun n h => UInt32.toNat_ofNat_of_lt' (Nat.lt_succ_of_le h)
  · exact fun n => UInt32.ofNat_toNat

theorem unsigned16?_eq_some_iff {cs : List Char} {n : UInt16} :
    unsigned16? cs = some n ↔ Spells cs n.toNat ∧ '-' ∉ cs := by
  apply map_natural?_eq_some_iff
  · exact fun n => Nat.le_of_lt_succ n.toNat_lt
  · exact fun n h => UInt16.toNat_ofNat_of_lt' (Nat.lt_succ_of_le h)
  · exact fun n => UInt16.ofNat_toNat

theorem isUnsigned32_iff {cs : List Char} : IsUnsigned32 cs ↔ ∃ n, unsigned32? cs = some n := by
  constructor
  · rintro ⟨n, hn⟩
    exact ⟨UInt32.ofNat n, Option.map_eq_some_iff.mpr ⟨n, natural?_eq_some_iff.mpr hn, rfl⟩⟩
  · rintro ⟨n, hn⟩
    obtain ⟨hspells, hminus⟩ := unsigned32?_eq_some_iff.mp hn
    exact ⟨n.toNat, hspells, hminus, Nat.le_of_lt_succ n.toNat_lt⟩

/-! ## What is written -/

theorem isDecimal_toDigits (n : Nat) : IsDecimal (Nat.toDigits 10 n) n where
  ne_nil := Nat.toDigits_ne_nil
  isDigit _ hc := Nat.isDigit_of_mem_toDigits (by decide) (by decide) hc
  value := Nat.ofDigitChars_ten_toDigits

theorem isDecimal_toString (n : Nat) : IsDecimal (toString n).toList n := by
  have hdigits : (toString n).toList = Nat.toDigits 10 n := Nat.toList_repr
  rw [hdigits]
  exact isDecimal_toDigits n

theorem toList_toString_int (t : Int) : (toString t).toList =
    if 0 ≤ t then Nat.toDigits 10 t.toNat else '-' :: Nat.toDigits 10 (-t).toNat := by
  rw [Int.toString_eq_repr, Int.repr_eq_if]
  split <;> simp

/-- What is written for an integer spells it. -/
theorem spells_toString (t : Int) : Spells (toString t).toList t := by
  rw [toList_toString_int]
  split
  next hpos =>
    have hspells := Spells.plain (isDecimal_toDigits t.toNat)
    rwa [Int.toNat_of_nonneg hpos] at hspells
  next hneg =>
    have hspells := Spells.minus (isDecimal_toDigits (-t).toNat)
    rwa [Int.toNat_of_nonneg (by omega), Int.neg_neg] at hspells

theorem signed64?_toString {t : Int} (hleast : -9223372036854775808 ≤ t)
    (hmost : t ≤ 9223372036854775807) : signed64? (toString t).toList = some t :=
  signed64?_eq_some_iff.mpr ⟨spells_toString t, hleast, hmost⟩

/-- A natural number is written without a sign. -/
theorem spells_toString_nat (n : Nat) : Spells (toString n).toList n ∧ '-' ∉ (toString n).toList :=
  ⟨.plain (isDecimal_toString n), (isDecimal_toString n).not_mem (by decide)⟩

theorem unsigned32?_toString (n : UInt32) : unsigned32? (toString n.toNat).toList = some n :=
  unsigned32?_eq_some_iff.mpr (spells_toString_nat n.toNat)

theorem unsigned16?_toString (n : UInt16) : unsigned16? (toString n.toNat).toList = some n :=
  unsigned16?_eq_some_iff.mpr (spells_toString_nat n.toNat)

theorem not_mem_toString_int {c : Char} (hc : ¬ c.isDigit) (hsign : c ≠ '-') (t : Int) :
    c ∉ (toString t).toList := by
  rw [toList_toString_int]
  split
  · exact (isDecimal_toDigits _).not_mem hc
  · exact List.not_mem_cons_of_ne_of_not_mem hsign ((isDecimal_toDigits _).not_mem hc)

end VesselTraffic.Text
