import VesselTraffic.Proofs.BitLists
import VesselTraffic.Proofs.Cuts
import VesselTraffic.SixBitText

/-!
# Texts written in six bits

A letter is a character with a symbol of its own, any but that of the padding. Letters written
one behind the other are read back where they were written, less the spaces at both ends.
-/
namespace VesselTraffic

namespace SixBit

/-- The sign `@` has the symbol of the padding, which reads as a space. -/
def IsLetter (c : Char) : Prop := (symbol? c).isSome ∧ c ≠ '@'

instance (c : Char) : Decidable (IsLetter c) :=
  inferInstanceAs (Decidable ((symbol? c).isSome = true ∧ c ≠ '@'))

theorem isLetter_of_all {cs : List Char} (h : cs.all (IsLetter ·)) : ∀ c ∈ cs, IsLetter c :=
  fun c hc => of_decide_eq_true (List.all_eq_true.mp h c hc)

def symbol (c : Char) : Nat := (symbol? c).getD 0

/-- The characters of a text in six bits each. -/
def write (cs : List Char) : List Bool := cs.flatMap fun c => Binary.bits 6 (symbol c)

theorem length_write (cs : List Char) : (write cs).length = 6 * cs.length := by
  induction cs with
  | nil => rfl
  | cons c cs ih =>
    have hcons : write (c :: cs) = Binary.bits 6 (symbol c) ++ write cs := rfl
    rw [hcons, List.length_append, Binary.length_bits, ih, List.length_cons]
    omega

theorem write_concat (cs : List Char) (c : Char) :
    write (cs ++ [c]) = write cs ++ Binary.bits 6 (symbol c) := by
  rw [write, List.flatMap_append, List.flatMap_singleton]
  rfl

theorem symbol_lt (c : Char) : symbol c < 64 := by
  unfold symbol symbol?
  simp only [Bool.and_eq_true, decide_eq_true_eq]
  split_ifs with hletter hsign
  · show c.toNat - 64 < 64
    omega
  · exact hsign.2
  · decide

theorem IsLetter.toNat_lt {c : Char} (h : IsLetter c) : c.toNat < 96 := by
  by_contra hlarge
  have hnone : symbol? c = none := by
    simp only [symbol?, Bool.and_eq_true, decide_eq_true_eq]
    rw [if_neg (by omega), if_neg (by omega)]
  have hsome := h.1
  rw [hnone] at hsome
  contradiction

/-- A letter is read back. -/
theorem read_symbol {c : Char} (h : IsLetter c) : read (symbol c) = c := by
  have key : ∀ n : Fin 96, IsLetter (Char.ofNat n) → read (symbol (Char.ofNat n)) = Char.ofNat n := by
    decide +kernel
  have hc := key ⟨c.toNat, h.toNat_lt⟩
  rw [Char.ofNat_toNat] at hc
  exact hc h

theorem map_read_symbol {cs : List Char} (h : ∀ c ∈ cs, IsLetter c) :
    (cs.map symbol).map read = cs := by
  rw [List.map_map]
  exact (List.map_congr_left fun c hc => read_symbol (h c hc)).trans (List.map_id cs)

/-- The only white space in the alphabet is the space. -/
theorem isBlank_read {n : Nat} (h : n < 64) : Text.isBlank (read n) ↔ read n = ' ' := by
  have key : ∀ n : Fin 64, Text.isBlank (read n) ↔ read n = ' ' := by decide +kernel
  exact key ⟨n, h⟩

/-- Only the padding and the space read the same, and these differ in their first bit. -/
theorem read_injOn {m n : Nat} (hm : m < 64) (hn : n < 64) (hfirst : m / 32 = n / 32) :
    read m = read n ↔ m = n := by
  have key : ∀ m n : Fin 64, m.val / 32 = n.val / 32 → (read m = read n ↔ m.val = n.val) := by
    decide +kernel
  exact key ⟨m, hm⟩ ⟨n, hn⟩ hfirst

theorem isBlank_iff {c : Char} (h : IsLetter c) : Text.isBlank c ↔ c = ' ' := by
  rw [← read_symbol h]
  exact isBlank_read (symbol_lt c)

end SixBit

namespace BitView

variable {v w : BitView} {first start : Nat}

theorem symbols_zero (v : BitView) (first : Nat) : v.symbols first first = [] := by
  rw [symbols, Nat.sub_self]
  rfl

theorem symbols_succ (v : BitView) (first k : Nat) :
    v.symbols first (first + 6 * (k + 1))
      = v.symbols first (first + 6 * k) ++ [v.unsigned (first + 6 * k) (first + 6 * k + 6)] := by
  have hlong : (first + 6 * (k + 1) - first) / 6 = k + 1 := by omega
  have hshort : (first + 6 * k - first) / 6 = k := by omega
  rw [symbols, symbols, hlong, hshort, List.range_succ, List.map_append]
  rfl

/-- Fewer than six bits at the end are no symbol. -/
theorem symbols_add_rest (v : BitView) (first k : Nat) {rest : Nat} (h : rest < 6) :
    v.symbols first (first + 6 * k + rest) = v.symbols first (first + 6 * k) := by
  have hlong : (first + 6 * k + rest - first) / 6 = k := by omega
  have hshort : (first + 6 * k - first) / 6 = k := by omega
  rw [symbols, symbols, hlong, hshort]

/-- Symbols are read where their characters were written. -/
theorem symbols_eq_of_holds {cs : List Char} (h : v.Holds start (SixBit.write cs)) :
    v.symbols start (start + 6 * cs.length) = cs.map SixBit.symbol := by
  induction cs using List.reverseRecOn with
  | nil => rw [List.length_nil, Nat.mul_zero, Nat.add_zero, symbols_zero, List.map_nil]
  | append_singleton cs c ih =>
    rw [SixBit.write_concat] at h
    obtain ⟨hfirst, hlast⟩ := holds_append.mp h
    rw [SixBit.length_write] at hlast
    rw [List.length_append, List.length_singleton, symbols_succ, ih hfirst,
      unsigned_of_holds (SixBit.symbol_lt c) hlast, List.map_append, List.map_singleton]

/-- Letters are read where they were written. -/
theorem symbols_of_holds {cs : List Char} (hletters : ∀ c ∈ cs, SixBit.IsLetter c)
    (h : v.Holds start (SixBit.write cs)) :
    (v.symbols start (start + 6 * cs.length)).map SixBit.read = cs := by
  rw [symbols_eq_of_holds h, SixBit.map_read_symbol hletters]

theorem text_of_holds {cs : List Char} (hletters : ∀ c ∈ cs, SixBit.IsLetter c)
    (h : v.Holds start (SixBit.write cs)) :
    v.text start (start + 6 * cs.length) = String.ofList (Text.trim cs) := by
  rw [text, symbols_of_holds hletters h]

/-- Two texts that have the same symbols but for the last one are the same if the last ones read
the same. -/
theorem text_eq_iff_last {k : Nat}
    (h : v.symbols first (first + 6 * k) = w.symbols first (first + 6 * k)) :
    v.text first (first + 6 * (k + 1)) = w.text first (first + 6 * (k + 1)) ↔
      SixBit.read (v.unsigned (first + 6 * k) (first + 6 * k + 6))
        = SixBit.read (w.unsigned (first + 6 * k) (first + 6 * k + 6)) := by
  have hlt : ∀ u : BitView, u.unsigned (first + 6 * k) (first + 6 * k + 6) < 64 :=
    fun u => u.unsigned_lt_of_le (Nat.le_refl _)
  rw [text, text, String.ofList_inj, symbols_succ, symbols_succ, h, List.map_append, List.map_append,
    List.map_singleton, List.map_singleton, Text.trim_concat_inj, SixBit.isBlank_read (hlt v),
    SixBit.isBlank_read (hlt w)]
  refine ⟨?_, Or.inl⟩
  rintro (hread | ⟨hv, hw⟩)
  · exact hread
  · rw [hv, hw]

end BitView

end VesselTraffic
