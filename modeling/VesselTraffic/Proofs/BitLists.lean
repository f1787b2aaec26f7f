import Mathlib.Algebra.Order.Ring.Int
import Mathlib.Data.List.Induction
import Mathlib.Tactic.Common
import VesselTraffic.BitView

/-!
# Bits in a row

The bits of a view as a list, numbers written with a fixed count of bits, and records of such
numbers one behind the other. A number that is read is the one that was written, and what was
read, written again, is what stood there.
-/
namespace VesselTraffic

/-! ### Numbers -/

namespace Binary

/-- The last `width` bits of a number, the most significant one first. -/
def bits (width n : Nat) : List Bool := (List.range width).map fun i => n.testBit (width - 1 - i)

/-- The number that bits spell. -/
def value (bs : List Bool) : Nat := bs.foldl (fun n b => 2 * n + b.toNat) 0

@[simp] theorem length_bits (width n : Nat) : (bits width n).length = width := by simp [bits]

theorem bits_succ (width n : Nat) : bits (width + 1) n = bits width (n / 2) ++ [n.testBit 0] := by
  rw [bits, List.range_succ, List.map_append]
  refine congrArg₂ (· ++ ·) (List.map_congr_left fun i hi => ?_) (by simp)
  have hi : i < width := List.mem_range.mp hi
  have hindex : width + 1 - 1 - i = width - 1 - i + 1 := by omega
  rw [hindex, Nat.testBit_succ]

theorem value_concat (bs : List Bool) (b : Bool) : value (bs ++ [b]) = 2 * value bs + b.toNat := by
  rw [value, List.foldl_append]
  rfl

/-- A number that has room reads back. -/
theorem value_bits {width n : Nat} (h : n < 2 ^ width) : value (bits width n) = n := by
  induction width generalizing n with
  | zero =>
    rw [Nat.pow_zero, Nat.lt_one_iff] at h
    subst h
    rfl
  | succ width ih =>
    have hhalf : n / 2 < 2 ^ width := by
      rw [Nat.pow_succ] at h
      omega
    rw [bits_succ, value_concat, ih hhalf, Nat.testBit_zero]
    by_cases hlast : n % 2 = 1
    · rw [decide_eq_true hlast, Bool.toNat_true]
      omega
    · rw [decide_eq_false hlast, Bool.toNat_false]
      omega

/-- Bits are those of the number that they spell. -/
theorem bits_value (bs : List Bool) : bits bs.length (value bs) = bs := by
  induction bs using List.reverseRecOn with
  | nil => rfl
  | append_singleton bs b ih =>
    have hb := Bool.toNat_le b
    have hhalf : (2 * value bs + b.toNat) / 2 = value bs := by omega
    have hlast : (2 * value bs + b.toNat).testBit 0 = b := by
      rw [Nat.testBit_zero, Nat.mul_add_mod]
      cases b <;> rfl
    rw [List.length_append, List.length_singleton, bits_succ, value_concat, hhalf, hlast, ih]

end Binary

/-- Things of `width` parts each, one behind the other: the part at a position belongs to the
thing that the quotient selects. -/
theorem map_range_mul {α β : Type} {width : Nat} (h : 0 < width) (part : α → Nat → β) (default : α)
    (xs : List α) :
    (List.range (width * xs.length)).map (fun i => part (xs.getD (i / width) default) (i % width))
      = xs.flatMap fun x => (List.range width).map (part x) := by
  induction xs with
  | nil => rfl
  | cons x xs ih =>
    rw [List.length_cons, Nat.mul_succ, Nat.add_comm, List.range_add, List.map_append, List.map_map,
      List.flatMap_cons, ← ih]
    refine congrArg₂ (· ++ ·) (List.map_congr_left fun i hi => ?_) (List.map_congr_left fun i _ => ?_)
    · have hi : i < width := List.mem_range.mp hi
      rw [Nat.div_eq_of_lt hi, Nat.mod_eq_of_lt hi]
      rfl
    · rw [Function.comp_apply, Nat.add_div_left i h, Nat.add_mod_left]
      rfl

/-! ### The bits of a view -/

namespace BitView

variable {v w : BitView} {first middle last : Nat}

theorem toList_tabulate (len : Nat) (f : Nat → Bool) :
    (tabulate len f).toList = (List.range len).map f := by
  refine List.map_congr_left fun i hi => ?_
  have hi : i < len := List.mem_range.mp hi
  rw [bit_tabulate, decide_eq_true hi, Bool.true_and]

theorem toList_truncate (v : BitView) (len : Nat) : (v.truncate len).toList = v.toList.take len := by
  have hbit : ∀ i ∈ List.range (min len v.len), (v.truncate len).bit i = v.bit i := by
    intro i hi
    have hi := List.mem_range.mp hi
    have hlen : i < (v.truncate len).len := hi
    rw [bit, bit, dif_pos hlen, dif_pos (by omega)]
    rfl
  rw [toList, toList, ← List.map_take, List.take_range]
  exact List.map_congr_left hbit

/-- The view of some bits. -/
def ofList (bs : List Bool) : BitView := tabulate bs.length fun i => bs.getD i false

theorem toList_ofList (bs : List Bool) : (ofList bs).toList = bs := by
  rw [ofList, toList_tabulate]
  refine List.ext_getElem (by simp) fun i _ hi => ?_
  simp [hi]

theorem length_toList (v : BitView) : v.toList.length = v.len := by
  rw [toList, List.length_map, List.length_range]

/-- A list of bits and a view that has them tell each bit of the view. -/
theorem getElem?_toList {i : Nat} (h : i < v.len) : v.toList[i]? = some (v.bit i) := by
  rw [toList, List.getElem?_map, List.getElem?_range h]
  rfl

theorem len_le_of_isPrefix (h : v.toList <+: w.toList) : v.len ≤ w.len := by
  rw [← length_toList, ← length_toList]
  exact h.length_le

theorem bit_eq_of_isPrefix {i : Nat} (h : v.toList <+: w.toList) (hi : i < v.len) :
    v.bit i = w.bit i := by
  have hlen := len_le_of_isPrefix h
  obtain ⟨rest, hrest⟩ := h
  have hsame : w.toList[i]? = v.toList[i]? := by
    rw [← hrest, List.getElem?_append_left (by rwa [length_toList])]
  rw [getElem?_toList hi, getElem?_toList (by omega)] at hsame
  exact (Option.some.inj hsame).symm

theorem toList_slice (v : BitView) (first last : Nat) :
    (v.slice first last).toList = (List.range (last - first)).map fun i => v.bit (first + i) :=
  toList_tabulate _ _

theorem length_toList_slice (v : BitView) (first last : Nat) :
    (v.slice first last).toList.length = last - first :=
  length_toList _

theorem toList_slice_append (hmiddle : first ≤ middle) (hlast : middle ≤ last) :
    (v.slice first last).toList = (v.slice first middle).toList ++ (v.slice middle last).toList := by
  have hwidth : last - first = (middle - first) + (last - middle) := by omega
  rw [toList_slice, toList_slice, toList_slice, hwidth, List.range_add, List.map_append, List.map_map]
  refine congrArg _ (List.map_congr_left fun i _ => ?_)
  have hindex : first + (middle - first + i) = middle + i := by omega
  rw [Function.comp_apply, hindex]

/-- A part inside the view is cut out of the list of its bits. -/
theorem toList_slice_of_le (h : last ≤ v.len) :
    (v.slice first last).toList = (v.toList.take last).drop first := by
  have hdrop : (List.range last).drop first = (List.range (last - first)).map (first + ·) := by
    rw [List.range_eq_range', List.drop_range', Nat.mul_one, Nat.zero_add,
      List.range'_eq_map_range]
  rw [toList_slice, toList, ← List.map_take, List.take_range, Nat.min_eq_left h, ← List.map_drop,
    hdrop, List.map_map]
  rfl

theorem toList_slice_len (v : BitView) (first : Nat) :
    (v.slice first v.len).toList = v.toList.drop first := by
  rw [toList_slice_of_le (Nat.le_refl _), List.take_of_length_le (Nat.le_of_eq v.length_toList)]

theorem drop_toList (hmiddle : first ≤ middle) (hlen : middle ≤ v.len) :
    v.toList.drop first = (v.slice first middle).toList ++ v.toList.drop middle := by
  have htake : first ≤ (v.toList.take middle).length := by
    rw [List.length_take, length_toList]
    omega
  rw [toList_slice_of_le hlen, ← List.drop_append_of_le_length htake, List.take_append_drop]

/-- Behind the end of the view there are zeros. -/
theorem toList_slice_of_len_le (h : v.len ≤ first) :
    (v.slice first last).toList = List.replicate (last - first) false := by
  rw [toList_slice, List.eq_replicate_iff]
  refine ⟨by simp, ?_⟩
  intro b hb
  obtain ⟨i, -, rfl⟩ := List.mem_map.mp hb
  exact bit_of_len_le (by omega)

/-- A part that begins inside the view is what the view has of it, and zeros for the rest. -/
theorem toList_slice_of_first_le (h : first ≤ v.len) :
    (v.slice first last).toList
      = (v.toList.take last).drop first ++ List.replicate (last - v.len) false := by
  by_cases hlast : last ≤ v.len
  · rw [toList_slice_of_le hlast, Nat.sub_eq_zero_of_le hlast]
    exact (List.append_nil _).symm
  · have hend : v.len ≤ last := by omega
    rw [toList_slice_append h hend, toList_slice_len, toList_slice_of_len_le (Nat.le_refl _),
      List.take_of_length_le (by rwa [length_toList])]

theorem unsigned_eq_value (v : BitView) (first last : Nat) :
    v.unsigned first last = Binary.value (v.slice first last).toList := by
  rw [toList_slice, Binary.value, List.foldl_map, unsigned, List.range'_eq_map_range,
    List.foldl_map]

/-- A number that was read, written again. -/
theorem bits_unsigned (v : BitView) (first last : Nat) :
    Binary.bits (last - first) (v.unsigned first last) = (v.slice first last).toList := by
  rw [unsigned_eq_value, ← length_toList_slice v first last, Binary.bits_value]

/-! ### What stands at a position -/

section

variable {start : Nat} {as bs rest : List Bool}

/-- From a position on, these bits stand in the view. -/
def Holds (v : BitView) (start : Nat) (bs : List Bool) : Prop :=
  (v.slice start (start + bs.length)).toList = bs

theorem holds_append : v.Holds start (as ++ bs) ↔ v.Holds start as ∧ v.Holds (start + as.length) bs := by
  have hcut : (v.slice start (start + (as ++ bs).length)).toList
      = (v.slice start (start + as.length)).toList ++
        (v.slice (start + as.length) (start + as.length + bs.length)).toList := by
    rw [List.length_append, ← Nat.add_assoc]
    exact toList_slice_append (Nat.le_add_right _ _) (Nat.le_add_right _ _)
  have hlength : (v.slice start (start + as.length)).toList.length = as.length := by
    rw [length_toList_slice, Nat.add_sub_cancel_left]
  rw [Holds, hcut]
  constructor
  · intro h
    exact List.append_inj h hlength
  · rintro ⟨has, hbs⟩
    rw [has, hbs]

/-- The bits of a view from a position on stand there. -/
theorem holds_of_drop (h : v.toList.drop start = bs ++ rest) : v.Holds start bs := by
  have hlength := congrArg List.length h
  rw [List.length_drop, length_toList, List.length_append] at hlength
  by_cases hnone : bs = []
  · subst hnone
    rw [Holds, List.length_nil, Nat.add_zero, toList_slice, Nat.sub_self]
    rfl
  · have hpos := List.length_pos_iff.mpr hnone
    rw [Holds, toList_slice_of_le (by omega), List.drop_take, h, Nat.add_sub_cancel_left]
    exact List.take_left

theorem holds_slice (h : first ≤ last) : v.Holds first (v.slice first last).toList := by
  rw [Holds, length_toList_slice, Nat.add_sub_cancel' h]

theorem holds_ofList (bs : List Bool) : (ofList bs).Holds 0 bs :=
  holds_of_drop ((toList_ofList bs).trans (List.append_nil bs).symm)

/-- The view with these bits from a position on, whatever stood there, and longer if they need it. -/
def overwrite (v : BitView) (start : Nat) (bs : List Bool) : BitView :=
  tabulate (max v.len (start + bs.length)) fun i =>
    if start ≤ i ∧ i < start + bs.length then bs.getD (i - start) false else v.bit i

theorem holds_overwrite (v : BitView) (start : Nat) (bs : List Bool) :
    (v.overwrite start bs).Holds start bs := by
  rw [Holds, toList_slice, Nat.add_sub_cancel_left]
  apply List.ext_getElem
  · simp
  · intro i _ hi
    simp [overwrite, hi]

theorem unsigned_of_holds {width n : Nat} (hn : n < 2 ^ width) (h : v.Holds start (Binary.bits width n)) :
    v.unsigned start (start + width) = n := by
  rw [Holds, Binary.length_bits] at h
  rw [unsigned_eq_value, h, Binary.value_bits hn]

end

end BitView

/-! ### Records of numbers -/

/-- A number and the count of bits that it is written with. -/
structure BitField where
  width : Nat
  value : Nat
  deriving DecidableEq, Repr

namespace BitField

def Fits (e : BitField) : Prop := e.value < 2 ^ e.width

instance (e : BitField) : Decidable e.Fits := inferInstanceAs (Decidable (e.value < 2 ^ e.width))

/-- The numbers written one behind the other. -/
def bits (es : List BitField) : List Bool := es.flatMap fun e => Binary.bits e.width e.value

theorem bits_cons (e : BitField) (es : List BitField) :
    bits (e :: es) = Binary.bits e.width e.value ++ bits es := List.flatMap_cons

theorem length_bits (es : List BitField) : (bits es).length = (es.map width).sum := by
  induction es with
  | nil => rfl
  | cons e es ih =>
    rw [bits_cons, List.length_append, Binary.length_bits, ih, List.map_cons, List.sum_cons]

end BitField

namespace BitView

variable {v w : BitView} {start : Nat}

/-- The numbers of some widths that stand one behind the other from a position on. -/
def fields (v : BitView) : Nat → List Nat → List BitField
  | _, [] => []
  | start, width :: widths =>
    ⟨width, v.unsigned start (start + width)⟩ :: v.fields (start + width) widths

/-- Fields that have room are read back from where they were written. -/
theorem fields_of_holds {es : List BitField} (hfits : ∀ e ∈ es, e.Fits)
    (h : v.Holds start (BitField.bits es)) : v.fields start (es.map BitField.width) = es := by
  induction es generalizing start with
  | nil => rfl
  | cons e es ih =>
    obtain ⟨hfit, hfits⟩ := List.forall_mem_cons.mp hfits
    obtain ⟨hfirst, hrest⟩ := holds_append.mp h
    rw [Binary.length_bits] at hrest
    rw [List.map_cons, fields, unsigned_of_holds hfit hfirst, ih hfits hrest]

theorem fields_congr {widths : List Nat}
    (h : ∀ i, start ≤ i → i < start + widths.sum → v.bit i = w.bit i) :
    v.fields start widths = w.fields start widths := by
  induction widths generalizing start with
  | nil => rfl
  | cons width widths ih =>
    rw [List.sum_cons] at h
    have hbits : (v.slice start (start + width)).toList = (w.slice start (start + width)).toList := by
      rw [toList_slice, toList_slice]
      refine List.map_congr_left fun i hi => ?_
      have hi := List.mem_range.mp hi
      exact h (start + i) (by omega) (by omega)
    rw [fields, fields, unsigned_eq_value, unsigned_eq_value, hbits,
      ih fun i hfirst hlast => h i (by omega) (by omega)]

theorem fits_fields {widths : List Nat} : ∀ e ∈ v.fields start widths, e.Fits := by
  induction widths generalizing start with
  | nil => exact List.forall_mem_nil _
  | cons width widths ih =>
    exact List.forall_mem_cons.mpr ⟨v.unsigned_lt_of_le (Nat.le_refl _), ih⟩

/-- Fields that were read, written again. -/
theorem bits_fields (v : BitView) (start : Nat) (widths : List Nat) :
    BitField.bits (v.fields start widths) = (v.slice start (start + widths.sum)).toList := by
  induction widths generalizing start with
  | nil =>
    rw [List.sum_nil, Nat.add_zero, toList_slice, Nat.sub_self]
    rfl
  | cons width widths ih =>
    have hnumber := v.bits_unsigned start (start + width)
    rw [Nat.add_sub_cancel_left] at hnumber
    rw [fields, BitField.bits_cons, hnumber, ih, List.sum_cons, ← Nat.add_assoc]
    exact (toList_slice_append (Nat.le_add_right _ _) (Nat.le_add_right _ _)).symm

end BitView

end VesselTraffic
