import VesselTraffic.Proofs.Locality

/-!
# Reads through a part of a view

A part of a view is copied bit by bit, so what is read from the copy is what stands in the view
as many positions further on as the part begins. That needs the read to stay inside the part,
or the part to reach the end of the view: behind the end of either all bits are zero.
-/
namespace VesselTraffic.BitView

/-- Between two positions of `w` everything reads as in `v`, `shift` positions further on. -/
structure ReadsAlike (w v : BitView) (shift first last : Nat) : Prop where
  bit : ∀ i, first ≤ i → i < last → w.bit i = v.bit (shift + i)
  slice : w.slice first last = v.slice (shift + first) (shift + last)
  unsigned : w.unsigned first last = v.unsigned (shift + first) (shift + last)
  signed : w.signed first last = v.signed (shift + first) (shift + last)
  text : w.text first last = v.text (shift + first) (shift + last)

/-- Whatever is read is made of bits. -/
theorem readsAlike_of_bit {v w : BitView} {shift first last : Nat}
    (h : ∀ i, first ≤ i → i < last → w.bit i = v.bit (shift + i)) :
    w.ReadsAlike v shift first last := by
  have hwidth : last - first = shift + last - (shift + first) := by omega
  have hbits : ∀ i, i < last - first → w.bit (first + i) = v.bit (shift + first + i) := by
    intro i hi
    rw [Nat.add_assoc]
    exact h (first + i) (by omega) (by omega)
  exact ⟨h, slice_congr hwidth hbits, unsigned_congr hwidth hbits, signed_congr hwidth hbits,
    text_congr hwidth hbits⟩

section

variable {v : BitView} {start stop first last : Nat}

theorem bit_slice {i : Nat} (h : start + i < stop ∨ v.len ≤ stop) :
    (v.slice start stop).bit i = v.bit (start + i) := by
  rw [slice, bit_tabulate]
  by_cases hi : i < stop - start
  · rw [decide_eq_true hi, Bool.true_and]
  · rw [decide_eq_false hi, Bool.false_and, bit_of_len_le (by omega)]

theorem readsAlike_slice (h : start + last ≤ stop ∨ v.len ≤ stop) :
    (v.slice start stop).ReadsAlike v start first last :=
  readsAlike_of_bit fun _ _ hlast => bit_slice (h.imp_left fun hstop => by omega)

/-- A tail reaches the end of the view. -/
theorem readsAlike_tail : (v.tail start).ReadsAlike v start first last :=
  readsAlike_slice (Or.inr (Nat.le_max_left v.len start))

end

/-- A part of a view has as many bits as were asked for: those of the view, and zeros behind its
end. What is read inside the part, or anywhere if the part reaches the end of the view, is what
the view holds there. A number read up to one position and one from there on make up the number
of both. -/
theorem reads_through_slice (v : BitView) :
    (∀ start stop, (v.slice start stop).len = stop - start ∧
      (∀ i, i < stop - start → (v.slice start stop).bit i = v.bit (start + i)) ∧
      (∀ i, v.len ≤ start + i → (v.slice start stop).bit i = false) ∧
      ∀ first last, start + last ≤ stop ∨ v.len ≤ stop →
        (v.slice start stop).ReadsAlike v start first last) ∧
    ∀ first middle last, first ≤ middle → middle ≤ last →
      v.unsigned first last =
        v.unsigned first middle * 2 ^ (last - middle) + v.unsigned middle last := by
  refine ⟨fun start stop => ⟨len_tabulate _ _, fun i hi => bit_slice (Or.inl (by omega)), ?_,
    fun first last h => readsAlike_slice h⟩, ?_⟩
  · intro i hi
    rw [slice, bit_tabulate, bit_of_len_le hi, Bool.and_false]
  · intro first middle last hfirst hlast
    have hadd := v.unsigned_add hfirst (last - middle)
    rwa [Nat.add_sub_cancel' hlast] at hadd

/-- A part longer than the view reads as the view does, from the middle of it to behind its end. -/
theorem part_behind_end_read :
    let v := tabulate 9 fun i => i % 3 == 0
    (v.len ≤ 20 ∧ (v.slice 2 20).unsigned 3 12 = 0b010000000) ∧ (v.slice 2 20).ReadsAlike v 2 3 12 := by
  intro v
  exact ⟨by decide, ((reads_through_slice v).1 2 20).2.2.2 3 12 (Or.inr (by decide))⟩

end VesselTraffic.BitView
