import VesselTraffic.Proofs.Armoring
import VesselTraffic.Proofs.Grammar
import VesselTraffic.Proofs.Locality

/-!
# Equality of views

A view keeps whole bytes, and two views are equal if they keep the same ones. So besides the bits
that are read, those count that stand behind the end of the view. Copying bits and reading them
from a text leave zeros there, up to the end of the last byte. Given bytes and symbols are kept as
they are, with the bits that were cut off.
-/
namespace VesselTraffic

namespace BitView

variable {v w : BitView}

/-! ### The bits that are kept -/

def octetBits (b : UInt8) : List Bool := (List.range 8).map (octetBit b)

/-- All bits in the bytes of a view. -/
def kept (v : BitView) : List Bool := v.bytes.toList.flatMap octetBits

/-- The bits behind the end of a view. -/
def slack (v : BitView) : List Bool := v.kept.drop v.len

/-- The zeros that fill up the last byte. -/
def padding (len : Nat) : List Bool := List.replicate (8 * ((len + 7) / 8) - len) false

/-- Behind the end there are only the zeros that fill up the last byte. -/
def IsPadded (v : BitView) : Prop := v.slack = padding v.len

theorem octetBits_injective : Function.Injective octetBits := by
  intro a b h
  have hbit : ∀ i, i < 8 → octetBit a i = octetBit b i :=
    fun i hi => List.map_inj_left.mp h i (List.mem_range.mpr hi)
  refine UInt8.toNat_inj.mp (Nat.eq_of_testBit_eq fun i => ?_)
  by_cases hi : i < 8
  · have hindex : 7 - (7 - i) = i := by omega
    have hbyte := hbit (7 - i) (by omega)
    rwa [octetBit, octetBit, hindex] at hbyte
  · have hpow : 2 ^ 8 ≤ 2 ^ i := Nat.pow_le_pow_right (by decide) (by omega)
    rw [Nat.testBit_lt_two_pow (Nat.lt_of_lt_of_le a.toNat_lt hpow),
      Nat.testBit_lt_two_pow (Nat.lt_of_lt_of_le b.toNat_lt hpow)]

theorem flatMap_octetBits_injective : Function.Injective fun bs : List UInt8 => bs.flatMap octetBits := by
  intro as bs h
  induction as generalizing bs with
  | nil =>
    cases bs with
    | nil => rfl
    | cons b bs => simp [octetBits] at h
  | cons a as ih =>
    cases bs with
    | nil => simp [octetBits] at h
    | cons b bs =>
      simp only [List.flatMap_cons] at h
      obtain ⟨hhead, htail⟩ := List.append_inj h (by simp [octetBits])
      rw [octetBits_injective hhead, ih htail]

theorem flatMap_octetBits (bs : List UInt8) :
    bs.flatMap octetBits =
      (List.range (8 * bs.length)).map fun i => octetBit (bs.getD (i / 8) 0) (i % 8) :=
  (map_range_mul (by decide) octetBit 0 bs).symm

theorem kept_eq (v : BitView) :
    v.kept = (List.range (8 * v.bytes.size)).map fun i => octetBit (v.bytes.getD (i / 8) 0) (i % 8) := by
  rw [kept, flatMap_octetBits, Array.length_toList]
  simp

theorem toList_eq_take (v : BitView) : v.toList = v.kept.take v.len := by
  rw [kept_eq, ← List.map_take, List.take_range, Nat.min_eq_left v.len_le, toList]
  refine List.map_congr_left fun i hi => ?_
  have hi : i < v.len := List.mem_range.mp hi
  have hbyte : i / 8 < v.bytes.size := by
    have := v.len_le
    omega
  rw [bit, dif_pos hi, Array.getD, dif_pos hbyte]
  rfl

/-- The bits that are read and the slack are all that is kept. -/
theorem toList_append_slack (v : BitView) : v.toList ++ v.slack = v.kept := by
  rw [toList_eq_take, slack, List.take_append_drop]

/-! ### When views are equal -/

theorem toList_eq_iff : v.toList = w.toList ↔ v.AgreesOn w 0 v.len := by
  constructor
  · intro h
    have hlen : v.len = w.len := by rw [← length_toList v, h, length_toList]
    exact ⟨hlen, fun i _ hi => bit_eq_of_isPrefix (h ▸ List.prefix_rfl) hi⟩
  · intro h
    rw [toList, toList, ← h.len]
    exact List.map_congr_left fun i hi => h.bit i (Nat.zero_le i) (List.mem_range.mp hi)

theorem digits_eq_iff : v.digits = w.digits ↔ v.toList = w.toList := by
  have hinjective : Function.Injective fun b : Bool => if b then '1' else '0' := by
    intro a b
    revert a b
    decide
  rw [digits, digits, String.ofList_inj, hinjective.list_map.eq_iff]

/-- Equal views have the same bits and the same slack. -/
theorem eq_iff : v = w ↔ v.AgreesOn w 0 v.len ∧ v.slack = w.slack := by
  rw [← toList_eq_iff]
  constructor
  · rintro rfl
    exact ⟨rfl, rfl⟩
  · rintro ⟨hbits, hslack⟩
    have hlen := (toList_eq_iff.mp hbits).len
    have hkept : v.kept = w.kept := by
      rw [← toList_append_slack, hbits, hslack, toList_append_slack]
    have hbytes : v.bytes = w.bytes := Array.toList_inj.mp (flatMap_octetBits_injective hkept)
    cases v
    cases w
    cases hlen
    cases hbytes
    rfl

theorem eq_iff_of_isPadded (hv : v.IsPadded) (hw : w.IsPadded) : v = w ↔ v.AgreesOn w 0 v.len := by
  rw [eq_iff]
  refine ⟨And.left, fun h => ⟨h, ?_⟩⟩
  rw [hv, hw, h.len]

/-! ### The slack of what is built -/

theorem kept_tabulate (len : Nat) (f : Nat → Bool) :
    (tabulate len f).kept = (List.range len).map f ++ padding len := by
  have hsize : (tabulate len f).bytes.size = (len + 7) / 8 := Array.size_ofFn
  have hle : len ≤ 8 * ((len + 7) / 8) := by omega
  have hbits : (tabulate len f).kept
      = (List.range (8 * ((len + 7) / 8))).map fun i => decide (i < len) && f i := by
    rw [kept_eq, hsize]
    refine List.map_congr_left fun i hi => ?_
    have hi := List.mem_range.mp hi
    have hindex : 8 * (i / 8) + i % 8 = i := Nat.div_add_mod i 8
    have hbyte : i / 8 < (len + 7) / 8 := by omega
    simp [tabulate, Array.getD, hbyte, octetBit_octet _ _ (Nat.mod_lt i (by decide : 0 < 8)), hindex]
  rw [hbits, ← Nat.add_sub_cancel' hle, List.range_add, List.map_append, List.map_map]
  refine congrArg₂ (· ++ ·) (List.map_congr_left fun i hi => ?_) ?_
  · rw [decide_eq_true (List.mem_range.mp hi), Bool.true_and]
  · rw [padding, List.eq_replicate_iff]
    simp

theorem isPadded_tabulate (len : Nat) (f : Nat → Bool) : (tabulate len f).IsPadded := by
  rw [IsPadded, slack, kept_tabulate, len_tabulate]
  exact List.drop_left' (by simp)

theorem isPadded_slice (v : BitView) (first last : Nat) : (v.slice first last).IsPadded :=
  isPadded_tabulate _ _

theorem isPadded_ofText {text : List Char} (h : ofText? text = some v) : v.IsPadded := by
  rw [ofText?] at h
  split at h
  · obtain rfl := Option.some.inj h
    exact isPadded_tabulate _ _
  · contradiction

/-- Cutting a view leaves what was cut off in its bytes. -/
theorem slack_truncate (v : BitView) (len : Nat) :
    (v.truncate len).slack = v.toList.drop len ++ v.slack := by
  show v.kept.drop (min len v.len) = _
  rw [← toList_append_slack, List.drop_append_of_le_length (by rw [length_toList]; omega)]
  congr 1
  rcases Nat.le_total len v.len with hle | hle
  · rw [Nat.min_eq_left hle]
  · rw [Nat.min_eq_right hle, List.drop_eq_nil_of_le (by rw [length_toList]),
      List.drop_eq_nil_of_le (by rw [length_toList]; exact hle)]

theorem slack_ofSymbols (symbols : List UInt8) (trailing : Nat) :
    (ofSymbols symbols.toArray trailing).slack =
      (symbols.flatMap SixBit.bits).drop (6 * symbols.length - trailing) ++
        padding (6 * symbols.length) := by
  have hwhole := toList_ofSymbols symbols 0
  rw [Nat.sub_zero, List.take_of_length_le (by rw [SixBit.length_flatMap_bits]), ofSymbols,
    toList_truncate, List.take_of_length_le (by rw [length_toList]; exact Nat.le_refl _)] at hwhole
  rw [ofSymbols, slack_truncate, isPadded_tabulate, hwhole]
  rfl

theorem slack_ofBytes (bytes : List UInt8) (len : Nat) :
    (ofBytes bytes len).slack = (bytes.flatMap octetBits).drop len := by
  show (bytes.flatMap octetBits).drop (min len (8 * bytes.length)) = _
  rcases Nat.le_total len (8 * bytes.length) with hle | hle
  · rw [Nat.min_eq_left hle]
  · have hlength : (bytes.flatMap octetBits).length = 8 * bytes.length := by simp [flatMap_octetBits]
    rw [Nat.min_eq_right hle, ← hlength, List.drop_length, List.drop_eq_nil_of_le (hlength ▸ hle)]

end BitView

/-! ### Frames -/

namespace Frame

variable {f g : Frame}

/-- The bits of the frame are those of its payload. -/
def IsRead (f : Frame) : Prop := Armor.decode f.payload f.fill = .ok f.bits

theorem isRead_of_ofPayload {payload : String} {fill : UInt8} (h : ofPayload payload fill = .ok f) :
    f.IsRead := by
  obtain ⟨bits, hbits, ⟨⟩⟩ := Refusal.bind_eq_ok_iff.mp h
  exact hbits

theorem isRead_of_ofSentences {sentences : List Sentence} (h : ofSentences sentences = .ok f) :
    f.IsRead := by
  unfold ofSentences at h
  split at h
  · obtain ⟨bits, hbits, ⟨⟩⟩ := Refusal.bind_eq_ok_iff.mp h
    exact hbits
  · contradiction

/-- Frames that agree in everything but their bits are as equal as their bits are. -/
theorem eq_iff_bits (h : { f with bits := g.bits } = g) : f = g ↔ f.bits = g.bits := by
  constructor
  · rintro rfl
    rfl
  · intro hbits
    rw [← h, ← hbits]

theorem eq_of_isRead (hf : f.IsRead) (hg : g.IsRead) (h : { f with bits := g.bits } = g) : f = g := by
  refine (eq_iff_bits h).mpr (Except.ok.inj (hf.symm.trans (Eq.trans ?_ hg)))
  rw [← h]

end Frame

namespace BitView

/-- Two views are equal if they have the same bits and the same slack; their texts tell the bits
alone. A view that was copied or read from a text has only the zeros behind its end that fill up
the last byte, so of these the bits decide. Symbols and bytes leave in the slack what was cut
off. So frames with the same bits that agree in all else may differ in the slack of their bits, but
not if the bits were read from their payloads. -/
theorem equal_up_to_slack (v w : BitView) :
    (v = w ↔ v.AgreesOn w 0 v.len ∧ v.slack = w.slack) ∧
    (v.digits = w.digits ↔ v.AgreesOn w 0 v.len) ∧
    (v.IsPadded → w.IsPadded → (v = w ↔ v.AgreesOn w 0 v.len)) ∧
    (∀ first last : Nat, (v.slice first last).IsPadded ∧ (v.tail first).IsPadded) ∧
    (∀ text : List Char, ofText? text = some v → v.IsPadded) ∧
    (∀ (symbols : List UInt8) (trailing : Nat), (ofSymbols symbols.toArray trailing).slack =
      (symbols.flatMap SixBit.bits).drop (6 * symbols.length - trailing) ++
        padding (6 * symbols.length)) ∧
    (∀ (bytes : List UInt8) (len : Nat),
      (ofBytes bytes len).slack = (bytes.flatMap octetBits).drop len) ∧
    (∀ f g : Frame, { f with bits := g.bits } = g →
      (f = g ↔ f.bits.AgreesOn g.bits 0 f.bits.len ∧ f.bits.slack = g.bits.slack) ∧
      (f.IsRead → g.IsRead → f = g)) ∧
    (∀ (payload : String) (fill : UInt8) (f : Frame), Frame.ofPayload payload fill = .ok f → f.IsRead) ∧
    ∀ (sentences : List Sentence) (f : Frame), Frame.ofSentences sentences = .ok f → f.IsRead := by
  refine ⟨eq_iff, ?_, eq_iff_of_isPadded, fun first last => ⟨isPadded_slice v first last,
      isPadded_slice v first _⟩, fun text => isPadded_ofText, slack_ofSymbols, slack_ofBytes,
    fun f g h => ⟨?_, fun hf hg => ?_⟩, fun payload fill f => Frame.isRead_of_ofPayload,
    fun sentences f => Frame.isRead_of_ofSentences⟩
  · rw [digits_eq_iff, toList_eq_iff]
  · rw [Frame.eq_iff_bits h, eq_iff]
  · exact Frame.eq_of_isRead hf hg h

/-- Ten bits copied out of a view and the same ten read from a text are equal views. -/
theorem copied_equals_text :
    let text := ['0', '1', '1', '0', '1', '1', '0', '1', '1', '0']
    ∃ w, ofText? text = some w ∧ (tabulate 20 fun i => i % 3 != 0).slice 3 13 = w := by
  intro text
  obtain ⟨w, hw⟩ : ∃ w, ofText? text = some w := ⟨_, rfl⟩
  obtain ⟨-, -, hpadded, -, -, -⟩ :=
    equal_up_to_slack ((tabulate 20 fun i => i % 3 != 0).slice 3 13) w
  obtain ⟨-, -, -, hslice, -, -⟩ := equal_up_to_slack (tabulate 20 fun i => i % 3 != 0) w
  obtain ⟨-, -, -, -, htext, -⟩ := equal_up_to_slack w w
  refine ⟨w, hw, (hpadded (hslice 3 13).1 (htext text hw)).mpr ?_⟩
  obtain rfl := Option.some.inj hw
  exact ⟨rfl, by decide +kernel⟩

/-- The first three bits of a symbol, with the others cut off, are not equal to a copy of them. -/
theorem cut_symbol_ne_copy :
    let v := ofSymbols #[63] 3
    let w := v.slice 0 3
    v.len = w.len ∧ (∀ i, i < v.len → v.bit i = w.bit i) ∧ v.digits = w.digits ∧
      v ≠ w ∧ Frame.ofBits v ≠ Frame.ofBits w := by
  decide +kernel

end BitView

end VesselTraffic
