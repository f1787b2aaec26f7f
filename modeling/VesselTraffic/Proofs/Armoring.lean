import Mathlib.Tactic.Common
import VesselTraffic.Armor
import VesselTraffic.Proofs.BitLists

/-!
# Armored bits

Bits are armored six at a time, and fewer than six at the end are padded. Dropping the padding
gives back just the bits, wherever their end falls. What cannot be armored is refused: for its
fill, for the first byte outside the alphabet, or for fill where there is nothing to drop it from.
-/
namespace VesselTraffic

/-! ## Symbols and their bits -/

namespace SixBit

/-- The six bits of a symbol, the most significant one first. -/
def bits (symbol : UInt8) : List Bool := (List.range 6).map fun i => symbol.toNat.testBit (5 - i)

/-- The symbol of six bits. -/
def pack (a b c d e f : Bool) : UInt8 :=
  UInt8.ofNat ([a, b, c, d, e, f].foldl (fun n bit => 2 * n + bit.toNat) 0)

/-- The symbols of six bits each; fewer than six at the end are no symbol. -/
def group : List Bool → List UInt8
  | a :: b :: c :: d :: e :: f :: rest => pack a b c d e f :: group rest
  | _ => []

theorem bits_pack : ∀ a b c d e f, bits (pack a b c d e f) = [a, b, c, d, e, f] := by decide +kernel

theorem pack_lt : ∀ a b c d e f, pack a b c d e f < 64 := by decide +kernel

theorem length_flatMap_bits (symbols : List UInt8) :
    (symbols.flatMap bits).length = 6 * symbols.length := by
  induction symbols with
  | nil => rfl
  | cons s symbols ih =>
    have hbits : (bits s).length = 6 := by simp [bits]
    rw [List.flatMap_cons, List.length_append, hbits, ih, List.length_cons]
    omega

theorem lt_of_mem_group (bs : List Bool) : ∀ s ∈ group bs, s < 64 := by
  fun_induction group bs with
  | case1 a b c d e f rest ih => exact List.forall_mem_cons.mpr ⟨pack_lt a b c d e f, ih⟩
  | case2 => simp

/-- Whole groups of bits are those of their symbols. -/
theorem flatMap_bits_group {bs : List Bool} (h : bs.length % 6 = 0) :
    (group bs).flatMap bits = bs := by
  fun_induction group bs with
  | case1 a b c d e f rest ih =>
    have hrest : rest.length % 6 = 0 := by
      simp only [List.length_cons] at h
      omega
    rw [List.flatMap_cons, bits_pack, ih hrest]
    rfl
  | case2 bs hshort =>
    match bs, h with
    | [], _ => rfl
    | [_], h | [_, _], h | [_, _, _], h | [_, _, _, _], h | [_, _, _, _, _], h => simp at h
    | a :: b :: c :: d :: e :: f :: rest, _ => exact absurd rfl (hshort a b c d e f rest)

end SixBit

namespace BitView

theorem len_ofSymbols (symbols : Array UInt8) (trailing : Nat) :
    (ofSymbols symbols trailing).len = 6 * symbols.size - trailing :=
  Nat.min_eq_left (Nat.sub_le _ _)

/-- The bits of some symbols stand one after the other. -/
theorem toList_ofSymbols (symbols : List UInt8) (trailing : Nat) :
    (ofSymbols symbols.toArray trailing).toList =
      (symbols.flatMap SixBit.bits).take (6 * symbols.length - trailing) := by
  have hbits := map_range_mul (by decide : 0 < 6) (fun (s : UInt8) i => s.toNat.testBit (5 - i)) 0 symbols
  rw [ofSymbols, toList_truncate, toList_tabulate, List.size_toArray]
  refine congrArg (List.take _) (Eq.trans ?_ hbits)
  simp

end BitView

namespace Armor

/-! ## The alphabet -/

/-- The characters from `0` to `W` and from the backquote to `w`. -/
def isArmored (b : UInt8) : Bool :=
  let c := Char.ofNat b.toNat
  ('0' ≤ c && c ≤ 'W') || ('\x60' ≤ c && c ≤ 'w')

/-- The character of a symbol. -/
def character (symbol : UInt8) : Char :=
  Char.ofNat (if symbol < 40 then symbol.toNat + 48 else symbol.toNat + 56)

/-- Bits with the padding behind them, six to a character. -/
def armored (bits : List Bool) : String := String.ofList ((SixBit.group bits).map character)

theorem isSome_value? (b : UInt8) : (value? b).isSome = isArmored b := by
  have key : ∀ i : Fin 256, (value? (UInt8.ofNat i)).isSome = isArmored (UInt8.ofNat i) := by
    decide +kernel
  have hb := key ⟨b.toNat, b.toNat_lt⟩
  rwa [UInt8.ofNat_toNat] at hb

theorem value?_character {symbol : UInt8} (h : symbol < 64) :
    ∃ b, String.utf8EncodeChar (character symbol) = [b] ∧ value? b = some symbol := by
  have key : ∀ i : Fin 64, let b := UInt8.ofNat (character (UInt8.ofNat i)).toNat
      String.utf8EncodeChar (character (UInt8.ofNat i)) = [b] ∧ value? b = some (UInt8.ofNat i) := by
    decide +kernel
  have hsymbol := key ⟨symbol.toNat, UInt8.lt_iff_toNat_lt.mp h⟩
  rw [UInt8.ofNat_toNat] at hsymbol
  exact ⟨_, hsymbol⟩

/-- The first byte outside the alphabet decides; otherwise every byte has a value. -/
theorem values_eq (bytes : List UInt8) :
    values bytes = match bytes.find? fun b => !isArmored b with
      | some b => .error b
      | none => .ok (bytes.filterMap value?) := by
  induction bytes with
  | nil => rfl
  | cons b bytes ih =>
    have hb := isSome_value? b
    rw [values, List.find?_cons]
    cases hvalue : value? b with
    | none =>
      rw [hvalue, Option.isSome_none] at hb
      rw [← hb]
      rfl
    | some v =>
      rw [hvalue, Option.isSome_some] at hb
      rw [← hb, List.filterMap_cons_some hvalue, ih]
      cases bytes.find? fun b => !isArmored b <;> rfl

theorem length_filterMap_value? {bytes : List UInt8} (h : ∀ b ∈ bytes, isArmored b) :
    (bytes.filterMap value?).length = bytes.length := by
  rw [List.length_filterMap_eq_countP, List.countP_eq_length]
  intro b hb
  rw [isSome_value?]
  exact h b hb

theorem values_character {symbols : List UInt8} (h : ∀ s ∈ symbols, s < 64) :
    values (Text.Utf8.encode (symbols.map character)) = .ok symbols := by
  induction symbols with
  | nil => rfl
  | cons s symbols ih =>
    obtain ⟨hs, hsymbols⟩ := List.forall_mem_cons.mp h
    obtain ⟨b, hencode, hvalue⟩ := value?_character hs
    rw [List.map_cons, Text.Utf8.encode, List.flatMap_cons, hencode, List.singleton_append, values,
      hvalue]
    exact congrArg (Except.map (s :: ·)) (ih hsymbols)

/-! ## What is accepted -/

theorem decode_eq (payload : String) (fill : UInt8) :
    let bytes := Text.Utf8.encode payload.toList
    decode payload fill =
      if 5 < fill then .error (.invalidFill fill)
      else match bytes.find? fun b => !isArmored b with
        | some b => .error (.invalidCharacter b)
        | none =>
          if bytes = [] ∧ fill ≠ 0 then .error (.invalidFill fill)
          else .ok (BitView.ofSymbols (bytes.filterMap value?).toArray fill.toNat) := by
  intro bytes
  unfold decode mostFill
  split
  case isTrue => rfl
  case isFalse =>
    rw [values_eq]
    cases hfind : bytes.find? fun b => !isArmored b with
    | some b => rfl
    | none =>
      have harmored : ∀ b ∈ bytes, isArmored b := by
        simpa using List.find?_eq_none.mp hfind
      have hlength := length_filterMap_value? harmored
      have hempty : ((bytes.filterMap value?).isEmpty && fill != 0) = true ↔ bytes = [] ∧ fill ≠ 0 := by
        rw [Bool.and_eq_true, List.isEmpty_iff, bne_iff_ne, ← List.length_eq_zero_iff, hlength,
          List.length_eq_zero_iff]
      exact if_congr hempty rfl rfl

/-- A payload that can be read: some bytes of the alphabet, and at most five bits of fill in them. -/
structure IsAcceptable (bytes : List UInt8) (fill : UInt8) : Prop where
  fill_le : fill ≤ 5
  armored : ∀ b ∈ bytes, isArmored b
  fill_fits : bytes ≠ [] ∨ fill = 0

/-- Why a payload that cannot be read is refused. -/
def refusal (bytes : List UInt8) (fill : UInt8) : Refusal :=
  if 5 < fill then .invalidFill fill
  else match bytes.find? fun b => !isArmored b with
    | some b => .invalidCharacter b
    | none => .invalidFill fill

section

variable {payload : String} {fill : UInt8}

theorem decode_of_isAcceptable (h : IsAcceptable (Text.Utf8.encode payload.toList) fill) :
    decode payload fill = .ok (BitView.ofSymbols
      ((Text.Utf8.encode payload.toList).filterMap value?).toArray fill.toNat) := by
  have hfind : (Text.Utf8.encode payload.toList).find? (fun b => !isArmored b) = none := by
    simpa using h.armored
  have hfits : ¬ (Text.Utf8.encode payload.toList = [] ∧ fill ≠ 0) := by
    rintro ⟨hempty, hfill⟩
    exact h.fill_fits.elim (absurd hempty) hfill
  rw [decode_eq, if_neg (UInt8.not_lt.mpr h.fill_le), hfind]
  exact if_neg hfits

theorem decode_of_not_isAcceptable (h : ¬ IsAcceptable (Text.Utf8.encode payload.toList) fill) :
    decode payload fill = .error (refusal (Text.Utf8.encode payload.toList) fill) := by
  rw [decode_eq, refusal]
  split
  case isTrue => rfl
  case isFalse hfill =>
    cases hfind : (Text.Utf8.encode payload.toList).find? fun b => !isArmored b with
    | some b => rfl
    | none =>
      refine if_pos (Classical.by_contradiction fun hfits => h ⟨UInt8.not_lt.mp hfill, ?_, ?_⟩)
      · simpa using hfind
      · rwa [not_and_or, not_not] at hfits

end

/-- Padded bits, armored and read with the padding as fill, are the bits. -/
theorem decode_armored {bits padding : List Bool}
    (h : padding.length = (6 - bits.length % 6) % 6) :
    ∃ v, decode (armored (bits ++ padding)) (UInt8.ofNat padding.length) = .ok v ∧
      v.len = bits.length ∧ v.toList = bits := by
  have hwhole : (bits ++ padding).length % 6 = 0 := by
    rw [List.length_append]
    omega
  have hbits := SixBit.flatMap_bits_group hwhole
  have hlength := SixBit.length_flatMap_bits (SixBit.group (bits ++ padding))
  rw [hbits, List.length_append] at hlength
  have hvalues := values_character (SixBit.lt_of_mem_group (bits ++ padding))
  have hfill : (UInt8.ofNat padding.length).toNat = padding.length := by
    rw [UInt8.toNat_ofNat']
    omega
  have hle : ¬ mostFill < UInt8.ofNat padding.length := by
    have hmost : mostFill.toNat = 5 := rfl
    rw [UInt8.lt_iff_toNat_lt, hfill, hmost]
    omega
  have hfits : ¬ ((SixBit.group (bits ++ padding)).isEmpty &&
      UInt8.ofNat padding.length != 0) = true := by
    intro hnone
    rw [Bool.and_eq_true, List.isEmpty_iff_length_eq_zero, bne_iff_ne] at hnone
    have hpadding : padding.length = 0 := by omega
    exact hnone.2 (by rw [hpadding]; rfl)
  have htoList : (BitView.ofSymbols (SixBit.group (bits ++ padding)).toArray padding.length).toList
      = bits := by
    have hcut : bits.length + padding.length - padding.length = bits.length := Nat.add_sub_cancel ..
    rw [BitView.toList_ofSymbols, hbits, ← hlength, hcut]
    exact List.take_left
  refine ⟨_, ?_, ?_, htoList⟩
  · rw [armored, decode, if_neg hle, String.toList_ofList, hvalues, hfill]
    exact if_neg hfits
  · rw [← BitView.length_toList, htoList]

/-- Armoring any bits, padded to whole characters, and reading them gives back just the bits.
A payload is read if and only if its fill and its bytes are acceptable, with six bits for a
byte less the fill, and every other payload is refused for the first of its faults. -/
theorem reads_armored :
    (∀ bits padding : List Bool, padding.length = (6 - bits.length % 6) % 6 →
      ∃ v, decode (armored (bits ++ padding)) (UInt8.ofNat padding.length) = .ok v ∧
        v.len = bits.length ∧ v.toList = bits) ∧
    ∀ (payload : String) (fill : UInt8), let bytes := Text.Utf8.encode payload.toList
      ((∃ v, decode payload fill = .ok v) ↔ IsAcceptable bytes fill) ∧
      (∀ v, decode payload fill = .ok v → v.len = 6 * bytes.length - fill.toNat) ∧
      ∀ r, decode payload fill = .error r → r = refusal bytes fill := by
  refine ⟨fun bits padding h => decode_armored h, fun payload fill => ?_⟩
  intro bytes
  by_cases h : IsAcceptable bytes fill
  · rw [decode_of_isAcceptable h]
    refine ⟨iff_of_true ⟨_, rfl⟩ h, ?_, fun r hr => nomatch hr⟩
    rintro v ⟨⟩
    rw [BitView.len_ofSymbols, List.size_toArray, length_filterMap_value? h.armored]
  · rw [decode_of_not_isAcceptable h]
    refine ⟨iff_of_false (fun ⟨v, hv⟩ => nomatch hv) h, fun v hv => (nomatch hv), ?_⟩
    rintro r ⟨⟩
    rfl

/-- Eight bits take two characters, of which four bits of padding are dropped. -/
theorem armored_octet_read :
    ∃ v, decode (armored ([true, false, true, true, false, false, true, true] ++
        [true, true, false, true])) 4 = .ok v ∧ v.len = 8 ∧ v.toList = [true, false, true, true, false, false, true, true] :=
  reads_armored.1 [true, false, true, true, false, false, true, true] [true, true, false, true] rfl

end Armor
end VesselTraffic
