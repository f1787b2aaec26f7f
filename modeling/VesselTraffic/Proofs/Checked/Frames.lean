import VesselTraffic.Proofs.Checked.Views
import VesselTraffic.Proofs.Dispatch

/-!
# Checked frames

A frame is put together from sentences and checked to hold a message of a kind. Only the
number of its sentences could be too much for its type: one needs to know that there are
fewer than 256.
-/
namespace VesselTraffic

namespace Checked

/-! ### Payloads -/

/-- The six bits of a character: its distance from the first one, less the gap of eight
before the second range. -/
def value? (b : UInt8) : Checked (Option UInt8) := do
  if 48 ≤ b ∧ b ≤ 87 then return some (← byteDifference b 48)
  else if 96 ≤ b ∧ b ≤ 119 then return some (← byteDifference (← byteDifference b 48) 8)
  else return none

/-- The values of the bytes, or the first byte without one. -/
def values : List UInt8 → Checked (Except UInt8 (List UInt8))
  | [] => return .ok []
  | b :: bytes => do
    match ← value? b with
    | none => return .error b
    | some v => return (← values bytes).map (v :: ·)

def unarmor (payload : String) (fill : UInt8) : Checked (Except Refusal BitView) := do
  if Armor.mostFill < fill then return .error (.invalidFill fill)
  else
    match ← values (Text.Utf8.encode payload.toList) with
    | .error b => return .error (.invalidCharacter b)
    | .ok vs =>
      if vs.isEmpty && fill != 0 then return .error (.invalidFill fill)
      else return .ok (← ofSymbols vs fill.toNat)

theorem value?_eq_ok (b : UInt8) : value? b = .ok (Armor.value? b) := by
  rw [value?, Armor.value?]
  split_ifs with hlow hhigh
  · rw [byteDifference_of_le hlow.1]
    rfl
  · have hle : (48 : UInt8) ≤ b := UInt8.le_trans (by decide) hhigh.1
    have hgap : 8 ≤ b - 48 := by
      rw [UInt8.le_iff_toNat_le, UInt8.toNat_sub_of_le b 48 hle]
      have hnat := UInt8.le_iff_toNat_le.mp hhigh.1
      exact Nat.le_sub_of_add_le (Nat.le_trans (by decide) hnat)
    have hsum : b - 48 - 8 = b - 56 := by grind
    rw [byteDifference_of_le hle, ok_bind, byteDifference_of_le hgap, hsum]
    rfl
  · rfl

theorem values_eq_ok (bytes : List UInt8) : values bytes = .ok (Armor.values bytes) := by
  induction bytes with
  | nil => rfl
  | cons b bytes ih =>
    rw [values, value?_eq_ok, ok_bind, Armor.values]
    cases Armor.value? b with
    | none => rfl
    | some v => exact congrArg (· >>= fun vs => Except.ok (vs.map (v :: ·))) ih

theorem unarmor_eq_ok (payload : String) (fill : UInt8) :
    unarmor payload fill = .ok (Armor.decode payload fill) := by
  rw [unarmor, Armor.decode]
  split_ifs with hfill
  · rfl
  · rw [values_eq_ok, ok_bind]
    cases Armor.values (Text.Utf8.encode payload.toList) with
    | error b => rfl
    | ok vs =>
      by_cases hempty : (vs.isEmpty && fill != 0) = true
      · simp only [if_pos hempty]
        rfl
      · simp only [if_neg hempty, ofSymbols_eq_ok]
        rfl

/-- Joins the payloads of some fragments. -/
def ofSentences (sentences : List Sentence) : Checked (Except Refusal Frame) := do
  match sentences.getLast? with
  | none => return .error .noFragments
  | some last =>
    let payload := String.join (sentences.map Sentence.payload)
    match ← unarmor payload last.fill with
    | .error r => return .error r
    | .ok bits =>
      return .ok {
        bits := bits
        payload := payload
        fill := last.fill
        fragments := ← byte sentences.length
        channel := sentences.findSome? Sentence.channel
        carrier := (← entry sentences 0).carrier
        tagBlock := sentences.findSome? Sentence.tagBlock }

theorem ofSentences_eq_ok {sentences : List Sentence} (h : sentences.length < 2 ^ 8) :
    ofSentences sentences = .ok (Frame.ofSentences sentences) := by
  cases sentences with
  | nil => rfl
  | cons first rest =>
    obtain ⟨last, hlast⟩ : ∃ last, (first :: rest).getLast? = some last :=
      ⟨_, List.getLast?_eq_some_getLast (List.cons_ne_nil first rest)⟩
    simp only [ofSentences, Frame.ofSentences, hlast, unarmor_eq_ok, ok_bind, byte,
      narrow_of_lt _ h, entry_cons_zero]
    cases Armor.decode (String.join ((first :: rest).map Sentence.payload)) last.fill <;> rfl

/-! ### Kinds and lengths -/

def code (f : Frame) : Checked UInt8 := uint8 f.bits 0 6

def header (f : Frame) : Checked Header := do
  return ⟨← code f, ← uint8 f.bits 6 8, ← uint32 f.bits 8 38⟩

@[simp] theorem code_eq_ok (f : Frame) : code f = .ok f.code := by
  simp [code, Frame.code]

@[simp] theorem header_eq_ok (f : Frame) : header f = .ok f.header := by
  simp [header, Frame.header]

/-- The row of a table that is numbered from one. -/
def row {α : Type} (rows : List α) (number : UInt8) : Checked α := do
  entry rows (← difference number.toNat 1)

/-- The kind that the first bits select from the list of all kinds. -/
def kind (f : Frame) : Checked (Except Refusal MessageKind) := do
  let code ← code f
  if 1 ≤ code ∧ code ≤ 27 then
    return .ok (← row MessageKind.all code)
  else return .error (.unsupportedKind code)

/-- The bounds of a kind from the table with one row for each kind. -/
def bounds (kind : MessageKind) : Checked LengthBounds :=
  row (MessageKind.all.map MessageKind.bounds) kind.code

theorem row_all (kind : MessageKind) : row MessageKind.all kind.code = .ok kind := by
  cases kind <;> rfl

@[simp] theorem bounds_eq_ok (kind : MessageKind) : bounds kind = .ok kind.bounds := by
  cases kind <;> rfl

@[simp] theorem kind_eq_ok (f : Frame) : kind f = .ok f.kind := by
  rw [kind, code_eq_ok, ok_bind, Frame.kind]
  split
  case isTrue hcode =>
    obtain ⟨kind, hkind⟩ := MessageKind.exists_code_eq
      ⟨UInt8.le_iff_toNat_le.mp hcode.1, UInt8.le_iff_toNat_le.mp hcode.2⟩
    rw [UInt8.toNat_inj] at hkind
    rw [← hkind, row_all, MessageKind.ofCode?_code]
    rfl
  case isFalse hcode =>
    have hnone : MessageKind.ofCode? f.code = none := by
      rw [Option.eq_none_iff_forall_ne_some]
      intro kind hkind
      have hbounds := kind.code_bounds
      rw [MessageKind.ofCode?_eq_some_iff.mp hkind] at hbounds
      exact hcode ⟨UInt8.le_iff_toNat_le.mpr hbounds.1, UInt8.le_iff_toNat_le.mpr hbounds.2⟩
    rw [hnone]
    rfl

/-- Succeeds if the frame holds a message of the kind and its length is within bounds. -/
def ensure (f : Frame) (kind : MessageKind) : Checked (Except Refusal Unit) := do
  let code ← code f
  if code ≠ kind.code then return Frame.refuse kind (.otherCode code)
  else
    let bounds ← bounds kind
    if bounds.allows f.len then return .ok ()
    else return Frame.refuse kind (.wrongLength bounds f.len)

theorem ensure_eq_ok (f : Frame) (kind : MessageKind) : ensure f kind = .ok (f.ensure kind) := by
  rw [ensure, code_eq_ok, ok_bind, Frame.ensure]
  split_ifs with hcode hlen
  · rfl
  · simp [hlen]
  · simp [hlen]

/-- Reads a frame once it is checked to hold a message of a kind. -/
def ensured {α : Type} (f : Frame) (kind : MessageKind) (read : Checked (Except Refusal α)) :
    Checked (Except Refusal α) := do
  match ← ensure f kind with
  | .error r => return .error r
  | .ok () => read

/-- The read may rely on the check. -/
theorem ensured_eq_ok {α : Type} {f : Frame} {kind : MessageKind}
    {read : Checked (Except Refusal α)} {plain : Except Refusal α}
    (h : f.ensure kind = .ok () → read = .ok plain) :
    ensured f kind read = .ok (do f.ensure kind; plain) := by
  rw [ensured, ensure_eq_ok, ok_bind]
  cases hensure : f.ensure kind with
  | error r => rfl
  | ok _ => exact h hensure

end Checked

end VesselTraffic
