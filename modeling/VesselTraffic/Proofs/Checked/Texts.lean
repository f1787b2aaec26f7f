import VesselTraffic.Proofs.Checked.Operations
import VesselTraffic.Proofs.Cuts

/-!
# Cutting a text at an offset in bytes

A character takes one to four bytes, and a text can be cut at an offset only where a
character ends. The offsets at which separators are found are such places, and so are those
just behind a separator of one byte.
-/
namespace VesselTraffic

namespace Text

/-- How many bytes a text takes. -/
def size : List Char → Nat
  | [] => 0
  | c :: cs => c.utf8Size + size cs

@[simp] theorem size_nil : size [] = 0 := rfl

@[simp] theorem size_cons (c : Char) (cs : List Char) : size (c :: cs) = c.utf8Size + size cs := rfl

@[simp] theorem size_append (as bs : List Char) : size (as ++ bs) = size as + size bs := by
  induction as with
  | nil => simp
  | cons a as ih => rw [List.cons_append, size_cons, ih, size_cons, Nat.add_assoc]

/-- The offset of the first character equal to a separator. -/
def firstOffset? (sep : Char) : List Char → Option Nat
  | [] => none
  | c :: cs => if c = sep then some 0 else (firstOffset? sep cs).map (c.utf8Size + ·)

/-- The offset of the last character equal to a separator. -/
def lastOffset? (sep : Char) : List Char → Option Nat
  | [] => none
  | c :: cs =>
    match lastOffset? sep cs with
    | some n => some (c.utf8Size + n)
    | none => if c = sep then some 0 else none

/-- The offsets of all characters equal to a separator, in a text that begins at an offset. -/
def offsets (sep : Char) : Nat → List Char → List Nat
  | _, [] => []
  | n, c :: cs =>
    if c = sep then n :: offsets sep (n + c.utf8Size) cs else offsets sep (n + c.utf8Size) cs

theorem firstOffset?_eq (sep : Char) (cs : List Char) :
    firstOffset? sep cs = (cutFirst? sep cs).map fun parts => size parts.1 := by
  induction cs with
  | nil => rfl
  | cons c cs ih =>
    by_cases h : c = sep
    · simp [firstOffset?, cutFirst?, h]
    · simp [firstOffset?, cutFirst?, h, ih, Function.comp_def]

theorem lastOffset?_eq (sep : Char) (cs : List Char) :
    lastOffset? sep cs = (cutLast? sep cs).map fun parts => size parts.1 := by
  induction cs with
  | nil => rfl
  | cons c cs ih =>
    rw [lastOffset?, cutLast?, ih]
    cases cutLast? sep cs with
    | some parts => simp
    | none => by_cases h : c = sep <;> simp [h]

end Text

namespace Checked

/-! ### One cut -/

/-- The texts before and behind an offset. -/
def cutAt : Nat → List Char → Checked (List Char × List Char)
  | 0, cs => .ok ([], cs)
  | _ + 1, [] => .error .outsideText
  | n + 1, c :: cs =>
    if n + 1 < c.utf8Size then .error .insideCharacter
    else do
      let (before, behind) ← cutAt (n + 1 - c.utf8Size) cs
      return (c :: before, behind)

theorem cutAt_size (as bs : List Char) : cutAt (Text.size as) (as ++ bs) = .ok (as, bs) := by
  induction as with
  | nil => cases bs <;> rfl
  | cons a as ih =>
    obtain ⟨n, hn⟩ : ∃ n, Text.size (a :: as) = n + 1 := by
      have hpos := a.utf8Size_pos
      exact Nat.exists_eq_add_one.mpr (by rw [Text.size_cons]; omega)
    have hsize : n + 1 - a.utf8Size = Text.size as := by rw [← hn, Text.size_cons]; omega
    have hle : ¬ n + 1 < a.utf8Size := by rw [← hn, Text.size_cons]; omega
    rw [hn, List.cons_append, cutAt, if_neg hle, hsize, ih, ok_bind]
    rfl

/-- A text is cut where a character ends and nowhere else. -/
theorem cutAt_eq_ok_iff {n : Nat} {cs as bs : List Char} :
    cutAt n cs = .ok (as, bs) ↔ cs = as ++ bs ∧ n = Text.size as := by
  constructor
  · intro h
    induction cs generalizing n as with
    | nil =>
      cases n with
      | zero => cases h; exact ⟨rfl, rfl⟩
      | succ n => cases h
    | cons c cs ih =>
      cases n with
      | zero => cases h; exact ⟨rfl, rfl⟩
      | succ n =>
        rw [cutAt] at h
        split at h
        case isTrue => cases h
        case isFalse hle =>
          cases hrest : cutAt (n + 1 - c.utf8Size) cs with
          | error fault => rw [hrest] at h; cases h
          | ok parts =>
            rw [hrest] at h
            cases h
            obtain ⟨hcs, hn⟩ := ih hrest
            refine ⟨by rw [List.cons_append, ← hcs], ?_⟩
            rw [Text.size_cons, ← hn]
            omega
  · rintro ⟨rfl, rfl⟩
    exact cutAt_size as bs

/-- The text from one offset up to another. -/
def span (cs : List Char) (first last : Nat) : Checked (List Char) := do
  let (before, _) ← cutAt last cs
  let (_, within) ← cutAt first before
  return within

theorem span_size (as bs cs : List Char) :
    span (as ++ bs ++ cs) (Text.size as) (Text.size (as ++ bs)) = .ok bs := by
  rw [span, cutAt_size (as ++ bs) cs, ok_bind]
  exact congrArg (· >>= fun parts => Except.ok parts.2) (cutAt_size as bs)

/-! ### Cuts at a separator -/

/-- The texts before the byte at an offset and behind it, if there is an offset. -/
def cutAround (cs : List Char) : Option Nat → Checked (Option (List Char × List Char))
  | none => .ok none
  | some n => do
    let (before, _) ← cutAt n cs
    let (_, behind) ← cutAt (n + 1) cs
    return some (before, behind)

def cutFirst? (sep : Char) (cs : List Char) : Checked (Option (List Char × List Char)) :=
  cutAround cs (Text.firstOffset? sep cs)

def cutLast? (sep : Char) (cs : List Char) : Checked (Option (List Char × List Char)) :=
  cutAround cs (Text.lastOffset? sep cs)

section

variable {sep : Char} (hsep : sep.utf8Size = 1)
include hsep

theorem cutAround_size (as bs : List Char) :
    cutAround (as ++ sep :: bs) (some (Text.size as)) = .ok (some (as, bs)) := by
  have hbehind : cutAt (Text.size as + 1) (as ++ sep :: bs) = .ok (as ++ [sep], bs) := by
    rw [cutAt_eq_ok_iff]
    exact ⟨by simp, by simp [hsep]⟩
  rw [cutAround, cutAt_size, ok_bind, hbehind]
  rfl

theorem cutFirst?_eq_ok (cs : List Char) : cutFirst? sep cs = .ok (Text.cutFirst? sep cs) := by
  rw [cutFirst?, Text.firstOffset?_eq]
  cases h : Text.cutFirst? sep cs with
  | none => rfl
  | some parts =>
    rw [(Text.cutFirst?_eq_some_iff.mp h).1]
    exact cutAround_size hsep parts.1 parts.2

theorem cutLast?_eq_ok (cs : List Char) : cutLast? sep cs = .ok (Text.cutLast? sep cs) := by
  rw [cutLast?, Text.lastOffset?_eq]
  cases h : Text.cutLast? sep cs with
  | none => rfl
  | some parts =>
    rw [(Text.cutLast?_eq_some_iff.mp h).1]
    exact cutAround_size hsep parts.1 parts.2

end

/-! ### A cut at every separator -/

/-- The pieces from an offset on, given the offsets of the separators behind it. -/
def piecesFrom (cs : List Char) (first : Nat) : List Nat → Checked (List (List Char))
  | [] => do return [← span cs first (Text.size cs)]
  | n :: ns => do
    let piece ← span cs first n
    return piece :: (← piecesFrom cs (n + 1) ns)

def pieces (sep : Char) (cs : List Char) : Checked (List (List Char)) :=
  piecesFrom cs 0 (Text.offsets sep 0 cs)

/-- By induction on the text that is left: `as` is cut off already, and `piece` is what has
been passed since the last separator. -/
theorem piecesFrom_eq_ok {sep : Char} (hsep : sep.utf8Size = 1) (as piece bs : List Char)
    (hpiece : sep ∉ piece) :
    piecesFrom (as ++ piece ++ bs) (Text.size as) (Text.offsets sep (Text.size (as ++ piece)) bs)
      = .ok (Text.pieces sep (piece ++ bs)) := by
  induction bs generalizing as piece with
  | nil =>
    rw [Text.offsets, piecesFrom, List.append_nil, List.append_nil, Text.pieces_of_not_mem hpiece]
    have hspan := span_size as piece []
    rw [List.append_nil] at hspan
    rw [hspan]
    rfl
  | cons b bs ih =>
    by_cases hb : b = sep
    · subst hb
      have hspan := span_size as piece (b :: bs)
      have hrest := ih (as ++ piece ++ [b]) [] List.not_mem_nil
      rw [List.append_nil, List.nil_append, List.append_assoc, List.singleton_append,
        Text.size_append (as ++ piece), Text.size_cons, Text.size_nil, hsep] at hrest
      rw [Text.offsets, if_pos rfl, hsep, piecesFrom, hspan, ok_bind, hrest,
        Text.pieces_append hpiece]
      rfl
    · have hnext : sep ∉ piece ++ [b] := by simp [hpiece, Ne.symm hb]
      have hrest := ih as (piece ++ [b]) hnext
      rw [← List.append_assoc as, Text.size_append (as ++ piece), Text.size_cons, Text.size_nil,
        Nat.add_zero, List.append_assoc (as ++ piece), List.append_assoc piece,
        List.singleton_append] at hrest
      rw [Text.offsets, if_neg hb]
      exact hrest

theorem pieces_eq_ok {sep : Char} (hsep : sep.utf8Size = 1) (cs : List Char) :
    pieces sep cs = .ok (Text.pieces sep cs) :=
  piecesFrom_eq_ok hsep [] [] cs List.not_mem_nil

example : cutAt 1 "é*".toList = .error .insideCharacter := by decide
example : cutAt 4 "é*".toList = .error .outsideText := by decide
example : cutAt 2 "é*".toList = .ok ("é".toList, "*".toList) := by decide

end Checked

end VesselTraffic
