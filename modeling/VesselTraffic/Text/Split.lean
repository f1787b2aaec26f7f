/-!
# Cutting a text at separators

A text is cut at the first or the last occurrence of a separator, or at every one.
Lines end at a line feed; a carriage return before the line feed belongs to the end.
-/
namespace VesselTraffic.Text

/-- The texts before and after the first separator. -/
def cutFirst? (sep : Char) : List Char → Option (List Char × List Char)
  | [] => none
  | c :: cs => if c = sep then some ([], cs) else (cutFirst? sep cs).map fun (a, b) => (c :: a, b)

/-- The texts before and after the last separator. -/
def cutLast? (sep : Char) : List Char → Option (List Char × List Char)
  | [] => none
  | c :: cs =>
    match cutLast? sep cs with
    | some (a, b) => some (c :: a, b)
    | none => if c = sep then some ([], cs) else none

/-- Puts one more element in front of some pieces. A separator begins a new piece. -/
def addToPieces {α : Type} [DecidableEq α] (sep a : α) : List (List α) → List (List α)
  | [] => if a = sep then [[], []] else [[a]]
  | p :: ps => if a = sep then [] :: p :: ps else (a :: p) :: ps

/-- The pieces between separators: one more than there are separators. -/
def pieces {α : Type} [DecidableEq α] (sep : α) (as : List α) : List (List α) :=
  as.foldr (addToPieces sep) [[]]

/-- Drops one carriage return at the end. -/
def dropReturn (line : List Char) : List Char :=
  if line.getLast? = some '\r' then line.dropLast else line

/-- The lines of a text. What follows the last line feed is a line unless it is
empty, and keeps a carriage return at its end. -/
def linesOf (cs : List Char) : List (List Char) :=
  let ps := pieces '\n' cs
  let ended := ps.dropLast.map dropReturn
  match ps.getLast? with
  | some (c :: r) => ended ++ [c :: r]
  | _ => ended

@[simp] theorem pieces_nil {α : Type} [DecidableEq α] (sep : α) : pieces sep [] = [[]] := rfl

@[simp] theorem pieces_cons {α : Type} [DecidableEq α] (sep a : α) (as : List α) :
    pieces sep (a :: as) = addToPieces sep a (pieces sep as) := rfl

theorem cutFirst?_eq_none_iff (sep : Char) (cs : List Char) : cutFirst? sep cs = none ↔ sep ∉ cs := by
  induction cs with
  | nil => simp [cutFirst?]
  | cons c cs ih =>
    by_cases h : c = sep
    · simp [cutFirst?, h]
    · simp [cutFirst?, h, Option.map_eq_none_iff, ih, Ne.symm h]

theorem cutLast?_eq_none_iff (sep : Char) (cs : List Char) : cutLast? sep cs = none ↔ sep ∉ cs := by
  induction cs with
  | nil => simp [cutLast?]
  | cons c cs ih =>
    rw [cutLast?]
    split
    next h => simp_all
    next h =>
      by_cases hc : c = sep
      · simp [hc]
      · simp [hc, Ne.symm hc, ih.mp h]

example : cutFirst? ':' "a:b:c".toList = some ("a".toList, "b:c".toList) := by decide
example : cutLast? '*' "a*b*c".toList = some ("a*b".toList, "c".toList) := by decide
example : pieces ',' ",a,".toList = [[], ['a'], []] := by decide
example : linesOf "a\r\n\nb\r".toList = [['a'], [], ['b', '\r']] := by decide

end VesselTraffic.Text
