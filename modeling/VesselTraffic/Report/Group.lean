import VesselTraffic.BitView

/-!
# Repeated groups of fields

Some messages end in a list of groups of one width. Only groups that are there as a
whole are read.
-/
namespace VesselTraffic

/-- How many whole groups of a width lie behind a position, at most `most` of them. -/
def BitView.groupCount (v : BitView) (start width most : Nat) : Nat := min most ((v.len - start) / width)

/-- Reads the whole groups, each from its own start. -/
def BitView.groups {α : Type} (v : BitView) (start width most : Nat) (read : Nat → α) : List α :=
  (List.range (v.groupCount start width most)).map fun i => read (start + width * i)

end VesselTraffic
