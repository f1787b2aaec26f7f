import VesselTraffic.BitView
import VesselTraffic.Number.Layout
import VesselTraffic.Text.Quoted

/-!
# Descriptions of values

Every reported value has one description, from which its keyed form for programs
and its plain form for people are both written.
-/
namespace VesselTraffic

/-- How the keyed form shows which alternative of a type a value is: not at all, as
the only key of an object, or as a member before the others. -/
inductive Mark
  | silent
  | key (name : String)
  | member (name value : String)
  deriving DecidableEq, Repr

mutual

inductive Datum
  | missing
  | present (content : Datum)
  | truth (b : Bool)
  | number (n : Int)
  | real (x : Binary64)
  | text (s : String)
  | letter (c : Char)
  | bits (v : BitView)
  | pair (a b : Datum)
  | list (elements : List Datum)
  | word (name : String)
  | wrapped (name : String) (mark : Mark) (content : Datum)
  | record (name : String) (mark : Mark) (members : List Member)

/-- A named part of a record. The parts of a merged one are parts of the whole in
the keyed form. -/
inductive Member
  | named (name : String) (content : Datum)
  | merged (name : String) (content : Datum)

end

namespace Datum

def ofOption {α : Type} (f : α → Datum) : Option α → Datum
  | none => missing
  | some a => present (f a)

def nat (n : Nat) : Datum := number n

def byte (n : UInt8) : Datum := nat n.toNat

def half (n : UInt16) : Datum := nat n.toNat

def full (n : UInt32) : Datum := nat n.toNat

end Datum

end VesselTraffic
