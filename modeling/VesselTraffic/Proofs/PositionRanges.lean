import Mathlib.Algebra.Order.Field.Rat
import Mathlib.Tactic.Linarith
import VesselTraffic.Proofs.BitLists
import VesselTraffic.Proofs.Dispatch

/-!
# Positions outside their ranges

A longitude is legal from -180 to 180 degrees and a latitude from -90 to 90; 181 and 91 stand for
unknown ones. Either is compared with one range, from the least legal value to the one that stands
for an unknown. So a message has a notice for each value in its positions that is outside, but none
for a value between the greatest legal one and the one for an unknown.
-/
namespace VesselTraffic

namespace Quantity

/-- The value of a quantity, not rounded. -/
def exact (q : Quantity) : ℚ := q.raw / q.perUnit

theorem between_iff {q : Quantity} (hparts : 0 < q.perUnit) {least most : Int} :
    q.between least most ↔ least ≤ q.exact ∧ q.exact ≤ most := by
  have hpos : (0 : ℚ) < q.perUnit := Nat.cast_pos.mpr hparts
  rw [exact, le_div_iff₀ hpos, div_le_iff₀ hpos, between, Bool.and_eq_true, decide_eq_true_eq,
    decide_eq_true_eq]
  norm_cast

end Quantity

namespace Position

/-- The two values of a position. -/
inductive Half
  | longitude
  | latitude
  deriving DecidableEq

namespace Half

def of : Half → Position → Quantity
  | longitude, p => p.longitude
  | latitude, p => p.latitude

def name : Half → String
  | longitude => "longitude"
  | latitude => "latitude"

/-- The greatest legal value. The least one is its negative. -/
def limit : Half → Int
  | longitude => 180
  | latitude => 90

def unknown : Half → Int
  | longitude => longitudeUnknown
  | latitude => latitudeUnknown

/-- Neither legal nor the value that stands for an unknown. -/
def IsAnomalous (half : Half) (p : Position) : Prop :=
  ¬ (-half.limit ≤ (half.of p).exact ∧ (half.of p).exact ≤ half.limit) ∧
    (half.of p).exact ≠ half.unknown

/-- Greater than is legal, but less than the value that stands for an unknown. -/
def IsOverlooked (half : Half) (p : Position) : Prop :=
  half.limit < (half.of p).exact ∧ (half.of p).exact < half.unknown

instance (half : Half) (p : Position) : Decidable (half.IsAnomalous p) :=
  inferInstanceAs (Decidable (¬ _ ∧ _))

instance (half : Half) (p : Position) : Decidable (half.IsOverlooked p) :=
  inferInstanceAs (Decidable (_ ∧ _))

theorem limit_nonneg (half : Half) : (0 : ℚ) ≤ half.limit := by
  cases half <;> exact Int.cast_nonneg (by decide)

theorem limit_lt_unknown (half : Half) : (half.limit : ℚ) < half.unknown := by
  cases half <;> exact Int.cast_lt.mpr (by decide)

/-- The anomalies that one range up to the value for an unknown still tells. -/
theorem not_between_iff {half : Half} {p : Position} (hparts : 0 < (half.of p).perUnit) :
    ¬ (half.of p).between (-half.limit) half.unknown ↔
      half.IsAnomalous p ∧ ¬ half.IsOverlooked p := by
  have hlimit := half.limit_nonneg
  have hunknown := half.limit_lt_unknown
  rw [Quantity.between_iff hparts, Int.cast_neg]
  unfold IsAnomalous IsOverlooked
  generalize (half.of p).exact = x
  constructor
  · intro hrange
    refine ⟨⟨fun hlegal => hrange ⟨hlegal.1, by linarith⟩, ?_⟩, ?_⟩
    · rintro rfl
      exact hrange ⟨by linarith, le_refl _⟩
    · rintro ⟨hlower, hupper⟩
      exact hrange ⟨by linarith, hupper.le⟩
  · rintro ⟨⟨hlegal, hknown⟩, hgap⟩ ⟨hleast, hmost⟩
    have hlower : (half.limit : ℚ) < x := not_le.mp fun h => hlegal ⟨hleast, h⟩
    exact hgap ⟨hlower, lt_of_le_of_ne hmost hknown⟩

/-- The notice of a value that is outside its range. -/
def notice (half : Half) (mmsi : UInt32) (p : Position) : Notice :=
  .outsideRange mmsi half.name (.quantity (half.of p))

end Half

end Position

/-! ### Notices about a field -/

namespace Notice

/-- The field whose value is outside its documented range. -/
def field? : Notice → Option String
  | outsideRange _ field _ => some field
  | _ => none

/-- The notices that tell of one field. -/
def about (field : String) (ns : List Notice) : List Notice :=
  ns.filter fun n => n.field? = some field

variable {field : String}

@[simp] theorem about_nil : about field [] = [] := rfl

@[simp] theorem about_append (ns ns' : List Notice) :
    about field (ns ++ ns') = about field ns ++ about field ns' :=
  List.filter_append ..

theorem about_range_self (mmsi : UInt32) (value : Reading) (least most : Int) :
    about field (range mmsi field value least most) = range mmsi field value least most := by
  unfold range
  split <;> simp [about, field?]

theorem about_range_of_ne {other : String} (h : other ≠ field) (mmsi : UInt32) (value : Reading)
    (least most : Int) : about field (range mmsi other value least most) = [] := by
  unfold range
  split <;> simp [about, field?, h]

variable (half : Position.Half) (mmsi : UInt32)

@[simp] theorem about_course (course : Quantity) :
    about half.name (Notice.course mmsi course) = [] :=
  about_range_of_ne (by cases half <;> decide) ..

@[simp] theorem about_heading (heading : UInt16) :
    about half.name (Notice.heading mmsi heading) = [] := by
  unfold Notice.heading
  split <;> rfl

@[simp] theorem about_communication (s : CommunicationState) : about half.name s.notices = [] := by
  cases s with
  | incremental _ => rfl
  | selfOrganised s =>
    rw [CommunicationState.notices]
    cases s.report with
    | time hour minute =>
      rw [SlotReport.notices]
      split <;> rfl
    | slot n =>
      rw [SlotReport.notices]
      split <;> rfl
    | offset _ | stations _ => rfl

@[simp] theorem about_application (area : UInt16) (function : UInt8) (data : BitView) :
    about half.name (ApplicationMessage.notices area function data) = [] := by
  unfold ApplicationMessage.notices Route.notices
  split
  · rw [about_append]
    split_ifs <;> rfl
  · rfl

@[simp] theorem about_slotPayload (v : BitView) (stop : Nat) :
    about half.name (SlotPayload.notices v stop) = [] := by
  unfold SlotPayload.notices
  split
  · exact about_application half ..
  · rfl

end Notice

namespace Position.Half

/-- The comparison of a value with its range. -/
def check (half : Half) (mmsi : UInt32) (p : Position) : List Notice :=
  Notice.range mmsi half.name (.quantity (half.of p)) (-half.limit) half.unknown

@[simp] theorem about_position (half : Half) (mmsi : UInt32) (p : Position) :
    Notice.about half.name (Notice.position mmsi p) = half.check mmsi p := by
  rw [Notice.position, Notice.about_append]
  cases half with
  | longitude =>
    rw [name, Notice.about_range_self, Notice.about_range_of_ne (by decide), List.append_nil]
    rfl
  | latitude =>
    rw [name, Notice.about_range_self, Notice.about_range_of_ne (by decide), List.nil_append]
    rfl

theorem check_eq {half : Half} {mmsi : UInt32} {p : Position} (hparts : 0 < (half.of p).perUnit) :
    half.check mmsi p =
      if half.IsAnomalous p ∧ ¬ half.IsOverlooked p then [half.notice mmsi p] else [] := by
  show (if (half.of p).between (-half.limit) half.unknown then [] else [half.notice mmsi p]) = _
  rw [← ite_not]
  exact if_congr (not_between_iff hparts) rfl rfl

/-- Among positions, the anomalies that are not overlooked are noticed one after another. -/
theorem flatMap_check {half : Half} {mmsi : UInt32} {ps : List Position}
    (hparts : ∀ p ∈ ps, 0 < (half.of p).perUnit) :
    ps.flatMap (half.check mmsi)
      = (ps.filter fun p => half.IsAnomalous p ∧ ¬ half.IsOverlooked p).map (half.notice mmsi) := by
  induction ps with
  | nil => rfl
  | cons p ps ih =>
    obtain ⟨hp, hps⟩ := List.forall_mem_cons.mp hparts
    rw [List.flatMap_cons, ih hps, check_eq hp]
    by_cases h : half.IsAnomalous p ∧ ¬ half.IsOverlooked p
    · rw [if_pos h, List.filter_cons_of_pos (by simpa using h)]
      rfl
    · rw [if_neg h, List.filter_cons_of_neg (by simpa using h)]
      rfl

end Position.Half

/-! ### The positions of a message -/

/-- The two corners that bound an area. -/
def Area.corners (a : Area) : List Position := [a.northEast, a.southWest]

/-- The positions that a kind of messages has at fixed places. -/
def MessageKind.positions (kind : MessageKind) (v : BitView) : List Position :=
  match kind with
  | .scheduledPosition | .assignedPosition | .polledPosition | .aircraftPosition =>
    [Position.fine v 61]
  | .baseStation | .timeResponse => [Position.fine v 79]
  | .classBPosition | .extendedClassB => [Position.fine v 57]
  | .navigationAid => [Position.fine v 164]
  | .corrections => [Position.coarse v 40]
  | .channelManagement => if v.bit 139 then [] else [Position.coarse v 69, Position.coarse v 104]
  | .groupAssignment => [Position.coarse v 40, Position.coarse v 75]
  | .longRange => [Position.coarse v 44]
  | _ => []

theorem MessageKind.perUnit_pos (kind : MessageKind) (v : BitView) (half : Position.Half) :
    ∀ p ∈ kind.positions v, 0 < (half.of p).perUnit := by
  have hfine : ∀ start, 0 < (half.of (Position.fine v start)).perUnit := by
    cases half <;> exact fun _ => Nat.zero_lt_succ _
  have hcoarse : ∀ start, 0 < (half.of (Position.coarse v start)).perUnit := by
    cases half <;> exact fun _ => Nat.zero_lt_succ _
  cases kind with
  | channelManagement =>
    rw [positions]
    split <;> simp [hcoarse]
  | _ => simp [positions, hfine, hcoarse]

namespace Message

/-- The positions as they were sent: that of the sender, or the corners of an area. -/
def positions : Message → List Position
  | channelManagement r =>
    match r.target with
    | .area a => a.corners
    | .addressed .. => []
  | groupAssignment r => r.area.corners
  | m => m.sentPosition?.toList

theorem positions_readAs (kind : MessageKind) (f : Frame) :
    (readAs kind f).positions = kind.positions f.bits := by
  cases kind with
  | channelManagement =>
    simp only [readAs, positions, ChannelManagement.read, ChannelTarget.decode,
      MessageKind.positions]
    by_cases haddressed : f.bits.bit 139
    · rw [if_pos haddressed, if_pos haddressed]
    · rw [if_neg haddressed, if_neg haddressed]
      rfl
  | _ => rfl

/-- About the two values of a position, every form has just the notices of its positions. -/
theorem about_notices (half : Position.Half) (f : Frame) (m : Message) :
    Notice.about half.name (m.notices f) = m.positions.flatMap (half.check m.mmsi) := by
  -- the other fields that are compared with a range
  have hother : ∀ other ∈ ["month", "day", "hour", "minute", "eta_month", "eta_day",
      "course_over_ground"], other ≠ half.name := by
    cases half <;> decide
  cases m with
  | addressedBinary _ | binaryBroadcast _ => exact Notice.about_application half ..
  | singleSlotBinary _ => exact Notice.about_slotPayload half ..
  | multipleSlotBinary r =>
    rw [notices, MultipleSlotBinary.notices, Notice.about_append, Notice.about_slotPayload,
      Notice.about_communication]
    rfl
  | baseStation r | timeResponse r =>
    simp [notices, positions, sentPosition?, mmsi, header, BaseStationReport.notices,
      Notice.byteRange, Notice.about_range_of_ne (hother _ _)]
  | voyageData r =>
    simp [notices, positions, sentPosition?, VoyageData.notices, Notice.byteRange,
      Notice.about_range_of_ne (hother _ _)]
  | channelManagement r =>
    simp only [notices, ChannelManagement.notices, positions]
    cases r.target <;> simp [Area.notices, Area.corners, mmsi, header]
  | longRange r =>
    simp only [notices, LongRangeReport.notices, positions, sentPosition?, mmsi, header]
    split <;> simp [Notice.about_range_of_ne (hother _ _)]
  | _ =>
    simp [notices, positions, sentPosition?, mmsi, header, ClassAReport.notices,
      AircraftReport.notices, Corrections.notices, ClassBReport.notices,
      ExtendedClassBReport.notices, NavigationAid.notices, GroupAssignment.notices, Area.notices,
      Area.corners]

/-- A message keeps the positions of its frame as they are. About their longitudes and latitudes it
has a notice for each that is anomalous, except for those that are overlooked, and no others. -/
theorem position_notices {f : Frame} {m : Message} (h : decode f = .ok m) :
    (∃ kind ∈ m.kinds, kind.code = f.code ∧ m.positions = kind.positions f.bits) ∧
    ∀ half : Position.Half, Notice.about half.name (m.notices f) =
      (m.positions.filter fun p => half.IsAnomalous p ∧ ¬ half.IsOverlooked p).map
        (half.notice m.mmsi) := by
  obtain ⟨kind, hcode, -, rfl⟩ := exists_admits_of_decode h
  refine ⟨⟨kind, mem_kinds_readAs kind f, hcode, positions_readAs kind f⟩, fun half => ?_⟩
  rw [about_notices]
  refine Position.Half.flatMap_check ?_
  rw [positions_readAs]
  exact kind.perUnit_pos f.bits half

/-- Of the corners of an area the one has a longitude that is overlooked and a latitude that is
noticed, and the other a longitude that is noticed and an unknown latitude. -/
theorem corners_noticed :
    let f := Frame.ofBits (BitView.ofList (BitField.bits
      [⟨6, 23⟩, ⟨34, 0⟩, ⟨18, 108001⟩, ⟨17, 2 ^ 17 - 54001⟩, ⟨18, 2 ^ 18 - 108001⟩, ⟨17, 54600⟩,
        ⟨50, 0⟩]))
    ∃ m, decode f = .ok m ∧
      Notice.about "longitude" (m.notices f)
        = [.outsideRange 0 "longitude" (.quantity ⟨-108001, 600⟩)] ∧
      Notice.about "latitude" (m.notices f)
        = [.outsideRange 0 "latitude" (.quantity ⟨-54001, 600⟩)] := by
  intro f
  have hensure : f.ensure .groupAssignment = .ok () :=
    Frame.ensure_of_allows (by decide +kernel) (by decide +kernel)
  have hdecode : decode f = .ok (readAs .groupAssignment f) := decode_of_ensure hensure (by decide)
  obtain ⟨-, hnotices⟩ := position_notices hdecode
  refine ⟨_, hdecode, (hnotices .longitude).trans ?_, (hnotices .latitude).trans ?_⟩
  · decide +kernel
  · decide +kernel

/-- A longitude between the greatest legal value and the one for an unknown is not noticed. -/
theorem longitude_past_limit_unnoticed :
    let f := Frame.ofBits (BitView.ofList (BitField.bits [⟨6, 27⟩, ⟨38, 0⟩, ⟨18, 108001⟩, ⟨34, 0⟩]))
    ∃ r, decode f = .ok (longRange r) ∧ Position.Half.longitude.IsAnomalous r.position ∧
      (longRange r).positions = [r.position] ∧ (longRange r).notices f = [] := by
  intro f
  have hensure : f.ensure .longRange = .ok () :=
    Frame.ensure_of_allows (by decide +kernel) (by decide +kernel)
  refine ⟨LongRangeReport.read f, decode_of_ensure hensure (by decide), ?_, rfl, ?_⟩
  · decide +kernel
  · decide +kernel

end Message

end VesselTraffic
