import VesselTraffic.Proofs.GroupLists
import VesselTraffic.Proofs.SubViews

/-!
# Lists in application messages

The windows of a tide and the waypoints of a route stand one behind the other to the end of the
payload. Each is read from its own bits, and only if all of these are there. So a list has as many
entries as the payload has room for, up to the most that there may be, and a payload that goes on
has at least the same entries.
-/
namespace VesselTraffic

/-! ### Fields of a part of a view -/

namespace BitView

section

variable {v : BitView} {origin width first last start : Nat}

theorem unsigned_part (h : last ≤ width) :
    (v.slice origin (origin + width)).unsigned first last
      = v.unsigned (origin + first) (origin + last) :=
  (readsAlike_slice (Or.inl (Nat.add_le_add_left h origin))).unsigned

theorem signed_part (h : last ≤ width) :
    (v.slice origin (origin + width)).signed first last = v.signed (origin + first) (origin + last) :=
  (readsAlike_slice (Or.inl (Nat.add_le_add_left h origin))).signed

theorem uint8_part {hwidth : Nat.ble last (first + 8) = true} (h : start + last ≤ width) :
    (v.slice origin (origin + width)).uint8 first last start hwidth
      = v.uint8 first last (origin + start) hwidth := by
  rw [uint8, uint8, unsigned_part h, Nat.add_assoc, Nat.add_assoc]

theorem uint16_part {hwidth : Nat.ble last (first + 16) = true} (h : start + last ≤ width) :
    (v.slice origin (origin + width)).uint16 first last start hwidth
      = v.uint16 first last (origin + start) hwidth := by
  rw [uint16, uint16, unsigned_part h, Nat.add_assoc, Nat.add_assoc]

theorem unsignedParts_part {perUnit : Nat} {hwidth : Nat.ble last (first + 32) = true}
    (h : start + last ≤ width) :
    (v.slice origin (origin + width)).unsignedParts first last perUnit start hwidth
      = v.unsignedParts first last perUnit (origin + start) hwidth := by
  rw [unsignedParts, unsignedParts, unsigned_part h, Nat.add_assoc, Nat.add_assoc]

theorem signedParts_part {perUnit : Nat} {hwidth : Nat.ble last (first + 32) = true}
    (h : start + last ≤ width) :
    (v.slice origin (origin + width)).signedParts first last perUnit start hwidth
      = v.signedParts first last perUnit (origin + start) hwidth := by
  rw [signedParts, signedParts, signed_part h, Nat.add_assoc, Nat.add_assoc]

end

/-! ### Groups of one width -/

section

variable {α : Type} {v w : BitView} {start width most : Nat} {read read' : Nat → α}

@[simp] theorem length_groups :
    (v.groups start width most read).length = min most ((v.len - start) / width) := by
  simp [groups, groupCount]

theorem getElem?_groups {i : Nat} (h : i < v.groupCount start width most) :
    (v.groups start width most read)[i]? = some (read (start + width * i)) := by
  simp [groups, h]

/-- A group that is read ends inside the view. -/
theorem groups_end_le {i : Nat} (h : i < v.groupCount start width most) :
    start + width * (i + 1) ≤ v.len := by
  have hroom : i + 1 ≤ (v.len - start) / width := Nat.le_trans h (Nat.min_le_right _ _)
  have hwidth : 0 < width := by
    apply Nat.pos_of_ne_zero
    rintro rfl
    simp at hroom
  have hpos : 0 < width * (i + 1) := Nat.mul_pos hwidth (Nat.succ_pos i)
  rw [Nat.le_div_iff_mul_le hwidth, Nat.mul_comm] at hroom
  omega

/-- Two views that read the same where the shorter one has groups. -/
theorem groups_isPrefix (hlen : v.len ≤ w.len)
    (hread : ∀ i, i < v.groupCount start width most →
      read (start + width * i) = read' (start + width * i)) :
    v.groups start width most read <+: w.groups start width most read' := by
  have hcount : v.groupCount start width most ≤ w.groupCount start width most := by
    have hroom : (v.len - start) / width ≤ (w.len - start) / width :=
      Nat.div_le_div_right (Nat.sub_le_sub_right hlen start)
    simp only [groupCount]
    omega
  rw [List.prefix_iff_getElem?]
  intro i hi
  have hi : i < v.groupCount start width most := by simpa [groupCount] using hi
  rw [getElem?_groups (Nat.lt_of_lt_of_le hi hcount), ← hread i hi, ← getElem?_groups hi]
  exact List.getElem?_eq_getElem _

end

end BitView

/-! ### Entries -/

/-- An entry of a list in an application message. -/
inductive ApplicationEntry
  | window (entry : TidalWindowEntry)
  | waypoint (position : Position)
  deriving DecidableEq, Repr

def ApplicationMessage.entries : ApplicationMessage → List ApplicationEntry
  | .tidalWindow w => w.windows.map .window
  | .route r => r.waypoints.map .waypoint
  | _ => []

/-- The lists that there are: windows in the old layout and in the new one, and waypoints. -/
inductive EntryForm
  | oldWindow
  | newWindow
  | waypoint
  deriving DecidableEq, Repr

namespace EntryForm

/-- Where the first entry begins. -/
def start : EntryForm → Nat
  | oldWindow | newWindow => 9
  | waypoint => 61

def width : EntryForm → Nat
  | oldWindow => 93
  | newWindow => 87
  | waypoint => 55

/-- There are three windows at most, and as many waypoints as the route declares. -/
def most (form : EntryForm) (v : BitView) : Nat :=
  match form with
  | oldWindow | newWindow => 3
  | waypoint => v.unsigned 56 61

/-- The bits of an entry. -/
def part (form : EntryForm) (v : BitView) (i : Nat) : BitView :=
  v.slice (form.start + form.width * i) (form.start + form.width * (i + 1))

/-- Reads an entry from its bits. -/
def read (form : EntryForm) (bits : BitView) : ApplicationEntry :=
  match form with
  | oldWindow => .window (TidalWindowEntry.decodeOld bits 0)
  | newWindow => .window (TidalWindowEntry.decodeNew bits 0)
  | waypoint => .waypoint (Position.fine bits 0)

/-- An old window is read from its own bits. -/
theorem decodeOld_part (v : BitView) (origin : Nat) :
    TidalWindowEntry.decodeOld (v.slice origin (origin + TidalWindowEntry.oldWidth)) 0
      = TidalWindowEntry.decodeOld v origin := by
  simp (disch := decide) only [TidalWindowEntry.decodeOld, TidalWindowEntry.behind,
    TidalWindowEntry.oldWidth, BitView.uint8_part, BitView.uint16_part, BitView.signedParts_part,
    BitView.unsignedParts_part, Nat.zero_add, Nat.add_zero]

theorem decodeNew_part (v : BitView) (origin : Nat) :
    TidalWindowEntry.decodeNew (v.slice origin (origin + TidalWindowEntry.newWidth)) 0
      = TidalWindowEntry.decodeNew v origin := by
  simp (disch := decide) only [TidalWindowEntry.decodeNew, TidalWindowEntry.behind,
    TidalWindowEntry.newWidth, Position.medium, BitView.uint8_part, BitView.uint16_part,
    BitView.signedParts_part, BitView.unsignedParts_part, Nat.zero_add, Nat.add_zero]

theorem fine_part (v : BitView) (origin : Nat) :
    Position.fine (v.slice origin (origin + Route.waypointWidth)) 0 = Position.fine v origin := by
  simp (disch := decide) only [Position.fine, Route.waypointWidth, BitView.signedParts_part,
    Nat.add_zero]

/-- How many waypoints are declared is told in front of them. -/
theorem most_congr (form : EntryForm) {v w : BitView} (h : v.toList <+: w.toList)
    (hlen : form.start ≤ v.len) : form.most v = form.most w := by
  cases form with
  | oldWindow | newWindow => rfl
  | waypoint =>
    apply BitView.unsigned_congr rfl
    intro i hi
    apply BitView.bit_eq_of_isPrefix h
    simp only [start] at hlen
    omega

end EntryForm

namespace ApplicationMessage

/-- The applications with a list. -/
def listed : List (UInt16 × UInt8 × EntryForm) :=
  [(1, 14, .oldWindow), (1, 32, .newWindow), (1, 27, .waypoint), (1, 28, .waypoint)]

variable {area : UInt16} {function : UInt8} {form : EntryForm}

/-- The entries are groups, each read from its own bits. -/
theorem entries_decode (h : (area, function, form) ∈ listed) (v : BitView) :
    (decode area function v).entries
      = v.groups form.start form.width (form.most v)
          fun origin => form.read (v.slice origin (origin + form.width)) := by
  simp only [listed, List.mem_cons, List.not_mem_nil, or_false, Prod.mk.injEq] at h
  have hold := EntryForm.decodeOld_part v
  have hnew := EntryForm.decodeNew_part v
  have hfine := EntryForm.fine_part v
  obtain ⟨rfl, rfl, rfl⟩ | ⟨rfl, rfl, rfl⟩ | ⟨rfl, rfl, rfl⟩ | ⟨rfl, rfl, rfl⟩ := h
  · refine (BitView.map_groups ApplicationEntry.window _).trans ?_
    simp only [← hold]
    rfl
  · refine (BitView.map_groups ApplicationEntry.window _).trans ?_
    simp only [← hnew]
    rfl
  all_goals
    refine (BitView.map_groups ApplicationEntry.waypoint _).trans ?_
    simp only [← hfine]
    rfl

theorem length_entries (h : (area, function, form) ∈ listed) (v : BitView) :
    (decode area function v).entries.length
      = min (form.most v) ((v.len - form.start) / form.width) := by
  rw [entries_decode h, BitView.length_groups]

theorem getElem?_entries (h : (area, function, form) ∈ listed) {v : BitView} {i : Nat}
    (hi : i < (decode area function v).entries.length) :
    form.start + form.width * (i + 1) ≤ v.len ∧
      (decode area function v).entries[i]? = some (form.read (form.part v i)) := by
  have hcount : i < v.groupCount form.start form.width (form.most v) := by
    rwa [length_entries h] at hi
  refine ⟨BitView.groups_end_le hcount, ?_⟩
  rw [entries_decode h, BitView.getElem?_groups hcount, EntryForm.part, Nat.mul_succ, Nat.add_assoc]

/-- A payload that goes on tells the same entries first. -/
theorem entries_isPrefix (h : (area, function, form) ∈ listed) {v w : BitView}
    (hbits : v.toList <+: w.toList) :
    (decode area function v).entries <+: (decode area function w).entries := by
  by_cases hlen : form.start ≤ v.len
  · rw [entries_decode h, entries_decode h, ← form.most_congr hbits hlen]
    apply BitView.groups_isPrefix (BitView.len_le_of_isPrefix hbits)
    intro i hi
    have hend := BitView.groups_end_le hi
    rw [Nat.mul_succ] at hend
    apply congrArg form.read
    apply BitView.slice_congr rfl
    intro j hj
    apply BitView.bit_eq_of_isPrefix hbits
    omega
  · have hnone : (decode area function v).entries = [] := by
      apply List.eq_nil_of_length_eq_zero
      rw [length_entries h, Nat.sub_eq_zero_of_le (by omega), Nat.zero_div, Nat.min_zero]
    rw [hnone]
    exact List.nil_prefix

theorem of?_eq_route_iff :
    ApplicationLayout.of? area function = some .route ↔ (area, function, .waypoint) ∈ listed := by
  constructor
  · intro h
    unfold ApplicationLayout.of? at h
    split at h <;> simp only [reduceCtorEq, Option.some.injEq] at h
    all_goals simp_all [listed, ← UInt8.toNat_inj, ← UInt16.toNat_inj]
  · simp only [listed, List.mem_cons, List.not_mem_nil, or_false, Prod.mk.injEq, reduceCtorEq,
      and_false, false_or]
    rintro (⟨rfl, rfl, -⟩ | ⟨rfl, rfl, -⟩) <;> rfl

/-- Waypoints are missed just where more are declared than there is room for. -/
theorem waypointsMissing_mem_notices {v : BitView} {declared available : Nat} :
    .waypointsMissing declared available ∈ notices area function v ↔
      (area, function, .waypoint) ∈ listed ∧ declared = v.unsigned 56 61 ∧
        available = (v.len - 61) / 55 ∧ available < declared := by
  have hroute : .waypointsMissing declared available ∈ Route.notices v ↔
      declared = v.unsigned 56 61 ∧ available = (v.len - 61) / 55 ∧ available < declared := by
    unfold Route.notices Route.declared Route.available Route.waypointWidth
    split
    case isTrue hless =>
      simp only [List.mem_singleton, Notice.waypointsMissing.injEq]
      omega
    case isFalse hless =>
      simp only [List.not_mem_nil, false_iff]
      omega
  rw [← of?_eq_route_iff, ← hroute, notices]
  cases h : ApplicationLayout.of? area function with
  | none => simp
  | some layout => simp

/-- A list in an application message has as many entries as its payload has room for, up to the
most that there may be. Each entry is read from its own bits, all of which the payload has. If the
payload goes on, the entries that it told before are told again, and first. It is noticed just of
routes, and just if more waypoints are declared than there is room for, that waypoints are missing. -/
theorem lists_whole_and_bounded :
    (∀ area function form, (area, function, form) ∈ listed → ∀ data : BitView,
      (decode area function data).entries.length
        = min (form.most data) ((data.len - form.start) / form.width) ∧
      (∀ i, i < (decode area function data).entries.length →
        form.start + form.width * (i + 1) ≤ data.len ∧
          (decode area function data).entries[i]? = some (form.read (form.part data i))) ∧
      ∀ longer : BitView, data.toList <+: longer.toList →
        (decode area function data).entries <+: (decode area function longer).entries) ∧
    ∀ area function (data : BitView) declared available,
      .waypointsMissing declared available ∈ notices area function data ↔
        (area, function, .waypoint) ∈ listed ∧ declared = data.unsigned 56 61 ∧
          available = (data.len - 61) / 55 ∧ available < declared := by
  constructor
  · intro area function form h data
    exact ⟨length_entries h data, fun i hi => getElem?_entries h hi, fun w hw => entries_isPrefix h hw⟩
  · intro area function data declared available
    exact waypointsMissing_mem_notices

/-- Of two waypoints the second one is cut in the middle, and is there once the payload goes on. -/
theorem cut_waypoint_left_out :
    let bs := List.replicate 59 false ++ [true, false] ++ List.replicate 89 true
    let data := BitView.ofList bs
    let longer := BitView.ofList (bs ++ List.replicate 21 false)
    (1, 27, .waypoint) ∈ listed ∧ data.toList <+: longer.toList ∧
      (decode 1 27 data).entries.length = 1 ∧
      (decode 1 27 data).entries[0]? = some (.waypoint ⟨⟨-1, 600000⟩, ⟨-1, 600000⟩⟩) ∧
      (decode 1 27 data).entries <+: (decode 1 27 longer).entries ∧
      .waypointsMissing 2 1 ∈ notices 1 27 data := by
  intro bs data longer
  have hlisted : (1, 27, .waypoint) ∈ listed := by decide
  have hbits : data.toList <+: longer.toList := by
    rw [BitView.toList_ofList, BitView.toList_ofList]
    exact List.prefix_append _ _
  obtain ⟨hlength, hentry, hlonger⟩ := lists_whole_and_bounded.1 1 27 .waypoint hlisted data
  have hone : (decode 1 27 data).entries.length = 1 := hlength.trans (by decide +kernel)
  have hfirst := (hentry 0 (by omega)).2
  have hread : EntryForm.waypoint.read (EntryForm.waypoint.part data 0)
      = .waypoint ⟨⟨-1, 600000⟩, ⟨-1, 600000⟩⟩ := by decide +kernel
  have hmissing := (lists_whole_and_bounded.2 1 27 data 2 1).mpr ⟨hlisted, by decide +kernel⟩
  exact ⟨hlisted, hbits, hone, hfirst.trans (congrArg some hread), hlonger longer hbits, hmissing⟩

end ApplicationMessage

end VesselTraffic
