import Mathlib.Algebra.BigOperators.Group.List.Lemmas
import Mathlib.Algebra.Order.Ring.Int
import VesselTraffic.Proofs.Dispatch
import VesselTraffic.StationTable

/-!
# What a table of stations tells

The entry of a station is decided by the messages that the station itself sent: their
number, the kind of the last one, and of position, speed and name the last that any of
them told. So it does not matter how the messages of several stations are mixed, nor in
which order the entries are kept before they are sorted.
-/
namespace VesselTraffic

/-! ## What one message tells -/

namespace Position

/-- Neither half stands for an unknown one: the longitude is not 181 degrees, the latitude not 91. -/
structure IsKnown (p : Position) : Prop where
  longitude : p.longitude.raw ≠ 181 * p.longitude.perUnit
  latitude : p.latitude.raw ≠ 91 * p.latitude.perUnit

theorem known?_eq_some_iff {p q : Position} : p.known? = some q ↔ p.IsKnown ∧ p = q := by
  have hfields : p.IsKnown ↔ p.longitude.raw ≠ 181 * p.longitude.perUnit ∧
      p.latitude.raw ≠ 91 * p.latitude.perUnit :=
    ⟨fun h => ⟨h.longitude, h.latitude⟩, fun ⟨hlongitude, hlatitude⟩ => ⟨hlongitude, hlatitude⟩⟩
  simp [hfields, known?, Quantity.isExactly, longitudeUnknown, latitudeUnknown]

end Position

namespace Message

/-- Reports of vessels, aircraft, base stations and aids to navigation tell a position, as answers to
a time inquiry and corrections do. One with an unknown half tells none. -/
inductive TellsPosition : Message → Position → Prop
  | classA {r : ClassAReport} (known : r.position.IsKnown) : TellsPosition (.classA r) r.position
  | baseStation {r : BaseStationReport} (known : r.position.IsKnown) :
      TellsPosition (.baseStation r) r.position
  | timeResponse {r : BaseStationReport} (known : r.position.IsKnown) :
      TellsPosition (.timeResponse r) r.position
  | aircraft {r : AircraftReport} (known : r.position.IsKnown) :
      TellsPosition (.aircraft r) r.position
  | corrections {r : Corrections} (known : r.position.IsKnown) :
      TellsPosition (.corrections r) r.position
  | classB {r : ClassBReport} (known : r.position.IsKnown) : TellsPosition (.classB r) r.position
  | extendedClassB {r : ExtendedClassBReport} (known : r.position.IsKnown) :
      TellsPosition (.extendedClassB r) r.position
  | navigationAid {r : NavigationAid} (known : r.position.IsKnown) :
      TellsPosition (.navigationAid r) r.position
  | longRange {r : LongRangeReport} (known : r.position.IsKnown) :
      TellsPosition (.longRange r) r.position

/-- A speed below 102.3 knots, or below 63 knots in a long-range report, is a known one. -/
inductive TellsKnots : Message → Quantity → Prop
  | classA {r : ClassAReport} (known : 10 * r.speed.raw < 1023 * r.speed.perUnit) :
      TellsKnots (.classA r) r.speed
  | classB {r : ClassBReport} (known : 10 * r.speed.raw < 1023 * r.speed.perUnit) :
      TellsKnots (.classB r) r.speed
  | extendedClassB {r : ExtendedClassBReport} (known : 10 * r.speed.raw < 1023 * r.speed.perUnit) :
      TellsKnots (.extendedClassB r) r.speed
  | longRange {r : LongRangeReport} (known : r.speed < 63) :
      TellsKnots (.longRange r) (.ofNat r.speed.toNat)

/-- Static data tell a name in their first part only. -/
inductive TellsName : Message → String → Prop
  | voyageData {r : VoyageData} (known : r.name ≠ "") : TellsName (.voyageData r) r.name
  | extendedClassB {r : ExtendedClassBReport} (known : r.name ≠ "") :
      TellsName (.extendedClassB r) r.name
  | staticData {header : Header} {name : String} (known : name ≠ "") :
      TellsName (.staticData ⟨header, .a name⟩) name
  | navigationAid {r : NavigationAid} (known : r.name ≠ "") : TellsName (.navigationAid r) r.name

variable {m : Message}

theorem position?_eq_some_iff {p : Position} : m.position? = some p ↔ m.TellsPosition p := by
  constructor
  · intro h
    obtain ⟨sent, hsent, hknown⟩ := Option.bind_eq_some_iff.mp h
    obtain ⟨known, rfl⟩ := Position.known?_eq_some_iff.mp hknown
    cases m with
    | classA | baseStation | timeResponse | aircraft | corrections | classB | extendedClassB
    | navigationAid | longRange =>
      cases hsent
      constructor
      exact known
    | _ => contradiction
  · intro h
    cases h with
    | classA known | baseStation known | timeResponse known | aircraft known | corrections known
    | classB known | extendedClassB known | navigationAid known | longRange known =>
      exact Position.known?_eq_some_iff.mpr ⟨known, rfl⟩

theorem known_eq_some_iff {speed k : Quantity} :
    knots?.known speed = some k ↔ 10 * speed.raw < 1023 * speed.perUnit ∧ speed = k := by
  simp [knots?.known]

theorem knots?_eq_some_iff {k : Quantity} : m.knots? = some k ↔ m.TellsKnots k := by
  constructor
  · intro h
    cases m with
    | classA r | classB r | extendedClassB r =>
      obtain ⟨known, rfl⟩ := known_eq_some_iff.mp h
      constructor
      exact known
    | longRange r =>
      simp only [knots?, Option.ite_none_right_eq_some, Option.some.injEq] at h
      obtain ⟨known, rfl⟩ := h
      exact .longRange known
    | _ => contradiction
  · rintro (known | known | known | known)
    · exact known_eq_some_iff.mpr ⟨known, rfl⟩
    · exact known_eq_some_iff.mpr ⟨known, rfl⟩
    · exact known_eq_some_iff.mpr ⟨known, rfl⟩
    · exact if_pos known

theorem senderName?_eq_some_iff {name : String} : m.senderName? = some name ↔ m.TellsName name := by
  constructor
  · intro h
    obtain ⟨hname, known⟩ := Option.filter_eq_some_iff.mp h
    have known : name ≠ "" := by simpa using known
    split at hname <;> cases hname
    · exact .voyageData known
    · exact .extendedClassB known
    · exact .staticData known
    · exact .navigationAid known
  · rintro (known | known | known | known) <;> simp [senderName?, known]

theorem TellsPosition.code {p : Position} (h : m.TellsPosition p) :
    ∀ kind ∈ m.kinds, kind.code ∈ [1, 2, 3, 4, 9, 11, 17, 18, 19, 21, 27] := by
  cases h <;> simp [kinds, MessageKind.code]

theorem TellsKnots.code {k : Quantity} (h : m.TellsKnots k) :
    ∀ kind ∈ m.kinds, kind.code ∈ [1, 2, 3, 18, 19, 27] := by
  cases h <;> simp [kinds, MessageKind.code]

theorem TellsName.code {name : String} (h : m.TellsName name) :
    ∀ kind ∈ m.kinds, kind.code ∈ [5, 19, 21, 24] := by
  cases h <;> simp [kinds, MessageKind.code]

end Message

/-! ## What the messages of one sender tell -/

/-- The last that any of some messages tells, or nothing if none of them tells any. -/
def LastTold {α : Type} (tells : Message → α → Prop) (ms : List Message) : Option α → Prop
  | some a => ∃ before m after, ms = before ++ m :: after ∧ tells m a ∧
      ∀ later ∈ after, ∀ b, ¬ tells later b
  | none => ∀ m ∈ ms, ∀ a, ¬ tells m a

theorem lastTold_findSome? {α : Type} {tells : Message → α → Prop} {read : Message → Option α}
    (hread : ∀ {m a}, read m = some a ↔ tells m a) (ms : List Message) :
    LastTold tells ms (ms.reverse.findSome? read) := by
  have hnone : ∀ {m}, read m = none → ∀ a, ¬ tells m a := by
    intro m hm a htells
    rw [hread.mpr htells] at hm
    contradiction
  cases h : ms.reverse.findSome? read with
  | none =>
    intro m hm
    exact hnone (List.findSome?_eq_none_iff.mp h m (List.mem_reverse.mpr hm))
  | some a =>
    obtain ⟨after, m, before, hsplit, hm, hafter⟩ := List.findSome?_eq_some_iff.mp h
    refine ⟨before.reverse, m, after.reverse, ?_, hread.mp hm, ?_⟩
    · simpa using congrArg List.reverse hsplit
    · intro later hlater
      exact hnone (hafter later (List.mem_reverse.mp hlater))

namespace Station

/-- A station as its own messages tell of it. -/
structure Describes (s : Station) (own : List Message) : Prop where
  messages : s.messages = own.length
  lastType : own.getLast?.map Message.messageType = some s.lastType
  position : LastTold Message.TellsPosition own s.position
  knots : LastTold Message.TellsKnots own s.knots
  name : LastTold Message.TellsName own s.name

/-- The station with a number of which some messages tell, if there are any. -/
def heard (mmsi : UInt32) (own : List Message) : Option Station :=
  own.getLast?.map fun last => {
    mmsi := mmsi
    name := own.reverse.findSome? Message.senderName?
    lastType := last.messageType
    position := own.reverse.findSome? Message.position?
    knots := own.reverse.findSome? Message.knots?
    messages := own.length }

theorem findSome?_reverse_concat {α : Type} (read : Message → Option α) (own : List Message)
    (m : Message) : (own ++ [m]).reverse.findSome? read = (read m).or (own.reverse.findSome? read) := by
  rw [List.reverse_append, List.findSome?_append]
  simp

theorem heard_concat (mmsi : UInt32) (own : List Message) (m : Message) :
    heard mmsi (own ++ [m]) = some (((heard mmsi own).getD { mmsi := mmsi }).update m) := by
  cases hlast : own.getLast? with
  | none =>
    obtain rfl := List.getLast?_eq_none_iff.mp hlast
    simp [heard, update]
  | some last => simp [heard, update, hlast, -List.reverse_append, findSome?_reverse_concat]

theorem describes_of_heard {mmsi : UInt32} {own : List Message} {s : Station}
    (h : heard mmsi own = some s) : s.mmsi = mmsi ∧ s.Describes own := by
  obtain ⟨last, hlast, rfl⟩ := Option.map_eq_some_iff.mp h
  refine ⟨rfl, rfl, congrArg _ hlast, ?_, ?_, ?_⟩
  · exact lastTold_findSome? Message.position?_eq_some_iff own
  · exact lastTold_findSome? Message.knots?_eq_some_iff own
  · exact lastTold_findSome? Message.senderName?_eq_some_iff own

end Station

/-! ## The entries of a table -/

/-- The messages of one sender, in their order. -/
def sentBy (mmsi : UInt32) (ms : List Message) : List Message := ms.filter fun m => m.mmsi == mmsi

theorem sentBy_concat (mmsi : UInt32) (ms : List Message) (m : Message) :
    sentBy mmsi (ms ++ [m]) = if m.mmsi = mmsi then sentBy mmsi ms ++ [m] else sentBy mmsi ms := by
  rw [sentBy, List.filter_append]
  by_cases hmmsi : m.mmsi = mmsi <;> simp [hmmsi, sentBy]

namespace StationTable

def ofMessages (ms : List Message) : StationTable := ms.foldl update {}

/-- The numbers of the stations in a table. -/
def numbers (t : StationTable) : List UInt32 := t.stations.map Station.mmsi

theorem ofMessages_concat (ms : List Message) (m : Message) :
    ofMessages (ms ++ [m]) = (ofMessages ms).update m := by
  rw [ofMessages, List.foldl_concat]
  rfl

variable {t : StationTable} {m : Message} {mmsi : UInt32}

theorem any_iff_mem_numbers : (t.stations.any fun s => s.mmsi == mmsi) ↔ mmsi ∈ t.numbers := by
  simp [numbers, List.mem_map]

theorem update_of_mem (h : m.mmsi ∈ t.numbers) : t.update m =
    ⟨t.stations.map fun s => if s.mmsi == m.mmsi then s.update m else s⟩ :=
  if_pos (any_iff_mem_numbers.mpr h)

theorem update_of_not_mem (h : m.mmsi ∉ t.numbers) :
    t.update m = ⟨t.stations ++ [Station.update { mmsi := m.mmsi } m]⟩ :=
  if_neg (mt any_iff_mem_numbers.mp h)

theorem mmsi_update_if (s : Station) :
    (if s.mmsi == m.mmsi then s.update m else s).mmsi = s.mmsi := by
  split <;> rfl

theorem numbers_update : (t.update m).numbers =
    if m.mmsi ∈ t.numbers then t.numbers else t.numbers ++ [m.mmsi] := by
  split_ifs with h
  · rw [update_of_mem h, numbers, List.map_map]
    exact List.map_congr_left fun s _ => mmsi_update_if s
  · rw [update_of_not_mem h, numbers, List.map_append]
    rfl

theorem find?_isSome_iff : (t.find? mmsi).isSome ↔ mmsi ∈ t.numbers := by
  simp [find?, numbers]

/-- A message changes the entry of its sender and no other. -/
theorem find?_update : (t.update m).find? mmsi =
    if m.mmsi = mmsi then some (((t.find? mmsi).getD { mmsi := mmsi }).update m)
    else t.find? mmsi := by
  by_cases hmem : m.mmsi ∈ t.numbers
  · have hkeeps : (fun s : Station => s.mmsi == mmsi) ∘
        (fun s => if s.mmsi == m.mmsi then s.update m else s) = fun s => s.mmsi == mmsi :=
      funext fun s => congrArg (· == mmsi) (mmsi_update_if s)
    rw [update_of_mem hmem, find?, List.find?_map, hkeeps]
    cases hfind : t.stations.find? fun s => s.mmsi == mmsi with
    | none =>
      have hne : m.mmsi ≠ mmsi := by
        rintro rfl
        simp [← find?_isSome_iff, find?, hfind] at hmem
      simp [find?, hfind, hne]
    | some s =>
      have hs : s.mmsi = mmsi := by simpa using List.find?_some hfind
      simp only [find?, hfind, hs, Option.map_some, Option.getD_some, beq_iff_eq, eq_comm (a := mmsi)]
      split_ifs <;> rfl
  · have hnone : t.find? m.mmsi = none := by
      rw [← Option.not_isSome_iff_eq_none, find?_isSome_iff]
      exact hmem
    rw [update_of_not_mem hmem, find?, List.find?_append]
    by_cases hmmsi : m.mmsi = mmsi
    · subst hmmsi
      rw [find?] at hnone
      simp [find?, hnone, Station.update]
    · simp [find?, hmmsi, Station.update]

/-- Every station has the entry that its own messages make. -/
theorem find?_ofMessages (ms : List Message) (mmsi : UInt32) :
    (ofMessages ms).find? mmsi = Station.heard mmsi (sentBy mmsi ms) := by
  induction ms using List.reverseRecOn with
  | nil => rfl
  | append_singleton ms m ih =>
    rw [ofMessages_concat, find?_update, ih, sentBy_concat]
    split_ifs
    · rw [Station.heard_concat]
    · rfl

theorem mem_numbers_ofMessages {ms : List Message} :
    mmsi ∈ (ofMessages ms).numbers ↔ mmsi ∈ ms.map Message.mmsi := by
  rw [← find?_isSome_iff, find?_ofMessages]
  simp [Station.heard, sentBy]

theorem nodup_numbers_ofMessages (ms : List Message) : (ofMessages ms).numbers.Nodup := by
  induction ms using List.reverseRecOn with
  | nil => exact List.nodup_nil
  | append_singleton ms m ih =>
    rw [ofMessages_concat, numbers_update]
    split_ifs with h
    · exact ih
    · exact List.nodup_append.mpr ⟨ih, by simp, by simpa using fun a ha => by rintro rfl; exact h ha⟩

/-- With one entry for a station, the entries are those that are found. -/
theorem mem_stations_iff (h : t.numbers.Nodup) {s : Station} :
    s ∈ t.stations ↔ t.find? s.mmsi = some s := by
  constructor
  · intro hs
    obtain ⟨s', hs'⟩ := Option.isSome_iff_exists.mp
      (find?_isSome_iff.mpr (List.mem_map_of_mem (f := Station.mmsi) hs))
    have hmem : s' ∈ t.stations := List.mem_of_find?_eq_some hs'
    have hmmsi : s'.mmsi = s.mmsi := by simpa using List.find?_some hs'
    rw [hs', List.inj_on_of_nodup_map h hmem hs hmmsi]
  · exact List.mem_of_find?_eq_some

theorem perm_stations {t' : StationTable} (h : t.numbers.Nodup) (h' : t'.numbers.Nodup)
    (hfind : ∀ mmsi, t.find? mmsi = t'.find? mmsi) : t.stations.Perm t'.stations := by
  rw [List.perm_ext_iff_of_nodup (List.Nodup.of_map _ h) (List.Nodup.of_map _ h')]
  intro s
  rw [mem_stations_iff h, mem_stations_iff h', hfind]

/-- Every message is counted once, by its sender's entry. -/
theorem sum_messages_ofMessages (ms : List Message) :
    ((ofMessages ms).stations.map Station.messages).sum = ms.length := by
  have hcount : ∀ s ∈ (ofMessages ms).stations,
      s.messages = (ms.map Message.mmsi).count s.mmsi := by
    intro s hs
    have hheard := (mem_stations_iff (nodup_numbers_ofMessages ms)).mp hs
    rw [find?_ofMessages] at hheard
    rw [(Station.describes_of_heard hheard).2.messages, sentBy, ← List.countP_eq_length_filter,
      List.count, List.countP_map]
    rfl
  have hnumbers : (ofMessages ms).numbers.Perm (ms.map Message.mmsi).dedup := by
    rw [List.perm_ext_iff_of_nodup (nodup_numbers_ofMessages ms) (List.nodup_dedup _)]
    intro mmsi
    rw [mem_numbers_ofMessages, List.mem_dedup]
  calc ((ofMessages ms).stations.map Station.messages).sum
      = ((ofMessages ms).numbers.map fun mmsi => (ms.map Message.mmsi).count mmsi).sum := by
        rw [numbers, List.map_map]
        exact congrArg List.sum (List.map_congr_left hcount)
    _ = ((ms.map Message.mmsi).dedup.map fun mmsi => (ms.map Message.mmsi).count mmsi).sum :=
        (hnumbers.map _).sum_eq
    _ = ms.length := by rw [List.sum_map_count_dedup_eq_length, List.length_map]

end StationTable

/-! ## The sorted table -/

namespace Station

variable {a b c : Station}

/-- One station stands before another in the sorted table. -/
def Before (a b : Station) : Prop :=
  b.messages < a.messages ∨ a.messages = b.messages ∧ a.mmsi < b.mmsi

theorem precedes_iff :
    a.precedes b ↔ b.messages < a.messages ∨ a.messages = b.messages ∧ a.mmsi ≤ b.mmsi := by
  simp [precedes]

theorem precedes_trans (hab : a.precedes b) (hbc : b.precedes c) : a.precedes c := by
  rw [precedes_iff, UInt32.le_iff_toNat_le] at *
  omega

theorem precedes_total (a b : Station) : (a.precedes b || b.precedes a) = true := by
  rw [Bool.or_eq_true, precedes_iff, precedes_iff, UInt32.le_iff_toNat_le, UInt32.le_iff_toNat_le]
  omega

theorem before_of_precedes (h : a.precedes b) (hne : a.mmsi ≠ b.mmsi) : a.Before b := by
  rw [precedes_iff] at h
  rw [Before, UInt32.lt_iff_toNat_lt]
  rw [UInt32.le_iff_toNat_le] at h
  rw [Ne, ← UInt32.toNat_inj] at hne
  omega

theorem Before.asymm (h : a.Before b) : ¬ b.Before a := by
  rw [Before, UInt32.lt_iff_toNat_lt] at *
  omega

variable {l l' : List Station}

theorem pairwise_before_mergeSort (h : (l.map mmsi).Nodup) :
    (l.mergeSort precedes).Pairwise Before := by
  have hsorted : (l.mergeSort precedes).Pairwise fun a b => a.precedes b := by
    apply List.pairwise_mergeSort
    · exact fun _ _ _ => precedes_trans
    · exact precedes_total
  have hnodup : ((l.mergeSort precedes).map mmsi).Nodup :=
    ((List.mergeSort_perm l precedes).map mmsi).nodup_iff.mpr h
  exact hsorted.imp₂ (fun _ _ => before_of_precedes) (List.pairwise_map.mp hnodup)

/-- The order before sorting does not show in the sorted list. -/
theorem mergeSort_eq_of_perm (h : l.Perm l') (hl : (l.map mmsi).Nodup) :
    l.mergeSort precedes = l'.mergeSort precedes := by
  have hl' : (l'.map mmsi).Nodup := (h.map mmsi).nodup_iff.mp hl
  have hperm : (l.mergeSort precedes).Perm (l'.mergeSort precedes) :=
    (List.mergeSort_perm l precedes).trans (h.trans (List.mergeSort_perm l' precedes).symm)
  exact hperm.eq_of_pairwise (fun a b _ _ hab hba => absurd hba hab.asymm)
    (pairwise_before_mergeSort hl) (pairwise_before_mergeSort hl')

end Station

namespace StationTable

/-- A table made of messages has an entry for exactly the senders that occur, and the entry
tells what the sender's own messages told: their number, the kind of the last, and the last
known position, speed and name. So feeds in which every sender sends the same have the same
sorted table, and it is the same in whatever order the entries were kept. It names every
sender once, the busiest first and smaller numbers first among equals, and counts every
message once. -/
theorem table_of_messages (ms : List Message) :
    let table := ofMessages ms
    (∀ mmsi, (table.find? mmsi).isSome ↔ mmsi ∈ ms.map Message.mmsi) ∧
    (∀ mmsi s, table.find? mmsi = some s → s.mmsi = mmsi ∧ s.Describes (sentBy mmsi ms)) ∧
    (∀ m p, Message.TellsPosition m p →
      ∀ kind ∈ m.kinds, kind.code ∈ [1, 2, 3, 4, 9, 11, 17, 18, 19, 21, 27]) ∧
    (∀ m k, Message.TellsKnots m k → ∀ kind ∈ m.kinds, kind.code ∈ [1, 2, 3, 18, 19, 27]) ∧
    (∀ m name, Message.TellsName m name → ∀ kind ∈ m.kinds, kind.code ∈ [5, 19, 21, 24]) ∧
    (∀ ms', (∀ mmsi, sentBy mmsi ms' = sentBy mmsi ms) → (ofMessages ms').sorted = table.sorted) ∧
    (∀ stations : List Station, stations.Perm table.stations →
      stations.mergeSort Station.precedes = table.sorted) ∧
    (∀ s, s ∈ table.sorted ↔ table.find? s.mmsi = some s) ∧
    (table.sorted.map Station.mmsi).Nodup ∧
    table.sorted.Pairwise Station.Before ∧
    (table.sorted.map Station.messages).sum = ms.length := by
  intro table
  have hnodup : table.numbers.Nodup := nodup_numbers_ofMessages ms
  have hperm : table.sorted.Perm table.stations := List.mergeSort_perm _ _
  refine ⟨?_, ?_, fun m p h => h.code, fun m k h => h.code, fun m name h => h.code, ?_, ?_, ?_, ?_, ?_,
    ?_⟩
  · intro mmsi
    rw [find?_isSome_iff, mem_numbers_ofMessages]
  · intro mmsi s hs
    rw [find?_ofMessages] at hs
    exact Station.describes_of_heard hs
  · intro ms' hsame
    have hnodup' : (ofMessages ms').numbers.Nodup := nodup_numbers_ofMessages ms'
    refine Station.mergeSort_eq_of_perm (perm_stations hnodup' hnodup fun mmsi => ?_) hnodup'
    rw [find?_ofMessages, find?_ofMessages, hsame]
  · intro stations hstations
    exact Station.mergeSort_eq_of_perm hstations ((hstations.map _).nodup_iff.mpr hnodup)
  · intro s
    rw [hperm.mem_iff, mem_stations_iff hnodup]
  · exact (hperm.map _).nodup_iff.mpr hnodup
  · exact Station.pairwise_before_mergeSort hnodup
  · rw [(hperm.map _).sum_eq, sum_messages_ofMessages]

end StationTable
end VesselTraffic
