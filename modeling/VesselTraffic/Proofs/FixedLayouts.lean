import VesselTraffic.Proofs.Beginnings

/-!
# Application messages of a fixed layout

Some layouts of application messages have no list and no text that goes on to the end. Their
fields end where the layout says that they do. So a payload that is longer is read up to there,
and one that is shorter as if zeros followed.
-/
namespace VesselTraffic

namespace ApplicationLayout

/-- The layouts whose fields all stand at fixed places. -/
def fixed : List ApplicationLayout := [persons, clearance, berthing, weather, inlandShip]

variable {v w : BitView}

theorem services_congr (h : v.AgreesBelow w 103) :
    (List.range 26).map (fun i => v.uint8 51 53 (2 * i))
      = (List.range 26).map fun i => w.uint8 51 53 (2 * i) := by
  refine List.map_congr_left fun i hi => ?_
  have hi := List.mem_range.mp hi
  exact h.uint8 (by omega)

theorem clearance_congr (h : v.AgreesBelow w clearance.leastBits) :
    ClearanceTime.decode v = ClearanceTime.decode w := by
  rw [leastBits] at h
  simp (disch := omega) only [ClearanceTime.decode, h.uint16, h.arrival, h.text, h.mediumPosition]

theorem berthing_congr (h : v.AgreesBelow w berthing.leastBits) :
    Berthing.decode v = Berthing.decode w := by
  rw [leastBits] at h
  have hservices := services_congr (h.mono (by decide))
  simp (disch := omega) only [Berthing.decode, h.uint16, h.unsignedParts, h.uint8, h.arrival, h.bit,
    hservices, h.text, h.mediumPosition]

theorem weather_congr (h : v.AgreesBelow w weather.leastBits) :
    Weather.decode v = Weather.decode w := by
  rw [leastBits] at h
  simp (disch := omega) only [Weather.decode, CurrentReading.decode, WaveReading.decode,
    Weather.level, h.mediumPosition, h.bit, h.uint8, h.uint16, h.signedParts, h.unsignedParts,
    h.unsigned]

theorem inlandShip_congr (h : v.AgreesBelow w inlandShip.leastBits) :
    InlandShip.decode v = InlandShip.decode w := by
  rw [leastBits] at h
  simp (disch := omega) only [InlandShip.decode, h.text, h.unsignedParts, h.uint16, h.uint8, h.bit]

/-- No field of a fixed layout is read from behind the bits that the layout takes. -/
theorem decode_congr {layout : ApplicationLayout} (hfixed : layout ∈ fixed)
    (h : v.AgreesBelow w layout.leastBits) : layout.decode v = layout.decode w := by
  simp only [fixed, List.mem_cons, List.not_mem_nil, or_false] at hfixed
  rcases hfixed with rfl | rfl | rfl | rfl | rfl
  · exact congrArg ApplicationMessage.persons (h.uint16 (Nat.le_refl 13))
  · exact congrArg ApplicationMessage.clearance (clearance_congr h)
  · exact congrArg ApplicationMessage.berthing (berthing_congr h)
  · exact congrArg ApplicationMessage.weather (weather_congr h)
  · exact congrArg ApplicationMessage.inlandShip (inlandShip_congr h)

end ApplicationLayout

namespace ApplicationMessage

/-- The applications with a fixed layout, each with the number of bits that it takes. -/
def fixedApplications : List (UInt16 × UInt8 × Nat) :=
  [(1, 16, 13), (1, 40, 13), (1, 18, 229), (1, 20, 272), (1, 31, 304), (200, 10, 104)]

variable {area : UInt16} {function : UInt8} {least : Nat}

theorem exists_fixed_of_mem (h : (area, function, least) ∈ fixedApplications) :
    ∃ layout ∈ ApplicationLayout.fixed,
      ApplicationLayout.of? area function = some layout ∧ layout.leastBits = least := by
  have key : ∀ application ∈ fixedApplications, ∃ layout ∈ ApplicationLayout.fixed,
      ApplicationLayout.of? application.1 application.2.1 = some layout ∧
        layout.leastBits = application.2.2 := by decide
  exact key _ h

/-- An application with a fixed layout is read from the first bits of its payload, as many as the
layout takes. Further bits change nothing and missing ones are zeros. That bits are missing is
noticed, and nothing else is. -/
theorem read_from_beginning (h : (area, function, least) ∈ fixedApplications) (data : BitView) :
    decode area function data = decode area function (data.slice 0 least) ∧
    notices area function data =
      if data.len < least then [.shortApplication area function data.len least] else [] := by
  obtain ⟨layout, hfixed, hlayout, rfl⟩ := exists_fixed_of_mem h
  have hroute : layout ≠ .route := by
    rintro rfl
    contradiction
  constructor
  · rw [decode, decode, hlayout]
    exact ApplicationLayout.decode_congr hfixed (data.agreesBelow_slice layout.leastBits)
  · rw [notices, hlayout]
    show (if layout = .route then _ else _) ++ _ = _
    rw [if_neg hroute, List.nil_append]

/-- Of a temperature below zero only the first bits are there, and the rest of the payload is
missing with its last ones. -/
theorem cut_temperature_read :
    let data := BitView.tabulate 103 fun i => [49, 98, 101].contains i
    (1, 31, 304) ∈ fixedApplications ∧ decode 1 31 data = decode 1 31 (data.slice 0 304) ∧
      notices 1 31 data = [.shortApplication 1 31 103 304] := by
  intro data
  have hfixed : (1, 31, 304) ∈ fixedApplications := by decide
  obtain ⟨hdecode, hnotices⟩ := read_from_beginning hfixed data
  exact ⟨hfixed, hdecode, hnotices.trans (if_pos (by decide))⟩

end ApplicationMessage

end VesselTraffic
