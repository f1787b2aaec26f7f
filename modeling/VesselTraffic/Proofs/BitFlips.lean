import VesselTraffic.Proofs.Layouts

/-!
# Bits that are turned over

In every layout but that of binary messages of several slots no field begins before the
one in front of it ends, so no two fields share a bit. A frame with one wrong bit behind
what selects its layout still decodes, and one field of its message at most is wrong.
-/
namespace VesselTraffic

/-- Two lists of one length that differ at one position at most. -/
def SameButOne {α : Type} (xs ys : List α) : Prop :=
  xs.length = ys.length ∧ ∃ i : Nat, ∀ j : Nat, j ≠ i → xs[j]? = ys[j]?

/-! ### Fields that follow one another -/

namespace PlacedField

/-- Whether each of some fields begins where the one in front of it has ended, the first
one at a position or behind it. -/
def areOrdered : Nat → List PlacedField → Bool
  | _, [] => true
  | position, e :: es => Nat.ble position e.first && Nat.ble e.first e.last && areOrdered e.last es

variable {position : Nat} {e : PlacedField} {es : List PlacedField}

theorem areOrdered_cons : areOrdered position (e :: es) = true ↔
    position ≤ e.first ∧ e.first ≤ e.last ∧ areOrdered e.last es = true := by
  simp [areOrdered, and_assoc]

theorem areOrdered_singleton (hfirst : position ≤ e.first) (hlast : e.first ≤ e.last) :
    areOrdered position [e] = true :=
  areOrdered_cons.mpr ⟨hfirst, hlast, rfl⟩

theorem le_first_of_mem (h : areOrdered position es = true) (he : e ∈ es) :
    position ≤ e.first := by
  induction es generalizing position with
  | nil => exact absurd he List.not_mem_nil
  | cons x es ih =>
    obtain ⟨hfirst, hlast, hrest⟩ := areOrdered_cons.mp h
    rcases List.mem_cons.mp he with rfl | he
    · exact hfirst
    · have := ih hrest he
      omega

/-- Ordered fields share no position. -/
theorem pairwise_of_areOrdered (h : areOrdered position es = true) :
    es.Pairwise fun a b => a.last ≤ b.first := by
  induction es generalizing position with
  | nil => exact List.Pairwise.nil
  | cons x es ih =>
    obtain ⟨-, -, hrest⟩ := areOrdered_cons.mp h
    exact List.pairwise_cons.mpr ⟨fun e he => le_first_of_mem hrest he, ih hrest⟩

/-- Groups of one width behind one another are ordered. -/
theorem areOrdered_groups {start width : Nat} (field : Nat → PlacedField) (n : Nat)
    (hstart : position ≤ start) (hfirst : ∀ i, (field i).first = i)
    (hlast : ∀ i, (field i).last = i + width) :
    areOrdered position ((List.range n).map fun i => field (start + width * i)) = true := by
  induction n generalizing position start with
  | zero => rfl
  | succ n ih =>
    have hshift : (fun i => field (start + width * i)) ∘ Nat.succ
        = fun i => field (start + width + width * i) := by
      funext i
      rw [Function.comp_apply, Nat.mul_succ, Nat.add_assoc, Nat.add_comm width]
    rw [List.range_succ_eq_map, List.map_cons, List.map_map, hshift, areOrdered_cons, hfirst, hlast]
    exact ⟨by omega, by omega, ih (Nat.le_refl _)⟩

/-- A bit that is turned over changes one of some ordered fields at most. -/
theorem sameButOne_flip (h : areOrdered position es = true) (v : BitView) (p : Nat) :
    SameButOne (es.map (value · v)) (es.map (value · (v.flip p))) := by
  have hunchanged : ∀ e : PlacedField, ¬ (e.first ≤ p ∧ p < e.last) →
      e.value v = e.value (v.flip p) := fun e he => value_congr (v.agreesOn_flip (by omega))
  refine ⟨by simp, ?_⟩
  by_cases hhit : ∃ (i : Nat) (e : PlacedField), es[i]? = some e ∧ e.first ≤ p ∧ p < e.last
  · obtain ⟨i, e, hi, hp⟩ := hhit
    refine ⟨i, fun j hj => ?_⟩
    rw [List.getElem?_map, List.getElem?_map]
    cases hej : es[j]? with
    | none => rfl
    | some e' =>
      refine congrArg some (hunchanged e' fun hp' => ?_)
      -- the field at `j` ends before the one at `i` begins, or the other way round
      have hpairwise := List.pairwise_iff_getElem.mp (pairwise_of_areOrdered h)
      obtain ⟨hilt, rfl⟩ := List.getElem?_eq_some_iff.mp hi
      obtain ⟨hjlt, rfl⟩ := List.getElem?_eq_some_iff.mp hej
      rcases Nat.lt_or_gt_of_ne hj with hlt | hlt
      · have := hpairwise j i hjlt hilt hlt
        omega
      · have := hpairwise i j hilt hjlt hlt
        omega
  · refine ⟨0, fun j _ => ?_⟩
    rw [List.getElem?_map, List.getElem?_map]
    cases hej : es[j]? with
    | none => rfl
    | some e => exact congrArg some (hunchanged e fun hp => hhit ⟨j, e, hej, hp⟩)

end PlacedField

open PlacedField

namespace MessageKind

variable {v w : BitView}

theorem areOrdered_structuredData {position start stop : Nat} (h : position ≤ start) :
    areOrdered position [structuredData start stop] = true := by
  have hend : start ≤ max stop (start + BinaryData.applicationWidth) := by omega
  exact areOrdered_singleton h hend

/-- The data begins where the destination ends, or where it would begin. -/
theorem areOrdered_slotPayload (v : BitView) (stop : Nat) :
    areOrdered 38 (slotPayload v stop) = true := by
  have hdata : ∀ start, areOrdered start [if SlotPayload.isStructured v then
      structuredData start stop else unstructuredData start stop] = true := by
    intro start
    cases SlotPayload.isStructured v
    · exact areOrdered_singleton (Nat.le_refl start) (Nat.le_max_right stop start)
    · exact areOrdered_structuredData (Nat.le_refl start)
  unfold slotPayload SlotPayload.start
  cases SlotPayload.isAddressed v
  · exact hdata 40
  · exact hdata 70

/-- Behind the header, which ends at 38, the fields of a layout follow one another. -/
theorem areOrdered_body (kind : MessageKind) (hkind : kind ≠ .multipleSlotBinary) (v : BitView) :
    areOrdered 38 (kind.body v) = true := by
  cases kind with
  | multipleSlotBinary => exact absurd rfl hkind
  | binaryAcknowledge | safetyAcknowledge =>
    exact areOrdered_groups acknowledged _ (by decide) (fun _ => rfl) (fun _ => rfl)
  | linkManagement =>
    exact areOrdered_groups reservation _ (by decide) (fun _ => rfl) (fun _ => rfl)
  -- the last field of these goes on to the end, so its extent does not evaluate
  | addressedBinary =>
    show areOrdered 71 [structuredData 72 v.len] = true
    exact areOrdered_structuredData (Nat.le_succ 71)
  | binaryBroadcast => exact areOrdered_structuredData (Nat.le_add_right 38 2)
  | addressedSafety =>
    show areOrdered 71 [textToEnd ["text"] 72 v.len] = true
    exact areOrdered_singleton (Nat.le_succ 71) (Nat.le_max_right _ _)
  | safetyBroadcast => exact areOrdered_singleton (Nat.le_add_right 38 2) (Nat.le_max_right _ _)
  | corrections =>
    show areOrdered 75 [remainder 80 v.len] = true
    exact areOrdered_singleton (Nat.le_add_right 75 5) (Nat.le_max_right _ _)
  | navigationAid =>
    show areOrdered 271 [nameExtension v.len] = true
    exact areOrdered_singleton (Nat.le_succ 271) (Nat.le_max_right _ _)
  | staticData =>
    rw [body]
    split
    · rfl
    · rw [partB]
      cases isAuxiliaryCraft (v.uint32 8 38) <;> rfl
  | singleSlotBinary => exact areOrdered_slotPayload v v.len
  | _ => rfl

theorem areOrdered_layout (kind : MessageKind) (hkind : kind ≠ .multipleSlotBinary) (v : BitView) :
    areOrdered 0 (kind.layout v) = true :=
  kind.areOrdered_body hkind v

theorem slotPayload_congr (h : v.AgreesOn w 0 40) (stop : Nat) :
    slotPayload v stop = slotPayload w stop := by
  have haddressed : SlotPayload.isAddressed v = SlotPayload.isAddressed w :=
    h.bit 38 (by decide) (by decide)
  have hstructured : SlotPayload.isStructured v = SlotPayload.isStructured w :=
    h.bit 39 (by decide) (by decide)
  rw [slotPayload, slotPayload, SlotPayload.start, SlotPayload.start, haddressed, hstructured]

/-- The first 40 bits and the length select the layout of a kind. -/
theorem layout_congr (kind : MessageKind) (h : v.AgreesOn w 0 40) :
    kind.layout v = kind.layout w := by
  cases kind with
  | staticData =>
    rw [layout, layout, body, body, partB, partB, h.unsigned (by decide) (by decide),
      h.uint32 (by decide) (by decide)]
  | singleSlotBinary => rw [layout, layout, body, body, slotPayload_congr h, h.len]
  | multipleSlotBinary => simp only [layout, body, slotPayload_congr h, h.len]
  | _ => simp only [layout, body, BitView.groupCount, h.len]

/-- Of most kinds the length alone selects the layout. -/
theorem layout_of_len (kind : MessageKind)
    (hkind : kind ∉ [staticData, singleSlotBinary, multipleSlotBinary]) (h : v.len = w.len) :
    kind.layout v = kind.layout w := by
  cases kind with
  | staticData | singleSlotBinary | multipleSlotBinary => simp at hkind
  | _ => simp only [layout, body, BitView.groupCount, h]

end MessageKind

namespace Message

variable {f : Frame} {m : Message} {p : Nat}

theorem form_readAs (kind : MessageKind) (f g : Frame) :
    (readAs kind f).form = (readAs kind g).form := by
  cases kind <;> rfl

theorem Admits.flip {kind : MessageKind} {v : BitView} (h : Admits kind v)
    (hp : kind = .staticData → 40 ≤ p) : Admits kind (v.flip p) := by
  refine ⟨h.length, fun hkind => ?_⟩
  rw [← (v.agreesOn_flip (.inr (hp hkind))).unsigned (Nat.le_refl 38) (Nat.le_refl 40)]
  exact h.part hkind

/-- A bit behind the type that does not select the layout is turned over. -/
theorem decode_flip_of_layout {kind : MessageKind} (hcode : kind.code = f.code)
    (hadmits : Admits kind (f.bits.flip p)) (hp : 6 ≤ p) (hkind : kind ≠ .multipleSlotBinary)
    (hlayout : kind.layout f.bits = kind.layout (f.bits.flip p)) :
    ∃ m', decode (f.flip p) = .ok m' ∧ m'.form = (readAs kind f).form ∧
      m'.fields.map Prod.fst = (readAs kind f).fields.map Prod.fst ∧
      SameButOne (readAs kind f).fields m'.fields := by
  have hcode' : kind.code = (f.flip p).code := hcode.trans (f.code_flip hp).symm
  refine ⟨readAs kind (f.flip p), ?_, form_readAs kind _ _, ?_, ?_⟩
  · rw [decode_of_code hcode', decodeAs_of_admits hcode'.symm hadmits]
  · rw [fields_readAs, fields_readAs, hlayout, List.map_map, List.map_map]
    rfl
  · rw [fields_readAs, fields_readAs, Frame.flip, ← hlayout]
    exact sameButOne_flip (kind.areOrdered_layout hkind _) f.bits p

/-- A frame in which a bit behind the first 40 is turned over still decodes, and its message
differs in one field at most; binary messages of several slots are left out. The same
goes for every bit behind the type, unless the layout is selected by bits before the 40th. -/
theorem decode_flip (hdecode : decode f = .ok m)
    (htype : m.messageType ≠ MessageKind.multipleSlotBinary.code)
    (hp : 40 ≤ p ∨ 6 ≤ p ∧ m.messageType ≠ MessageKind.staticData.code ∧
      m.messageType ≠ MessageKind.singleSlotBinary.code) :
    ∃ m', decode (f.flip p) = .ok m' ∧ m'.form = m.form ∧
      m'.fields.map Prod.fst = m.fields.map Prod.fst ∧ SameButOne m.fields m'.fields := by
  obtain ⟨kind, hcode, hadmits, rfl⟩ := exists_admits_of_decode hdecode
  rw [messageType, header_readAs, Frame.header, ← hcode] at htype hp
  have hkind : kind ≠ .multipleSlotBinary := ne_of_apply_ne MessageKind.code htype
  rcases hp with hp | ⟨hp, hstatic, hsingle⟩
  · exact decode_flip_of_layout hcode (hadmits.flip fun _ => hp) (by omega) hkind
      (kind.layout_congr (f.bits.agreesOn_flip (.inr hp)))
  · have hstatic : kind ≠ .staticData := ne_of_apply_ne MessageKind.code hstatic
    have hsingle : kind ≠ .singleSlotBinary := ne_of_apply_ne MessageKind.code hsingle
    exact decode_flip_of_layout hcode (hadmits.flip fun h => absurd h hstatic) hp hkind
      (kind.layout_of_len (by simp [hstatic, hsingle, hkind]) rfl)

/-- Three messages are acknowledged at once, and a bit of the second one is turned over. -/
theorem decode_flip_acknowledgement :
    let f := Frame.ofBits (BitView.tabulate 136 fun i => [3, 4, 5].contains i)
    ∃ m, decode f = .ok m ∧ ∃ m', decode (f.flip 75) = .ok m' ∧ m'.form = m.form ∧
      m'.fields.map Prod.fst = m.fields.map Prod.fst ∧ SameButOne m.fields m'.fields := by
  intro f
  have hcode : f.code = MessageKind.binaryAcknowledge.code := by decide +kernel
  have hadmits : Admits .binaryAcknowledge f.bits := ⟨by decide, fun h => by contradiction⟩
  have hdecode := (decode_of_code hcode.symm).trans (decodeAs_of_admits hcode hadmits)
  have htype : (readAs .binaryAcknowledge f).messageType ≠ MessageKind.multipleSlotBinary.code := by
    rw [messageType, header_readAs, Frame.header, hcode]
    decide
  exact ⟨_, hdecode, decode_flip hdecode htype (.inl (by decide))⟩

end Message

end VesselTraffic
