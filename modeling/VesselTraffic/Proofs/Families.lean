import Mathlib.Tactic.Common
import VesselTraffic.Proofs.Dispatch

/-!
# Kinds of one layout

Some kinds are decoded by the same form, which reads from the frame which of them it
holds. Asked for one of them, it also takes a frame of another; a frame of any other kind
is refused. Decoding by the kind that the frame itself names never mixes kinds up.
-/
namespace VesselTraffic

/-- The kinds that are decoded as this one is. -/
def MessageKind.family : MessageKind → List MessageKind
  | .scheduledPosition | .assignedPosition | .polledPosition =>
    [.scheduledPosition, .assignedPosition, .polledPosition]
  | .baseStation | .timeResponse => [.baseStation, .timeResponse]
  | .binaryAcknowledge | .safetyAcknowledge => [.binaryAcknowledge, .safetyAcknowledge]
  | kind => [kind]

theorem Frame.ensure_of_code_ne {f : Frame} {kind : MessageKind} (h : f.code ≠ kind.code) :
    f.ensure kind = .error (.invalidFrame kind.code (.otherCode f.code)) := by
  rw [ensure, if_pos h]
  rfl

namespace Message

variable {kind kind' : MessageKind} {f : Frame}

/-- What a message holds, whatever its form is called. -/
def content (m : Message) : Header × Datum := (m.header, m.report)

theorem map_content {α : Type} (e : Except Refusal α) {form form' : α → Message}
    (h : ∀ r, (form r).content = (form' r).content) :
    (e.map form).map content = (e.map form').map content := by
  cases e with
  | error r => rfl
  | ok r => exact congrArg Except.ok (h r)

/-- The kinds of a family differ in the form of the message alone. -/
theorem content_decodeAs_of_mem_family (h : kind' ∈ kind.family) :
    (decodeAs kind f).map content = (decodeAs kind' f).map content := by
  cases kind with
  | scheduledPosition | assignedPosition | polledPosition =>
    simp only [MessageKind.family, List.mem_cons, List.not_mem_nil, or_false] at h
    rcases h with rfl | rfl | rfl <;> rfl
  | baseStation | timeResponse | binaryAcknowledge | safetyAcknowledge =>
    simp only [MessageKind.family, List.mem_cons, List.not_mem_nil, or_false] at h
    rcases h with rfl | rfl <;> exact map_content _ fun _ => rfl
  | _ => rw [List.mem_singleton.mp h]

/-- A frame of a kind in the family decodes as soon as that kind admits it. -/
theorem decodeAs_of_mem_family (h : kind' ∈ kind.family) (hcode : f.code = kind'.code)
    (hadmits : Admits kind' f.bits) : ∃ m, decodeAs kind f = .ok m ∧ m.header = f.header := by
  have hcontent := content_decodeAs_of_mem_family (f := f) h
  rw [decodeAs_of_admits hcode hadmits] at hcontent
  cases hkind : decodeAs kind f with
  | error r =>
    rw [hkind] at hcontent
    contradiction
  | ok m =>
    rw [hkind] at hcontent
    have hheader : m.header = (readAs kind' f).header :=
      congrArg Prod.fst (Except.ok.inj hcontent)
    exact ⟨m, rfl, hheader.trans (header_readAs kind' f)⟩

theorem decodeAs_of_mem_family_of_not_admits (h : kind' ∈ kind.family)
    (hcode : f.code = kind'.code) (hadmits : ¬ Admits kind' f.bits) :
    ∃ code flaw, decodeAs kind f = .error (.invalidFrame code flaw) := by
  have hcontent := content_decodeAs_of_mem_family (f := f) h
  obtain ⟨flaw, herror⟩ := decodeAs_of_not_admits hcode hadmits
  rw [herror] at hcontent
  cases hkind : decodeAs kind f with
  | error r =>
    rw [hkind] at hcontent
    exact ⟨_, flaw, congrArg Except.error (Except.error.inj hcontent)⟩
  | ok m =>
    rw [hkind] at hcontent
    contradiction

/-- A frame of a kind outside the family is refused. -/
theorem decodeAs_of_not_mem_family (h : ∀ kind' ∈ kind.family, f.code ≠ kind'.code) :
    ∃ code flaw, decodeAs kind f = .error (.invalidFrame code flaw) := by
  cases kind with
  | scheduledPosition | assignedPosition | polledPosition =>
    simp only [MessageKind.family, List.mem_cons, List.not_mem_nil, or_false, forall_eq_or_imp,
      forall_eq] at h
    obtain ⟨h1, h2, h3⟩ := h
    have hkind : ClassAReport.kind? f.code = none := by
      unfold ClassAReport.kind?
      exact (if_neg h1).trans ((if_neg h2).trans (if_neg h3))
    exact ⟨f.code, .notClassA, by simp [decodeAs, ClassAReport.decode, hkind, Except.map]⟩
  | baseStation | timeResponse =>
    simp only [MessageKind.family, List.mem_cons, List.not_mem_nil, or_false, forall_eq_or_imp,
      forall_eq] at h
    obtain ⟨h4, h11⟩ := h
    have hkind : BaseStationReport.kindFor f.code = .baseStation := if_neg h11
    refine ⟨4, .otherCode f.code, ?_⟩
    rw [decodeAs, BaseStationReport.decode, hkind, Frame.ensure_of_code_ne h4]
    rfl
  | binaryAcknowledge | safetyAcknowledge =>
    simp only [MessageKind.family, List.mem_cons, List.not_mem_nil, or_false, forall_eq_or_imp,
      forall_eq] at h
    obtain ⟨h7, h13⟩ := h
    have hkind : Acknowledgement.kindFor f.code = .binaryAcknowledge := if_neg h13
    refine ⟨7, .otherCode f.code, ?_⟩
    rw [decodeAs, Acknowledgement.decode, hkind, Frame.ensure_of_code_ne h7]
    rfl
  | staticData =>
    have hensure := Frame.ensure_of_code_ne (h .staticData (by decide))
    exact ⟨_, _, by rw [decodeAs, StaticData.decode, hensure]; rfl⟩
  | _ =>
    have hensure := Frame.ensure_of_code_ne (h _ (List.mem_singleton.mpr rfl))
    exact ⟨_, _, (map_read_after _ _ _).trans (congrArg (Except.map _) hensure)⟩

theorem mem_kinds_of_decodeAs {m : Message} (h : decodeAs kind f = .ok m) : kind ∈ m.kinds := by
  have of_map : ∀ {α : Type} {e : Except Refusal α} {form : α → Message},
      e.map form = .ok m → ∃ r, m = form r := by
    intro α e form hmap
    cases e with
    | error r => contradiction
    | ok r => exact ⟨r, (Except.ok.inj hmap).symm⟩
  cases kind <;> obtain ⟨r, rfl⟩ := of_map h <;> simp [kinds]

/-- Either a kind of the family admits the frame, or the frame is refused as none of them. -/
theorem decodeAs_cases (kind : MessageKind) (f : Frame) :
    ((∃ kind' ∈ kind.family, f.code = kind'.code ∧ Admits kind' f.bits) ∧
      ∃ m, decodeAs kind f = .ok m ∧ m.header = f.header) ∨
    ((∀ kind' ∈ kind.family, f.code = kind'.code → ¬ Admits kind' f.bits) ∧
      ∃ code flaw, decodeAs kind f = .error (.invalidFrame code flaw)) := by
  by_cases hfamily : ∃ kind' ∈ kind.family, f.code = kind'.code
  · obtain ⟨kind', hmem, hcode⟩ := hfamily
    by_cases hadmits : Admits kind' f.bits
    · exact .inl ⟨⟨kind', hmem, hcode, hadmits⟩, decodeAs_of_mem_family hmem hcode hadmits⟩
    · refine .inr ⟨?_, decodeAs_of_mem_family_of_not_admits hmem hcode hadmits⟩
      intro kind'' _ hcode'
      have hkinds : kind'' = kind' := MessageKind.code_injective (hcode'.symm.trans hcode)
      rwa [hkinds]
  · have hne : ∀ kind' ∈ kind.family, f.code ≠ kind'.code := by
      intro kind' hmem hcode
      exact hfamily ⟨kind', hmem, hcode⟩
    exact .inr ⟨fun kind' hmem hcode => absurd hcode (hne kind' hmem), decodeAs_of_not_mem_family hne⟩

theorem messageType_of_decode {m : Message} (h : decode f = .ok m) :
    ∃ kind ∈ m.kinds, kind.code = m.messageType := by
  obtain ⟨kind, hcode, -, rfl⟩ := exists_admits_of_decode h
  refine ⟨kind, mem_kinds_readAs kind f, ?_⟩
  rw [messageType, header_readAs]
  exact hcode

/-- Asked for a kind, decoding takes the frames of its family that their own kind admits,
and refuses every other frame as none of them. A message tells the code that its frame
has, so it has the form of another kind only within the family. A frame decoded by the
kind that it names itself gives a message of that kind. -/
theorem decodeAs_iff_family (kind : MessageKind) (f : Frame) :
    ((∃ m, decodeAs kind f = .ok m) ↔
      ∃ kind' ∈ kind.family, f.code = kind'.code ∧ Admits kind' f.bits) ∧
    ((∀ kind' ∈ kind.family, f.code ≠ kind'.code) →
      ∃ code flaw, decodeAs kind f = .error (.invalidFrame code flaw)) ∧
    (∀ r, decodeAs kind f = .error r → ∃ code flaw, r = .invalidFrame code flaw) ∧
    (∀ m, decodeAs kind f = .ok m → kind ∈ m.kinds ∧ m.messageType = f.code) ∧
    (∀ m, decode f = .ok m → ∃ kind' ∈ m.kinds, kind'.code = m.messageType) := by
  rcases decodeAs_cases kind f with ⟨hfamily, m, hok, hheader⟩ | ⟨hnone, code, flaw, herror⟩
  · refine ⟨iff_of_true ⟨m, hok⟩ hfamily, ?_, ?_, ?_, fun m hm => messageType_of_decode hm⟩
    · intro hne
      obtain ⟨kind', hmem, hcode, -⟩ := hfamily
      exact absurd hcode (hne kind' hmem)
    · intro r hr
      rw [hok] at hr
      contradiction
    · intro m' hm'
      obtain rfl := Except.ok.inj (hok.symm.trans hm')
      exact ⟨mem_kinds_of_decodeAs hok, congrArg Header.messageType hheader⟩
  · refine ⟨iff_of_false ?_ ?_, fun _ => ⟨code, flaw, herror⟩, ?_, ?_,
      fun m hm => messageType_of_decode hm⟩
    · rintro ⟨m, hm⟩
      rw [herror] at hm
      contradiction
    · rintro ⟨kind', hmem, hcode, hadmits⟩
      exact hnone kind' hmem hcode hadmits
    · intro r hr
      exact ⟨code, flaw, Except.error.inj (hr.symm.trans herror)⟩
    · intro m hm
      rw [herror] at hm
      contradiction

/-- Asked for a base station report, decoding takes an answer to an inquiry for the time. -/
theorem timeResponse_decoded_as_baseStation :
    let f := Frame.ofBits (BitView.tabulate 168 fun i => [2, 4, 5].contains i)
    f.code = 11 ∧ f.code ≠ MessageKind.baseStation.code ∧
      ∃ r, decodeAs .baseStation f = .ok (baseStation r) ∧ r.header.messageType = 11 := by
  intro f
  have hcode : f.code = 11 := by decide +kernel
  have hensure : f.ensure .timeResponse = .ok () := by decide +kernel
  refine ⟨hcode, by rw [hcode]; decide, BaseStationReport.read f, ?_, hcode⟩
  have hkind : BaseStationReport.kindFor f.code = .timeResponse := if_pos hcode
  rw [decodeAs, BaseStationReport.decode, hkind, hensure]
  rfl

end Message

end VesselTraffic
