import VesselTraffic.Proofs.BitLists
import VesselTraffic.Proofs.Dispatch
import VesselTraffic.Proofs.Locality

/-!
# Communication states as they are written

A state is written as its numbers one behind the other and, where these leave some of the 19 bits
over, spare bits. In a self-organised plan the timeout prescribes what the report behind it tells.
So each state is read from where it was written, and every decoded message with a state tells the
one that its last 19 bits write, in the scheme of its kind or of the bit before them.
-/
namespace VesselTraffic

/-! ### Sources of time -/

namespace SyncState

def code : SyncState → Nat
  | utcDirect => 0
  | utcIndirect => 1
  | baseStation => 2
  | receivedStations => 3

theorem code_injective {s s' : SyncState} (h : s.code = s'.code) : s = s' := by
  cases s <;> cases s' <;> first | rfl | contradiction

theorem code_ofCode {n : UInt8} (h : n.toNat < 4) : (ofCode n).code = n.toNat := by
  unfold ofCode
  rw [Nat.mod_eq_of_lt h]
  split <;> simp_all [code]
  omega

end SyncState

/-! ### Reports -/

namespace SlotReport

/-- The report is of the sort that the timeout prescribes. -/
def Answers (timeout : UInt8) : SlotReport → Prop
  | offset _ => timeout = 0
  | time _ _ => timeout = 1
  | slot _ => timeout = 2 ∨ timeout = 4 ∨ timeout = 6
  | stations _ => timeout = 3 ∨ timeout = 5 ∨ timeout = 7

/-- The numbers of the report. Behind the time there are two bits to spare. -/
def fields : SlotReport → List BitField
  | offset n | slot n | stations n => [⟨14, n.toNat⟩]
  | time hour minute => [⟨5, hour.toNat⟩, ⟨7, minute.toNat⟩]

variable {v : BitView} {start : Nat} {timeout : UInt8} {r r' : SlotReport}

theorem answers_decode (h : timeout.toNat < 8) : (decode v start timeout).Answers timeout := by
  simp only [decode, Bool.or_eq_true, decide_eq_true_eq, or_assoc]
  split_ifs with hzero hone hslot
  · exact hzero
  · exact hone
  · exact hslot
  · simp only [Answers, ← UInt8.toNat_inj, UInt8.reduceToNat] at *
    omega

/-- A report that is read has the numbers that stand there. -/
theorem fields_decode :
    (decode v start timeout).fields
      = v.fields start ((decode v start timeout).fields.map BitField.width) := by
  unfold decode
  split_ifs <;>
    simp [fields, BitView.fields, BitView.toNat_uint8, BitView.toNat_uint16, Nat.add_assoc]

/-- How wide the numbers are depends on the timeout alone. -/
theorem widths_of_answers (hr : r.Answers timeout) (hr' : r'.Answers timeout) :
    r.fields.map BitField.width = r'.fields.map BitField.width := by
  cases r <;> cases r' <;> simp_all [Answers, fields]

theorem eq_of_fields (hr : r.Answers timeout) (hr' : r'.Answers timeout)
    (h : r.fields = r'.fields) : r = r' := by
  cases r <;> cases r' <;> simp_all [Answers, fields, UInt8.toNat_inj, UInt16.toNat_inj]
  all_goals rcases hr with rfl | rfl | rfl <;> simp at hr'

end SlotReport

/-! ### States -/

namespace CommunicationState

def isIncremental : CommunicationState → Bool
  | selfOrganised _ => false
  | incremental _ => true

/-- The numbers of the state one behind the other. -/
def fields : CommunicationState → List BitField
  | selfOrganised s => ⟨2, s.sync.code⟩ :: ⟨3, s.timeout.toNat⟩ :: s.report.fields
  | incremental s =>
    [⟨2, s.sync.code⟩, ⟨13, s.increment.toNat⟩, ⟨3, s.slots.toNat⟩, ⟨1, s.keep.toNat⟩]

def widths (s : CommunicationState) : List Nat := s.fields.map BitField.width

/-- The bits that the state is written with, the spare ones last. -/
def bits (s : CommunicationState) (spare : List Bool) : List Bool := BitField.bits s.fields ++ spare

/-- The report of a self-organised plan is the one that its timeout prescribes. -/
def IsAnswered : CommunicationState → Prop
  | selfOrganised s => s.report.Answers s.timeout
  | incremental _ => True

/-- A state that can be written: its report is the prescribed one and each number has room. -/
structure IsWritable (s : CommunicationState) : Prop where
  answered : s.IsAnswered
  fits : ∀ e ∈ s.fields, e.Fits

/-- How many spare bits the numbers leave. -/
def spareWidth (s : CommunicationState) : Nat := width - s.widths.sum

variable {v : BitView} {start : Nat} {isIncremental : Bool} {s s' : CommunicationState}

theorem isIncremental_decode : (decode v start isIncremental).isIncremental = isIncremental := by
  cases isIncremental <;> rfl

theorem isAnswered_decode : (decode v start isIncremental).IsAnswered := by
  cases isIncremental with
  | true => trivial
  | false =>
    have htimeout : v.unsigned (start + 2) (start + 5) < Nat.pow 2 3 :=
      v.unsigned_lt_of_le (Nat.le_refl _)
    apply SlotReport.answers_decode
    rw [BitView.toNat_uint8]
    exact htimeout

/-- A state that is read has the numbers that stand there. -/
theorem fields_decode :
    (decode v start isIncremental).fields = v.fields start (decode v start isIncremental).widths := by
  have hsync : (SyncState.ofCode (v.uint8 0 2 start)).code = v.unsigned start (start + 2) := by
    have hread : (v.uint8 0 2 start).toNat = v.unsigned start (start + 2) := v.toNat_uint8 0 2 start rfl
    rw [SyncState.code_ofCode, hread]
    rw [hread]
    exact v.unsigned_lt_of_le (Nat.le_refl _)
  have hkeep : (v.bit (start + 18)).toNat = v.unsigned (start + 18) (start + 19) := by
    rw [v.unsigned_succ (Nat.le_refl _), v.unsigned_self, Nat.mul_zero, Nat.zero_add]
  cases isIncremental with
  | true =>
    simp [decode, Incremental.decode, widths, fields, BitView.fields, hsync, hkeep,
      BitView.toNat_uint8, BitView.toNat_uint16, Nat.add_assoc]
  | false =>
    simp [decode, SelfOrganised.decode, widths, fields, BitView.fields, hsync,
      BitView.toNat_uint8, Nat.add_assoc]
    exact SlotReport.fields_decode

/-- The numbers of a state take 19 bits at most. -/
theorem sum_widths_le (s : CommunicationState) : s.widths.sum ≤ width := by
  cases s with
  | incremental s => exact Nat.le_refl 19
  | selfOrganised s =>
    obtain ⟨sync, timeout, report⟩ := s
    cases report <;> simp [widths, fields, SlotReport.fields, width]

theorem eq_of_fields (hs : s.IsAnswered) (hs' : s'.IsAnswered)
    (hscheme : s.isIncremental = s'.isIncremental) (h : s.fields = s'.fields) : s = s' := by
  cases s <;> cases s' <;> simp only [isIncremental, reduceCtorEq] at hscheme
  case selfOrganised.selfOrganised s s' =>
    obtain ⟨sync, timeout, report⟩ := s
    obtain ⟨sync', timeout', report'⟩ := s'
    simp only [fields, List.cons.injEq, BitField.mk.injEq, true_and, UInt8.toNat_inj] at h
    obtain ⟨hsync, rfl, hreport⟩ := h
    have hsame : report = report' := SlotReport.eq_of_fields hs hs' hreport
    rw [SyncState.code_injective hsync, hsame]
  case incremental.incremental s s' =>
    obtain ⟨sync, increment, slots, keep⟩ := s
    obtain ⟨sync', increment', slots', keep'⟩ := s'
    simp only [fields, List.cons.injEq, BitField.mk.injEq, true_and, and_true, UInt8.toNat_inj,
      UInt16.toNat_inj] at h
    obtain ⟨hsync, rfl, rfl, hkeep⟩ := h
    have hsame : keep = keep' := by
      cases keep <;> cases keep' <;> first | rfl | contradiction
    rw [SyncState.code_injective hsync, hsame]

/-- A state is known by what stands at one place. -/
theorem eq_of_reads (hs : s.IsAnswered) (hs' : s'.IsAnswered)
    (hscheme : s.isIncremental = s'.isIncremental) (h : s.fields = v.fields start s.widths)
    (h' : s'.fields = v.fields start s'.widths) : s = s' := by
  -- The timeout stands in front of the report and decides how wide its numbers are.
  have hwidths : s.widths = s'.widths := by
    cases s <;> cases s' <;> simp only [isIncremental, reduceCtorEq] at hscheme
    case selfOrganised.selfOrganised s s' =>
      simp only [widths, fields, BitView.fields, List.map_cons, List.cons.injEq, BitField.mk.injEq,
        true_and] at h h'
      have htimeout : s.timeout = s'.timeout := UInt8.toNat_inj.mp (h.2.1.trans h'.2.1.symm)
      change s.report.Answers s.timeout at hs
      rw [htimeout] at hs
      have hreports := SlotReport.widths_of_answers hs hs'
      simp only [widths, fields, List.map_cons, hreports]
    case incremental.incremental => rfl
  apply eq_of_fields hs hs' hscheme
  rw [h, h', hwidths]

/-- From a position on, the state stands in the view as it is written. -/
structure StandsAt (s : CommunicationState) (v : BitView) (start : Nat) : Prop extends IsWritable s where
  bits : ∃ spare, spare.length = s.spareWidth ∧ v.Holds start (s.bits spare)

theorem exists_bits_of_fields (h : s.fields = v.fields start s.widths) :
    ∃ spare, spare.length = s.spareWidth ∧ v.Holds start (s.bits spare) := by
  have hsum := s.sum_widths_le
  refine ⟨(v.slice (start + s.widths.sum) (start + width)).toList, ?_, BitView.holds_append.mpr ⟨?_, ?_⟩⟩
  · rw [BitView.length_toList_slice, spareWidth]
    omega
  · rw [h, BitView.bits_fields]
    exact BitView.holds_slice (Nat.le_add_right _ _)
  · rw [BitField.length_bits]
    exact BitView.holds_slice (Nat.add_le_add_left hsum start)

/-- A state is read just where it stands, if it is of the scheme that is asked for. -/
theorem decode_eq_iff :
    decode v start isIncremental = s ↔ s.isIncremental = isIncremental ∧ s.StandsAt v start := by
  constructor
  · rintro rfl
    refine ⟨isIncremental_decode, ⟨isAnswered_decode, ?_⟩, ?_⟩
    · rw [fields_decode]
      exact BitView.fits_fields
    · exact exists_bits_of_fields fields_decode
  · rintro ⟨rfl, hwritable, spare, -, hholds⟩
    have hread := BitView.fields_of_holds hwritable.fits (BitView.holds_append.mp hholds).1
    exact eq_of_reads isAnswered_decode hwritable.answered isIncremental_decode fields_decode hread.symm

/-- What is written is read back, wherever it is written. -/
theorem decode_overwrite (h : s.IsWritable) {spare : List Bool} (hspare : spare.length = s.spareWidth)
    (v : BitView) (start : Nat) :
    decode (v.overwrite start (s.bits spare)) start s.isIncremental = s :=
  decode_eq_iff.mpr ⟨rfl, h, spare, hspare, v.holds_overwrite start _⟩

end CommunicationState

/-! ### Messages with a state -/

/-- The state that a message tells, if its form has one. -/
def Message.communication? : Message → Option CommunicationState
  | classA r => some r.communication
  | baseStation r | timeResponse r => some r.communication
  | aircraft r => some r.communication
  | classB r => some r.communication
  | multipleSlotBinary r => some r.communication
  | _ => none

/-- The scheme of a kind whose messages have a state: one for all of them, or that of the bit
before the state. -/
def MessageKind.scheme? (kind : MessageKind) (v : BitView) : Option Bool :=
  match kind with
  | scheduledPosition | assignedPosition | baseStation | timeResponse => some false
  | polledPosition => some true
  | aircraftPosition | classBPosition | multipleSlotBinary => some (v.bit (v.len - 20))
  | _ => none

namespace Message

variable {f : Frame} {kind : MessageKind}

/-- The state takes the last 19 bits. -/
theorem communication?_readAs (h : kind.bounds.least ≤ f.len ∧ f.len ≤ kind.bounds.most) :
    (readAs kind f).communication?
      = (kind.scheme? f.bits).map (CommunicationState.decode f.bits (f.len - 19)) := by
  cases kind
  case multipleSlotBinary =>
    have hselector : MultipleSlotBinary.selector f = f.bits.len - 20 := by
      simp only [MultipleSlotBinary.selector, CommunicationState.width, Frame.len]
      omega
    have hstart : f.bits.len - 20 + 1 = f.len - 19 := by
      simp only [MessageKind.bounds, Frame.len] at h ⊢
      omega
    simp only [communication?, readAs, MultipleSlotBinary.read, MessageKind.scheme?, Option.map_some,
      CommunicationState.decodeSelected, hselector, hstart]
  case scheduledPosition | assignedPosition | polledPosition | baseStation | timeResponse
      | aircraftPosition | classBPosition =>
    have hlen : f.bits.len = 168 := by
      simp only [MessageKind.bounds, Frame.len] at h
      omega
    simp only [communication?, readAs, MessageKind.scheme?, Option.map_some, Frame.len, hlen]
    rfl
  all_goals rfl

theorem communication?_of_decode {m : Message} (hcode : kind.code = f.code) (h : decode f = .ok m) :
    m.communication? = (kind.scheme? f.bits).map (CommunicationState.decode f.bits (f.len - 19)) := by
  obtain ⟨kind', hkind, hadmits, rfl⟩ := exists_admits_of_decode h
  obtain rfl := MessageKind.code_injective (hkind.trans hcode.symm)
  exact communication?_readAs hadmits.length

/-- A state is read just where it stands as it is written, of either scheme, so what is written at
any place of any view is read back from there. A decoded message tells a state just if its kind has
a scheme, and then the one of this scheme that stands in its last 19 bits. -/
theorem communication_read_back :
    (∀ (v : BitView) (start : Nat) (isIncremental : Bool) (s : CommunicationState),
      CommunicationState.decode v start isIncremental = s ↔
        s.isIncremental = isIncremental ∧ s.StandsAt v start) ∧
    (∀ (v : BitView) (start : Nat) (s : CommunicationState) (spare : List Bool),
      s.IsWritable → spare.length = s.spareWidth →
        CommunicationState.decode (v.overwrite start (s.bits spare)) start s.isIncremental = s) ∧
    ∀ (kind : MessageKind) (f : Frame) (m : Message), kind.code = f.code → decode f = .ok m →
      m.communication?.map CommunicationState.isIncremental = kind.scheme? f.bits ∧
        ∀ s ∈ m.communication?, s.StandsAt f.bits (f.len - 19) := by
  refine ⟨fun v start isIncremental s => CommunicationState.decode_eq_iff, ?_, ?_⟩
  · intro v start s spare hwritable hspare
    exact CommunicationState.decode_overwrite hwritable hspare v start
  · intro kind f m hcode hdecode
    rw [communication?_of_decode hcode hdecode]
    constructor
    · rw [Option.map_map]
      cases kind.scheme? f.bits <;> simp [CommunicationState.isIncremental_decode]
    · intro s hs
      obtain ⟨isIncremental, -, hread⟩ := Option.map_eq_some_iff.mp hs
      exact (CommunicationState.decode_eq_iff.mp hread).2

/-- An hour and a minute that there are not, written at the end of a scheduled report. -/
theorem time_out_of_range_read_back :
    let s := CommunicationState.selfOrganised ⟨.utcIndirect, 1, .time 31 127⟩
    let v := (BitView.tabulate 168 fun i => i == 5).overwrite 149 (s.bits [true, false])
    s.IsWritable ∧ ∃ m, decode (Frame.ofBits v) = .ok m ∧
      m.communication?.map CommunicationState.isIncremental = some false ∧
      ∀ s' ∈ m.communication?, s' = s := by
  intro s v
  have hwritable : s.IsWritable := ⟨rfl, by decide⟩
  have hcode : MessageKind.scheduledPosition.code = (Frame.ofBits v).code := by decide +kernel
  have hdecode := decode_of_ensure (f := Frame.ofBits v) (Frame.ensure_of_allows hcode.symm (by decide))
    (by decide)
  obtain ⟨hread, hwrite, htold⟩ := communication_read_back
  obtain ⟨hscheme, hstands⟩ := htold _ _ _ hcode hdecode
  refine ⟨hwritable, _, hdecode, hscheme, ?_⟩
  intro s' hs'
  have hscheme' : s'.isIncremental = false := by
    rw [hs'] at hscheme
    exact Option.some.inj hscheme
  calc s' = CommunicationState.decode v 149 false :=
        ((hread v 149 false s').mpr ⟨hscheme', hstands s' hs'⟩).symm
    _ = s := hwrite _ 149 s [true, false] hwritable rfl

end Message

end VesselTraffic
