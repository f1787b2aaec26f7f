import Mathlib.Data.List.Induction
import Mathlib.Tactic.Common
import VesselTraffic.Proofs.Armoring
import VesselTraffic.Reassembler

/-!
# Runs of a reassembler

Whatever is pushed and flushed, a reassembler holds an unbroken beginning of one
sequence, and exactly the sentences pushed last. A frame comes out when such a
beginning becomes the whole sequence, or from a sentence that stands alone.
-/
namespace VesselTraffic

/-- The first fragments of a sequence: numbered from one without a gap, all with one
count and one sequence identifier. -/
structure InOrder (count : UInt8) (sequence : Option UInt8) (fragments : List Sentence) : Prop where
  indices : fragments.map (fun s => s.fragmentIndex.toNat) = List.range' 1 fragments.length
  counts : ∀ s ∈ fragments, s.fragmentCount = count
  sequences : ∀ s ∈ fragments, s.sequence = sequence

namespace InOrder

variable {count : UInt8} {sequence : Option UInt8} {fragments : List Sentence} {s : Sentence}

theorem nil : InOrder count sequence [] := ⟨rfl, by simp, by simp⟩

theorem concat_iff : InOrder count sequence (fragments ++ [s]) ↔
    InOrder count sequence fragments ∧ s.fragmentIndex.toNat = fragments.length + 1 ∧
      s.fragmentCount = count ∧ s.sequence = sequence := by
  have hindices : (fragments ++ [s]).map (fun t => t.fragmentIndex.toNat) =
        List.range' 1 (fragments ++ [s]).length ↔
      fragments.map (fun t => t.fragmentIndex.toNat) = List.range' 1 fragments.length ∧
        s.fragmentIndex.toNat = fragments.length + 1 := by
    rw [List.map_append, List.length_append, List.length_singleton, List.range'_concat,
      Nat.one_mul, Nat.add_comm 1]
    constructor
    · intro h
      obtain ⟨hinit, hlast⟩ := List.append_inj' h rfl
      exact ⟨hinit, List.singleton_inj.mp hlast⟩
    · rintro ⟨hinit, hlast⟩
      rw [hinit, List.map_singleton, hlast]
  constructor
  · intro h
    obtain ⟨hinit, hlast⟩ := hindices.mp h.indices
    exact ⟨⟨hinit, fun t ht => h.counts t (List.mem_append_left _ ht),
        fun t ht => h.sequences t (List.mem_append_left _ ht)⟩,
      hlast, h.counts s (by simp), h.sequences s (by simp)⟩
  · rintro ⟨h, hlast, hcount, hsequence⟩
    refine ⟨hindices.mpr ⟨h.indices, hlast⟩, ?_, ?_⟩
    · intro t ht
      rcases List.mem_append.mp ht with ht | ht
      · exact h.counts t ht
      · rwa [List.mem_singleton.mp ht]
    · intro t ht
      rcases List.mem_append.mp ht with ht | ht
      · exact h.sequences t ht
      · rwa [List.mem_singleton.mp ht]

end InOrder

/-! ## What a frame carries -/

namespace Sentence

def payloadBytes (s : Sentence) : List UInt8 := Text.Utf8.encode s.payload.toList

/-- Six bits for each byte of the payload, with no fill dropped. -/
def payloadBits (s : Sentence) : List Bool :=
  (s.payloadBytes.filterMap Armor.value?).flatMap SixBit.bits

theorem encode_join_payload (fragments : List Sentence) :
    Text.Utf8.encode (String.join (fragments.map payload)).toList = fragments.flatMap payloadBytes := by
  rw [Text.Utf8.encode, String.toList_join, List.flatMap_map, List.flatMap_assoc]
  rfl

theorem flatMap_payloadBits (fragments : List Sentence) :
    fragments.flatMap payloadBits =
      ((fragments.flatMap payloadBytes).filterMap Armor.value?).flatMap SixBit.bits := by
  rw [List.filterMap_flatMap, List.flatMap_assoc]
  rfl

end Sentence

namespace Frame

/-- What some sentences tell about a frame of these bits, the last one given apart. -/
def joined (init : List Sentence) (last : Sentence) (bits : BitView) : Frame where
  bits := bits
  payload := String.join ((init ++ [last]).map Sentence.payload)
  fill := last.fill
  fragments := UInt8.ofNat (init.length + 1)
  channel := (init ++ [last]).findSome? Sentence.channel
  carrier := ((init ++ [last]).head (by simp)).carrier
  tagBlock := (init ++ [last]).findSome? Sentence.tagBlock

theorem ofSentences_concat (init : List Sentence) (last : Sentence) :
    ofSentences (init ++ [last]) =
      (Armor.decode (String.join ((init ++ [last]).map Sentence.payload)) last.fill).map
        (joined init last) := by
  unfold ofSentences joined
  rw [List.getLast?_concat]
  cases init <;> simp only [List.nil_append, List.cons_append] <;>
    cases Armor.decode _ last.fill <;> simp [Except.map, bind, Except.bind, pure, Except.pure]

variable {init : List Sentence} {last : Sentence} {f : Frame}

/-- There is a frame just when the payloads are acceptable together, with the fill of the last one. -/
theorem exists_ofSentences_iff : (∃ f, ofSentences (init ++ [last]) = .ok f) ↔
    Armor.IsAcceptable ((init ++ [last]).flatMap Sentence.payloadBytes) last.fill := by
  rw [← Sentence.encode_join_payload, ofSentences_concat]
  constructor
  · rintro ⟨f, hf⟩
    by_contra h
    rw [Armor.decode_of_not_isAcceptable h] at hf
    cases hf
  · intro h
    rw [Armor.decode_of_isAcceptable h]
    exact ⟨_, rfl⟩

theorem eq_joined_of_ofSentences (h : ofSentences (init ++ [last]) = .ok f) :
    f = joined init last f.bits := by
  rw [ofSentences_concat] at h
  cases hbits : Armor.decode (String.join ((init ++ [last]).map Sentence.payload)) last.fill with
  | error r =>
    rw [hbits] at h
    cases h
  | ok bits =>
    rw [hbits] at h
    obtain rfl := Except.ok.inj h
    rfl

/-- The bits are those of all payloads one after the other, less the fill at their end. -/
theorem toList_bits_of_ofSentences (h : ofSentences (init ++ [last]) = .ok f) :
    f.bits.toList = ((init ++ [last]).flatMap Sentence.payloadBits).take
      (((init ++ [last]).flatMap Sentence.payloadBits).length - last.fill.toNat) := by
  have hacceptable := exists_ofSentences_iff.mp ⟨f, h⟩
  rw [← Sentence.encode_join_payload] at hacceptable
  rw [ofSentences_concat, Armor.decode_of_isAcceptable hacceptable, Sentence.encode_join_payload] at h
  rw [← Except.ok.inj h, joined, BitView.toList_ofSymbols, Sentence.flatMap_payloadBits,
    SixBit.length_flatMap_bits]

end Frame

namespace Reassembler

/-! ## One push -/

/-- A fragment that comes next after those held. -/
structure Continues (r : Reassembler) (s : Sentence) : Prop where
  index_le : s.fragmentIndex ≤ s.fragmentCount
  index : s.fragmentIndex.toNat = r.expected
  alike : ∀ first ∈ r.buffer.head?,
    first.fragmentCount = s.fragmentCount ∧ first.sequence = s.sequence

theorem break?_eq_none_iff (r : Reassembler) (s : Sentence) : r.break? s = none ↔ r.Continues s := by
  unfold break?
  dsimp only
  split_ifs with hpast hbefore hbehind
  · refine iff_of_false (by simp) fun h => ?_
    exact UInt8.not_lt.mpr h.index_le hpast
  · refine iff_of_false (by simp) fun h => ?_
    have := h.index
    omega
  · refine iff_of_false (by simp) fun h => ?_
    have := h.index
    omega
  · have hle := UInt8.not_lt.mp hpast
    have hindex : s.fragmentIndex.toNat = r.expected := by omega
    cases hbuffer : r.buffer with
    | nil => exact iff_of_true rfl ⟨hle, hindex, by simp [hbuffer]⟩
    | cons first rest =>
      constructor
      · intro h
        dsimp only at h
        refine ⟨hle, hindex, ?_⟩
        simp only [hbuffer, List.head?_cons, Option.mem_some]
        rintro _ rfl
        split_ifs at h with hcount hsequence
        exact ⟨not_not.mp hcount, not_not.mp hsequence⟩
      · intro h
        obtain ⟨hcount, hsequence⟩ := h.alike first (by simp [hbuffer])
        simp [hcount, hsequence]

variable {r : Reassembler} {s : Sentence}

theorem push_single (h : s.fragmentCount = 1) : r.push s = r.pushSingle s := by
  simp [push, Sentence.isSingle, h]

theorem push_of_continues (hcount : s.fragmentCount ≠ 1) (h : r.Continues s) :
    r.push s = r.extend s := by
  simp [push, Sentence.isSingle, hcount, (break?_eq_none_iff r s).mpr h]

theorem push_of_not_continues (hcount : s.fragmentCount ≠ 1) (h : ¬ r.Continues s) :
    ∃ cause, r.push s = r.reset s cause := by
  obtain ⟨cause, hcause⟩ := Option.ne_none_iff_exists'.mp (mt (break?_eq_none_iff r s).mp h)
  exact ⟨cause, by simp [push, Sentence.isSingle, hcount, hcause]⟩

/-- Whatever is held, a push gives up a sequence, holds the sentence besides, or completes
something and holds nothing. -/
theorem push_cases (r : Reassembler) (s : Sentence) :
    ((r.push s).completed = none ∧ (r.push s).next = ⟨[], r.violations + 1⟩) ∨
    ((r.push s).completed = none ∧ (r.push s).next = ⟨r.buffer ++ [s], r.violations⟩) ∨
    ((∃ frame, (r.push s).completed = some frame) ∧ (r.push s).next = ⟨[], r.violations⟩) := by
  by_cases hcount : s.fragmentCount = 1
  · rw [push_single hcount]
    exact .inr (.inr ⟨⟨_, rfl⟩, rfl⟩)
  · by_cases h : r.Continues s
    · rw [push_of_continues hcount h, extend]
      split_ifs
      · exact .inr (.inl ⟨rfl, rfl⟩)
      · exact .inr (.inr ⟨⟨_, rfl⟩, rfl⟩)
    · obtain ⟨cause, hcause⟩ := push_of_not_continues hcount h
      rw [hcause]
      exact .inl ⟨rfl, rfl⟩

/-- What is held is in order, and at least one fragment of its sequence is missing. -/
def IsPartial (r : Reassembler) : Prop :=
  ∃ count sequence, InOrder count sequence r.buffer ∧ r.buffer.length < count.toNat

theorem isPartial_of_buffer_eq_nil (h : r.buffer = []) : r.IsPartial :=
  ⟨2, none, h ▸ InOrder.nil, by simp [h]⟩

theorem continues_of_inOrder (h : InOrder s.fragmentCount s.sequence (r.buffer ++ [s]))
    (hlt : r.buffer.length < s.fragmentCount.toNat) : r.Continues s := by
  obtain ⟨hbuffer, hindex, -, -⟩ := InOrder.concat_iff.mp h
  refine ⟨UInt8.le_iff_toNat_le.mpr (by omega), hindex, ?_⟩
  intro first hfirst
  have hmem := List.mem_of_mem_head? hfirst
  exact ⟨hbuffer.counts first hmem, hbuffer.sequences first hmem⟩

theorem Continues.inOrder (hr : r.IsPartial) (h : r.Continues s) :
    InOrder s.fragmentCount s.sequence (r.buffer ++ [s]) ∧
      r.buffer.length < s.fragmentCount.toNat := by
  obtain ⟨count, sequence, hbuffer, hlt⟩ := hr
  have hindex : s.fragmentIndex.toNat = r.buffer.length + 1 := h.index
  have hle := UInt8.le_iff_toNat_le.mp h.index_le
  suffices hs : InOrder s.fragmentCount s.sequence r.buffer from
    ⟨InOrder.concat_iff.mpr ⟨hs, hindex, rfl, rfl⟩, by omega⟩
  cases hfirst : r.buffer with
  | nil => exact InOrder.nil
  | cons first rest =>
    obtain ⟨hcount, hsequence⟩ := h.alike first (by simp [hfirst])
    have hmem : first ∈ r.buffer := by simp [hfirst]
    rw [← hcount, ← hsequence, hbuffer.counts first hmem, hbuffer.sequences first hmem, ← hfirst]
    exact hbuffer

theorem push_extends (h : InOrder s.fragmentCount s.sequence (r.buffer ++ [s]))
    (hlt : r.buffer.length + 1 < s.fragmentCount.toNat) :
    r.push s = ⟨{ r with buffer := r.buffer ++ [s] }, [], none⟩ := by
  have hcount : s.fragmentCount ≠ 1 := by
    intro hone
    simp [hone] at hlt
  rw [push_of_continues hcount (continues_of_inOrder h (by omega)), extend, if_pos (by simpa using hlt)]

theorem push_completes (h : InOrder s.fragmentCount s.sequence (r.buffer ++ [s]))
    (hcount : s.fragmentCount ≠ 1) (hlast : r.buffer.length + 1 = s.fragmentCount.toNat) :
    r.push s = ⟨{ r with buffer := [] }, [], some (Frame.ofSentences (r.buffer ++ [s]))⟩ := by
  rw [push_of_continues hcount (continues_of_inOrder h (by omega)), extend, if_neg (by simp [hlast])]

/-- What a push leads to: the sentence is a message of its own, goes on with what is
held, ends it, or ends all hope for it. -/
inductive Pushed (r : Reassembler) (s : Sentence) : Push → Prop
  | single (hcount : s.fragmentCount = 1) : Pushed r s (r.pushSingle s)
  | extended (h : InOrder s.fragmentCount s.sequence (r.buffer ++ [s]))
      (hlt : r.buffer.length + 1 < s.fragmentCount.toNat) :
      Pushed r s ⟨{ r with buffer := r.buffer ++ [s] }, [], none⟩
  | completed (h : InOrder s.fragmentCount s.sequence (r.buffer ++ [s]))
      (hcount : s.fragmentCount ≠ 1) (hlast : r.buffer.length + 1 = s.fragmentCount.toNat) :
      Pushed r s ⟨{ r with buffer := [] }, [], some (Frame.ofSentences (r.buffer ++ [s]))⟩
  | broken (hcount : s.fragmentCount ≠ 1)
      (h : ¬ (InOrder s.fragmentCount s.sequence (r.buffer ++ [s]) ∧
        r.buffer.length < s.fragmentCount.toNat)) (cause : SequenceBreak) :
      Pushed r s (r.reset s cause)

theorem pushed_push (hr : r.IsPartial) (s : Sentence) : Pushed r s (r.push s) := by
  by_cases hcount : s.fragmentCount = 1
  · rw [push_single hcount]
    exact .single hcount
  · by_cases h : InOrder s.fragmentCount s.sequence (r.buffer ++ [s]) ∧
      r.buffer.length < s.fragmentCount.toNat
    · obtain ⟨h, hlt⟩ := h
      rcases Nat.lt_or_eq_of_le (Nat.succ_le_of_lt hlt) with hlt | hlast
      · rw [push_extends h hlt]
        exact .extended h hlt
      · rw [push_completes h hcount hlast]
        exact .completed h hcount hlast
    · obtain ⟨cause, hcause⟩ := push_of_not_continues hcount fun hs => h (hs.inOrder hr)
      rw [hcause]
      exact .broken hcount h cause

theorem isPartial_push (hr : r.IsPartial) (s : Sentence) : (r.push s).next.IsPartial := by
  have hs := pushed_push hr s
  generalize r.push s = p at hs ⊢
  cases hs with
  | single | completed | broken => exact isPartial_of_buffer_eq_nil rfl
  | extended h hlt => exact ⟨s.fragmentCount, s.sequence, h, by simpa using hlt⟩

/-! ## Runs -/

/-- What is done with a reassembler. -/
inductive Step
  | push (s : Sentence)
  | flush

def after (r : Reassembler) : Step → Reassembler
  | .push s => (r.push s).next
  | .flush => r.flush.1

def run (r : Reassembler) (steps : List Step) : Reassembler := steps.foldl after r

@[simp] theorem run_concat (r : Reassembler) (steps : List Step) (step : Step) :
    r.run (steps ++ [step]) = (r.run steps).after step := by simp [run]

theorem run_append (r : Reassembler) (steps steps' : List Step) :
    r.run (steps ++ steps') = (r.run steps).run steps' := by simp [run]

theorem isPartial_run (hr : r.IsPartial) (steps : List Step) : (r.run steps).IsPartial := by
  induction steps generalizing r with
  | nil => exact hr
  | cons step steps ih =>
    cases step with
    | push s => exact ih (isPartial_push hr s)
    | flush => exact ih (isPartial_of_buffer_eq_nil rfl)

/-- Fragments in order, pushed when nothing is held, are held until the last one comes. -/
theorem run_push_inOrder {count : UInt8} {sequence : Option UInt8} (hr : r.buffer = [])
    (fragments : List Sentence) (h : InOrder count sequence fragments)
    (hlt : fragments.length < count.toNat) :
    r.run (fragments.map .push) = { r with buffer := fragments } := by
  induction fragments using List.reverseRecOn with
  | nil =>
    change r = { r with buffer := [] }
    rw [← hr]
  | append_singleton fragments s ih =>
    obtain ⟨hinit, -, rfl, rfl⟩ := InOrder.concat_iff.mp h
    rw [List.length_append, List.length_singleton] at hlt
    rw [List.map_append, List.map_singleton, run_concat, ih hinit (by omega), after,
      push_extends h hlt]

/-- The last steps pushed exactly these sentences, and nothing was held before them. -/
def EndsWith (steps : List Step) (fragments : List Sentence) : Prop :=
  ∃ before, steps = before ++ fragments.map .push ∧ (new.run before).buffer = []

theorem endsWith_nil {steps : List Step} (h : (new.run steps).buffer = []) : EndsWith steps [] :=
  ⟨steps, by simp, h⟩

theorem EndsWith.concat {steps : List Step} {fragments : List Sentence}
    (h : EndsWith steps fragments) (s : Sentence) :
    EndsWith (steps ++ [.push s]) (fragments ++ [s]) := by
  obtain ⟨before, rfl, hidle⟩ := h
  exact ⟨before, by simp, hidle⟩

/-- What is held after a run are the sentences that its last steps pushed. -/
theorem endsWith_run (steps : List Step) : EndsWith steps (new.run steps).buffer := by
  induction steps using List.reverseRecOn with
  | nil => exact endsWith_nil rfl
  | append_singleton steps step ih =>
    cases step with
    | flush =>
      have hidle : (new.run (steps ++ [.flush])).buffer = [] := by rw [run_concat]; rfl
      rw [hidle]
      exact endsWith_nil hidle
    | push s =>
      have hr := isPartial_run (isPartial_of_buffer_eq_nil (r := new) rfl) steps
      have hnext : ((new.run steps).push s).next.buffer = [] ∨
          ((new.run steps).push s).next.buffer = (new.run steps).buffer ++ [s] := by
        have hs := pushed_push hr s
        generalize (new.run steps).push s = p at hs ⊢
        cases hs with
        | single | completed | broken => exact .inl rfl
        | extended => exact .inr rfl
      have hlast : new.run (steps ++ [.push s]) = ((new.run steps).push s).next := run_concat ..
      rcases hnext with hidle | hnext
      · rw [hlast, hidle]
        exact endsWith_nil (by rw [hlast, hidle])
      · rw [hlast, hnext]
        exact ih.concat s

theorem EndsWith.buffer_eq {count : UInt8} {sequence : Option UInt8} {steps : List Step}
    {fragments : List Sentence} (h : EndsWith steps fragments)
    (horder : InOrder count sequence fragments) (hlt : fragments.length < count.toNat) :
    (new.run steps).buffer = fragments := by
  obtain ⟨before, rfl, hidle⟩ := h
  rw [run_append, run_push_inOrder hidle fragments horder hlt]

/-- The push of `s` after some steps brings these sentences to their end: `s` alone is
a message, or `s` is the last of a whole sequence. -/
def Finishes (steps : List Step) (s : Sentence) (fragments : List Sentence) : Prop :=
  (s.fragmentCount = 1 ∧ fragments = [s]) ∨
    (2 ≤ s.fragmentCount.toNat ∧ fragments.length = s.fragmentCount.toNat ∧
      InOrder s.fragmentCount s.sequence fragments ∧ EndsWith (steps ++ [.push s]) fragments)

/-- The push of `s` after some steps leaves an unbroken beginning of a sequence. -/
def Prolongs (steps : List Step) (s : Sentence) (fragments : List Sentence) : Prop :=
  1 ≤ fragments.length ∧ fragments.length < s.fragmentCount.toNat ∧
    InOrder s.fragmentCount s.sequence fragments ∧ EndsWith (steps ++ [.push s]) fragments

/-- Sentences in order that a push ends are the ones held before it and its own. -/
theorem EndsWith.eq_concat {steps : List Step} {fragments : List Sentence}
    (h : EndsWith (steps ++ [.push s]) fragments)
    (horder : InOrder s.fragmentCount s.sequence fragments) (hpos : 1 ≤ fragments.length)
    (hle : fragments.length ≤ s.fragmentCount.toNat) :
    fragments = (new.run steps).buffer ++ [s] := by
  have hne : fragments ≠ [] := List.ne_nil_of_length_pos hpos
  obtain ⟨init, t, rfl⟩ : ∃ init t, fragments = init ++ [t] :=
    ⟨_, _, (List.dropLast_concat_getLast hne).symm⟩
  obtain ⟨before, hsteps, hidle⟩ := h
  rw [List.map_append, List.map_singleton, ← List.append_assoc] at hsteps
  obtain ⟨hinit, hlast⟩ := List.append_inj' hsteps rfl
  obtain rfl : s = t := Step.push.inj (List.singleton_inj.mp hlast)
  have hend : EndsWith steps init := ⟨before, hinit, hidle⟩
  rw [List.length_append, List.length_singleton] at hle
  rw [hend.buffer_eq (InOrder.concat_iff.mp horder).1 hle]

theorem finishes_iff (steps : List Step) (s : Sentence) (fragments : List Sentence) :
    Finishes steps s fragments ↔ (s.fragmentCount = 1 ∧ fragments = [s]) ∨
      (s.fragmentCount ≠ 1 ∧ (new.run steps).buffer.length + 1 = s.fragmentCount.toNat ∧
        InOrder s.fragmentCount s.sequence ((new.run steps).buffer ++ [s]) ∧
        fragments = (new.run steps).buffer ++ [s]) := by
  refine or_congr_right ⟨?_, ?_⟩
  · rintro ⟨htwo, hlength, horder, hend⟩
    obtain rfl := hend.eq_concat horder (by omega) (by omega)
    refine ⟨fun hone => ?_, by simpa using hlength, horder, rfl⟩
    simp [hone] at htwo
  · rintro ⟨hcount, hlast, horder, rfl⟩
    have hzero : s.fragmentCount.toNat ≠ 1 := fun h => hcount (UInt8.toNat_inj.mp h)
    exact ⟨by omega, by simpa using hlast, horder, (endsWith_run steps).concat s⟩

theorem prolongs_iff (steps : List Step) (s : Sentence) (fragments : List Sentence) :
    Prolongs steps s fragments ↔ (new.run steps).buffer.length + 1 < s.fragmentCount.toNat ∧
      InOrder s.fragmentCount s.sequence ((new.run steps).buffer ++ [s]) ∧
      fragments = (new.run steps).buffer ++ [s] := by
  constructor
  · rintro ⟨hpos, hlt, horder, hend⟩
    obtain rfl := hend.eq_concat horder hpos (by omega)
    exact ⟨by simpa using hlt, horder, rfl⟩
  · rintro ⟨hlt, horder, rfl⟩
    exact ⟨by simp, by simpa using hlt, horder, (endsWith_run steps).concat s⟩

theorem isPartial_run_new (steps : List Step) : (new.run steps).IsPartial :=
  isPartial_run (isPartial_of_buffer_eq_nil rfl) steps

theorem push_of_finishes {steps : List Step} {fragments : List Sentence}
    (h : Finishes steps s fragments) :
    ((new.run steps).push s).completed = some (Frame.ofSentences fragments) ∧
      ((new.run steps).push s).next.buffer = [] := by
  rcases (finishes_iff steps s fragments).mp h with ⟨hcount, rfl⟩ | ⟨hcount, hlast, horder, rfl⟩
  · rw [push_single hcount]
    exact ⟨rfl, rfl⟩
  · rw [push_completes horder hcount hlast]
    exact ⟨rfl, rfl⟩

theorem push_of_prolongs {steps : List Step} {fragments : List Sentence}
    (h : Prolongs steps s fragments) :
    ((new.run steps).push s).completed = none ∧
      ((new.run steps).push s).next.buffer = fragments := by
  obtain ⟨hlt, horder, rfl⟩ := (prolongs_iff steps s fragments).mp h
  rw [push_extends horder hlt]
  exact ⟨rfl, rfl⟩

theorem push_of_neither {steps : List Step}
    (hfinishes : ∀ fragments, ¬ Finishes steps s fragments)
    (hprolongs : ∀ fragments, ¬ Prolongs steps s fragments) :
    ((new.run steps).push s).completed = none ∧ ((new.run steps).push s).next.buffer = [] := by
  simp only [finishes_iff, prolongs_iff] at hfinishes hprolongs
  have hs := pushed_push (isPartial_run_new steps) s
  generalize (new.run steps).push s = p at hs ⊢
  cases hs with
  | single hcount => exact absurd (.inl ⟨hcount, rfl⟩) (hfinishes _)
  | extended horder hlt => exact absurd ⟨hlt, horder, rfl⟩ (hprolongs _)
  | completed horder hcount hlast =>
    exact absurd (.inr ⟨hcount, hlast, horder, rfl⟩) (hfinishes _)
  | broken => exact ⟨rfl, rfl⟩

theorem exists_eq_concat_of_finishes {steps : List Step} {fragments : List Sentence}
    (h : Finishes steps s fragments) :
    ∃ init, fragments = init ++ [s] ∧ s.fragmentCount = UInt8.ofNat (init.length + 1) := by
  rcases (finishes_iff steps s fragments).mp h with ⟨hcount, rfl⟩ | ⟨-, hlast, -, rfl⟩
  · exact ⟨[], rfl, hcount⟩
  · exact ⟨_, rfl, by rw [hlast, UInt8.ofNat_toNat]⟩

/-- A finished message becomes a frame just when its payloads are acceptable together. -/
theorem exists_frame_of_finishes {steps : List Step} {fragments : List Sentence}
    (h : Finishes steps s fragments) : (∃ f, Frame.ofSentences fragments = .ok f) ↔
      Armor.IsAcceptable (fragments.flatMap Sentence.payloadBytes) s.fill := by
  obtain ⟨init, rfl, -⟩ := exists_eq_concat_of_finishes h
  exact Frame.exists_ofSentences_iff

/-- The frame of a finished message carries the payload of all its sentences, in the
order in which they came, and the fill of the last one. -/
theorem ofSentences_of_finishes {steps : List Step} {fragments : List Sentence} {f : Frame}
    (h : Finishes steps s fragments) (hf : Frame.ofSentences fragments = .ok f) :
    f.payload = String.join (fragments.map Sentence.payload) ∧ f.fill = s.fill ∧
      f.fragments = s.fragmentCount ∧
      f.bits.toList = (fragments.flatMap Sentence.payloadBits).take
        ((fragments.flatMap Sentence.payloadBits).length - s.fill.toNat) := by
  obtain ⟨init, rfl, hcount⟩ := exists_eq_concat_of_finishes h
  have hbits := Frame.toList_bits_of_ofSentences hf
  rw [Frame.eq_joined_of_ofSentences hf] at hbits ⊢
  exact ⟨rfl, rfl, hcount.symm, hbits⟩

/-- A frame, or the refusal of its payload, comes out exactly when a sentence stands
alone or ends a whole sequence that began with nothing held; which of them, the payloads of all its
sentences decide together, and a frame carries their bits less the fill of the last one. What is held is always
what the last steps pushed, an unbroken beginning of one sequence. A sentence that
neither ends nor prolongs such a beginning leaves nothing. -/
theorem push_after_run (steps : List Step) (s : Sentence) :
    (((new.run steps).push s).completed.isSome ↔ ∃ fragments, Finishes steps s fragments) ∧
    (∀ fragments, Finishes steps s fragments →
      ((new.run steps).push s).completed = some (Frame.ofSentences fragments) ∧
      ((new.run steps).push s).next.buffer = [] ∧
      ((∃ f, Frame.ofSentences fragments = .ok f) ↔
        Armor.IsAcceptable (fragments.flatMap Sentence.payloadBytes) s.fill) ∧
      ∀ f, Frame.ofSentences fragments = .ok f →
        f.payload = String.join (fragments.map Sentence.payload) ∧ f.fill = s.fill ∧
          f.fragments = s.fragmentCount ∧
          f.bits.toList = (fragments.flatMap Sentence.payloadBits).take
            ((fragments.flatMap Sentence.payloadBits).length - s.fill.toNat)) ∧
    (∀ fragments, Prolongs steps s fragments →
      ((new.run steps).push s).completed = none ∧
      ((new.run steps).push s).next.buffer = fragments) ∧
    ((∀ fragments, ¬ Finishes steps s fragments ∧ ¬ Prolongs steps s fragments) →
      ((new.run steps).push s).completed = none ∧
      ((new.run steps).push s).next.buffer = []) ∧
    ((new.run steps).buffer = [] ∨ ∃ count sequence,
      1 ≤ (new.run steps).buffer.length ∧ (new.run steps).buffer.length < count.toNat ∧
      InOrder count sequence (new.run steps).buffer ∧ EndsWith steps (new.run steps).buffer) ∧
    (new.run steps).flush.2 = (new.run steps).buffer ∧ (new.run steps).flush.1.buffer = [] := by
  refine ⟨⟨?_, ?_⟩, ?_, ?_, ?_, ?_, rfl, rfl⟩
  · intro hsome
    by_contra hnone
    have hfinishes := not_exists.mp hnone
    by_cases hprolongs : ∃ fragments, Prolongs steps s fragments
    · obtain ⟨fragments, h⟩ := hprolongs
      simp [(push_of_prolongs h).1] at hsome
    · simp [(push_of_neither hfinishes (not_exists.mp hprolongs)).1] at hsome
  · rintro ⟨fragments, h⟩
    simp [(push_of_finishes h).1]
  · intro fragments h
    exact ⟨(push_of_finishes h).1, (push_of_finishes h).2, exists_frame_of_finishes h,
      fun f hf => ofSentences_of_finishes h hf⟩
  · intro fragments h
    exact push_of_prolongs h
  · intro h
    exact push_of_neither (fun fragments => (h fragments).1) (fun fragments => (h fragments).2)
  · obtain ⟨count, sequence, horder, hlt⟩ := isPartial_run_new steps
    by_cases hbuffer : (new.run steps).buffer = []
    · exact .inl hbuffer
    · exact .inr ⟨count, sequence, List.length_pos_iff.mpr hbuffer, hlt, horder, endsWith_run steps⟩

end Reassembler
end VesselTraffic
