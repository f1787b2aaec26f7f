import Mathlib.Data.List.Induction
import Mathlib.Tactic.Common
import VesselTraffic.Proofs.Reassembly

/-!
# A reassembler that begins anew

Three things leave nothing behind: giving up what is held, a sentence that is a message of
its own, and a whole message in order. After each of them a reassembler answers like a
new one. A message that meets fragments of another one is lost with them, and no other.
-/
namespace VesselTraffic

/-- All the fragments of one message, in order. -/
structure WholeMessage (fragments : List Sentence) : Prop where
  two_le : 2 ≤ fragments.length
  inOrder : ∃ count sequence, fragments.length = count.toNat ∧ InOrder count sequence fragments

namespace Reassembler

/-! ## What the steps of a run give back -/

/-- What a step gives back: what a push completes, or the fragments that are given up. -/
inductive Reply
  | pushed (completed : Option (Except Refusal Frame))
  | flushed (fragments : List Sentence)

def reply (r : Reassembler) : Step → Reply
  | .push s => .pushed (r.push s).completed
  | .flush => .flushed r.flush.2

/-- What the steps of a run give back, one after the other. -/
def replies (r : Reassembler) : List Step → List Reply
  | [] => []
  | step :: steps => r.reply step :: (r.after step).replies steps

variable {r r' : Reassembler} {s : Sentence} {fragments : List Sentence}

theorem replies_append (r : Reassembler) (steps steps' : List Step) :
    r.replies (steps ++ steps') = r.replies steps ++ (r.run steps).replies steps' := by
  induction steps generalizing r with
  | nil => rfl
  | cons step steps ih =>
    rw [List.cons_append, replies, ih, replies, List.cons_append]
    rfl

theorem break?_congr (h : r.buffer = r'.buffer) (s : Sentence) : r.break? s = r'.break? s := by
  unfold break? expected
  rw [h]

theorem push_congr (h : r.buffer = r'.buffer) (s : Sentence) :
    (r.push s).completed = (r'.push s).completed ∧
      (r.push s).next.buffer = (r'.push s).next.buffer := by
  unfold push
  rw [break?_congr h s]
  by_cases hsingle : s.isSingle
  · rw [if_pos hsingle, if_pos hsingle]
    exact ⟨rfl, rfl⟩
  · rw [if_neg hsingle, if_neg hsingle]
    cases r'.break? s with
    | some cause => exact ⟨rfl, rfl⟩
    | none =>
      simp only [extend, h]
      split_ifs
      · exact ⟨rfl, rfl⟩
      · exact ⟨rfl, rfl⟩

/-- All that a reassembler gives back is decided by what it holds. -/
theorem replies_congr (h : r.buffer = r'.buffer) (steps : List Step) :
    r.replies steps = r'.replies steps := by
  induction steps generalizing r r' with
  | nil => rfl
  | cons step steps ih =>
    cases step with
    | push s =>
      obtain ⟨hcompleted, hnext⟩ := push_congr h s
      have htail : (r.after (.push s)).replies steps = (r'.after (.push s)).replies steps :=
        ih hnext
      rw [replies, replies, reply, reply, hcompleted, htail]
    | flush =>
      have hflushed : r.flush.2 = r'.flush.2 := h
      have htail : (r.after .flush).replies steps = (r'.after .flush).replies steps := ih rfl
      rw [replies, replies, reply, reply, hflushed, htail]

theorem replies_eq_new (h : r.buffer = []) (steps : List Step) :
    r.replies steps = new.replies steps :=
  replies_congr h steps

/-! ## A whole message -/

/-- A fragment out of its turn is dropped with all that is held. -/
theorem push_out_of_turn (hcount : s.fragmentCount ≠ 1)
    (h : s.fragmentIndex.toNat ≠ r.buffer.length + 1) :
    (r.push s).completed = none ∧ (r.push s).next = ⟨[], r.violations + 1⟩ := by
  have hnot : ¬ r.Continues s := fun hs => h hs.index
  obtain ⟨cause, hcause⟩ := push_of_not_continues hcount hnot
  rw [hcause]
  exact ⟨rfl, rfl⟩

/-- Where nothing is held, fragments that do not come first are dropped one by one. -/
theorem run_out_of_turn (hr : r.buffer = []) (fragments : List Sentence)
    (hcounts : ∀ s ∈ fragments, s.fragmentCount ≠ 1)
    (hindices : ∀ s ∈ fragments, s.fragmentIndex.toNat ≠ 1) :
    r.replies (fragments.map .push) = List.replicate fragments.length (.pushed none) ∧
      r.run (fragments.map .push) = ⟨[], r.violations + fragments.length⟩ := by
  induction fragments generalizing r with
  | nil =>
    refine ⟨rfl, ?_⟩
    change r = ⟨[], r.violations⟩
    rw [← hr]
  | cons s fragments ih =>
    have hturn : s.fragmentIndex.toNat ≠ r.buffer.length + 1 := by
      rw [hr]
      exact hindices s (by simp)
    obtain ⟨hcompleted, hnext⟩ := push_out_of_turn (hcounts s (by simp)) hturn
    have hempty : (r.push s).next.buffer = [] := by rw [hnext]
    obtain ⟨hreplies, hrun⟩ := ih hempty (fun t ht => hcounts t (List.mem_cons_of_mem s ht))
      (fun t ht => hindices t (List.mem_cons_of_mem s ht))
    constructor
    · change .pushed (r.push s).completed :: (r.push s).next.replies (fragments.map .push) = _
      rw [hcompleted, hreplies, List.length_cons, List.replicate_succ]
    · change (r.push s).next.run (fragments.map .push) = _
      rw [hrun, hnext, List.length_cons, Nat.add_right_comm, Nat.add_assoc]

/-- Pushed when nothing is held, fragments in order lead to nothing short of the last one. -/
theorem replies_inOrder {count : UInt8} {sequence : Option UInt8} (hr : r.buffer = [])
    (fragments : List Sentence) (h : InOrder count sequence fragments)
    (hlt : fragments.length < count.toNat) :
    r.replies (fragments.map .push) = List.replicate fragments.length (.pushed none) := by
  induction fragments using List.reverseRecOn with
  | nil => rfl
  | append_singleton fragments s ih =>
    obtain ⟨hinit, -, rfl, rfl⟩ := InOrder.concat_iff.mp h
    rw [List.length_append, List.length_singleton] at hlt
    have hheld := run_push_inOrder hr fragments hinit (by omega)
    have hlast : (r.run (fragments.map .push)).reply (.push s) = .pushed none := by
      rw [hheld, reply, push_extends h hlt]
    rw [List.map_append, List.map_singleton, replies_append, ih hinit (by omega), replies, replies,
      hlast, List.length_append, List.length_singleton, List.replicate_succ']

/-- What a whole message leads to that is pushed when nothing is held. -/
def repliesToWhole (fragments : List Sentence) : List Reply :=
  List.replicate (fragments.length - 1) (.pushed none)
    ++ [.pushed (some (Frame.ofSentences fragments))]

theorem run_whole_of_idle (hr : r.buffer = []) (h : WholeMessage fragments) :
    r.replies (fragments.map .push) = repliesToWhole fragments ∧
      r.run (fragments.map .push) = ⟨[], r.violations⟩ := by
  obtain ⟨count, sequence, hlength, horder⟩ := h.inOrder
  have htwo := h.two_le
  obtain ⟨init, last, rfl⟩ : ∃ init last, fragments = init ++ [last] :=
    ⟨_, _, (List.dropLast_concat_getLast (List.ne_nil_of_length_pos (by omega))).symm⟩
  obtain ⟨hinit, -, rfl, rfl⟩ := InOrder.concat_iff.mp horder
  rw [List.length_append, List.length_singleton] at hlength htwo
  have hcount : last.fragmentCount ≠ 1 := by
    intro hone
    rw [hone] at hlength
    change init.length + 1 = 1 at hlength
    omega
  have hheld := run_push_inOrder hr init hinit (by omega)
  have hpush : (r.run (init.map .push)).push last =
      ⟨⟨[], r.violations⟩, [], some (Frame.ofSentences (init ++ [last]))⟩ := by
    rw [hheld, push_completes horder hcount hlength]
  constructor
  · rw [List.map_append, List.map_singleton, replies_append,
      replies_inOrder hr init hinit (by omega), replies, replies, reply, hpush, repliesToWhole,
      List.length_append, List.length_singleton, Nat.add_sub_cancel]
  · rw [List.map_append, List.map_singleton, run_concat, after, hpush]

/-- A whole message that meets fragments of another one is dropped, each fragment by
itself: the first one restarts what is held, and no other comes first. -/
theorem run_whole_of_held (hr : r.buffer ≠ []) (h : WholeMessage fragments) :
    r.replies (fragments.map .push) = List.replicate fragments.length (.pushed none) ∧
      r.run (fragments.map .push) = ⟨[], r.violations + fragments.length⟩ := by
  obtain ⟨count, sequence, hlength, horder⟩ := h.inOrder
  have htwo := h.two_le
  have hcounts : ∀ s ∈ fragments, s.fragmentCount ≠ 1 := by
    intro s hs hone
    rw [← horder.counts s hs, hone] at hlength
    change fragments.length = 1 at hlength
    omega
  cases fragments with
  | nil => simp at htwo
  | cons first rest =>
    have hindices := horder.indices
    rw [List.map_cons, List.length_cons, List.range'_succ, List.cons.injEq] at hindices
    obtain ⟨hfirst, hrest⟩ := hindices
    have hturn : first.fragmentIndex.toNat ≠ r.buffer.length + 1 := by
      have := List.length_pos_iff.mpr hr
      omega
    obtain ⟨hcompleted, hnext⟩ := push_out_of_turn (hcounts first (by simp)) hturn
    have hempty : (r.push first).next.buffer = [] := by rw [hnext]
    have hlate : ∀ s ∈ rest, s.fragmentIndex.toNat ≠ 1 := by
      intro s hs hone
      have hmem := List.mem_map_of_mem (f := fun t : Sentence => t.fragmentIndex.toNat) hs
      rw [hrest, hone, List.mem_range'_1] at hmem
      omega
    obtain ⟨hreplies, hrun⟩ := run_out_of_turn hempty rest
      (fun s hs => hcounts s (List.mem_cons_of_mem first hs)) hlate
    constructor
    · change .pushed (r.push first).completed :: (r.push first).next.replies (rest.map .push) = _
      rw [hcompleted, hreplies, List.length_cons, List.replicate_succ]
    · change (r.push first).next.run (rest.map .push) = _
      rw [hrun, hnext, List.length_cons, Nat.add_right_comm, Nat.add_assoc]

theorem buffer_run_whole (r : Reassembler) (h : WholeMessage fragments) :
    (r.run (fragments.map .push)).buffer = [] := by
  by_cases hr : r.buffer = []
  · rw [(run_whole_of_idle hr h).2]
  · rw [(run_whole_of_held hr h).2]

/-! ## Beginning anew -/

/-- Nothing is held, and whatever is done from now on gives back what it gives back on a
new reassembler. -/
def IsLikeNew (r : Reassembler) : Prop :=
  r.buffer = [] ∧ ∀ later, r.replies later = new.replies later

theorem isLikeNew_of_idle (h : r.buffer = []) : r.IsLikeNew := ⟨h, replies_eq_new h⟩

/-- From every state that can be reached, giving up what is held, a sentence that is a
message of its own, and a whole message in order all lead back to the beginning. The whole
message comes out if nothing was held before it, and counts as no violation. Otherwise
nothing comes out and each of its fragments counts as one; the whole message after that
one comes out. -/
theorem isLikeNew_after_run (steps : List Step) :
    let r := new.run steps
    r.flush.1.IsLikeNew ∧
    (∀ s : Sentence, s.fragmentCount = 1 → (r.push s).next.IsLikeNew) ∧
    (∀ fragments, WholeMessage fragments →
      (r.run (fragments.map .push)).IsLikeNew ∧
      (r.buffer = [] →
        r.replies (fragments.map .push) = repliesToWhole fragments ∧
        (r.run (fragments.map .push)).violations = r.violations) ∧
      (r.buffer ≠ [] →
        r.replies (fragments.map .push) = List.replicate fragments.length (.pushed none) ∧
        (r.run (fragments.map .push)).violations = r.violations + fragments.length) ∧
      (∀ next, WholeMessage next →
        (r.run (fragments.map .push)).replies (next.map .push) = repliesToWhole next)) := by
  intro r
  refine ⟨isLikeNew_of_idle rfl, ?_, ?_⟩
  · intro s hcount
    rw [push_single hcount]
    exact isLikeNew_of_idle rfl
  · intro fragments h
    have hempty := buffer_run_whole r h
    refine ⟨isLikeNew_of_idle hempty, ?_, ?_, ?_⟩
    · intro hr
      obtain ⟨hreplies, hrun⟩ := run_whole_of_idle hr h
      exact ⟨hreplies, by rw [hrun]⟩
    · intro hr
      obtain ⟨hreplies, hrun⟩ := run_whole_of_held hr h
      exact ⟨hreplies, by rw [hrun]⟩
    · intro next hnext
      exact (run_whole_of_idle hempty hnext).1

/-- A fragment numbered `index` out of `count`, with a payload of one symbol. -/
def symbolFragment (count index : UInt8) : Sentence :=
  { talker := "AI", carrier := .other, fragmentCount := count, fragmentIndex := index
    sequence := some 3, channel := some 'A', payload := "0", fill := 0, checksum := 0
    checksumOk := true, tagBlock := none }

/-- One fragment left over from a message of three costs the message of two behind it. -/
theorem leftover_costs_one_message :
    let r := new.run [.push (symbolFragment 3 1)]
    let message := [symbolFragment 2 1, symbolFragment 2 2]
    WholeMessage message ∧ r.buffer ≠ [] ∧
    r.replies (message.map .push) = List.replicate 2 (.pushed none) ∧
    (r.run (message.map .push)).violations = r.violations + 2 ∧
    (r.run (message.map .push)).replies (message.map .push) = repliesToWhole message := by
  intro r message
  have hwhole : WholeMessage message :=
    { two_le := by decide
      inOrder := ⟨2, some 3, rfl, rfl, by decide, by decide⟩ }
  have hheld : r.buffer ≠ [] := by decide
  obtain ⟨-, -, hmessage⟩ := isLikeNew_after_run [.push (symbolFragment 3 1)]
  obtain ⟨-, -, hlost, hlater⟩ := hmessage message hwhole
  exact ⟨hwhole, hheld, (hlost hheld).1, (hlost hheld).2, hlater message hwhole⟩

end Reassembler
end VesselTraffic
