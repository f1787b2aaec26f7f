import VesselTraffic.Proofs.Dispatch
import VesselTraffic.Proofs.SixBitTexts

/-!
# Long names of aids to navigation

A name of more than twenty letters is sent in two parts, the second one at the end of the
message. Each part loses the spaces at its ends when it is read. So the name that is put together
from both lacks the spaces where it was cut.
-/
namespace VesselTraffic

namespace NavigationAid

variable {f : Frame} {name : List Char}

/-- A name of more than twenty letters, as many as there is room for at most, which neither begins
nor ends with a space. -/
structure IsLongName (name : List Char) : Prop where
  long : 21 ≤ name.length ∧ name.length ≤ 34
  letters : ∀ c ∈ name, SixBit.IsLetter c
  head : name.head? ≠ some ' '
  last : name.getLast? ≠ some ' '

/-- The message has the first twenty letters of a long name at their place, and the others behind all
other fields. -/
structure CarriesName (f : Frame) (name : List Char) : Prop extends IsLongName name where
  code : f.code = MessageKind.navigationAid.code
  len : f.len = 272 + 6 * (name.length - 20)
  first : f.bits.Holds 43 (SixBit.write (name.take 20))
  rest : f.bits.Holds 272 (SixBit.write (name.drop 20))

theorem IsLongName.length_take (h : IsLongName name) : (name.take 20).length = 20 :=
  List.length_take_of_le (Nat.le_trans (by decide) h.long.1)

/-- The extension is missing only where it is empty. -/
theorem fullName_read (f : Frame) :
    (read f).fullName = f.bits.text 43 163 ++ f.bits.textToEnd 272 := by
  simp only [fullName, read]
  split
  next hempty =>
    rw [String.isEmpty_iff.mp hempty]
    rfl
  next => rfl

namespace CarriesName

theorem allows (h : CarriesName f name) : MessageKind.navigationAid.bounds.allows f.len := by
  have hlong := h.long
  rw [LengthBounds.allows_iff, h.len]
  constructor
  · exact Nat.le_add_right _ _
  · show 272 + 6 * (name.length - 20) ≤ 360
    omega

theorem isBlank_iff (h : CarriesName f name) {c : Char} (hc : c ∈ name) :
    Text.isBlank c ↔ c = ' ' :=
  SixBit.isBlank_iff (h.letters c hc)

theorem head?_take (h : CarriesName f name) : ∀ c ∈ (name.take 20).head?, ¬ Text.isBlank c := by
  intro c hc
  rw [List.head?_take, if_neg (by decide)] at hc
  rw [h.isBlank_iff (List.mem_of_head? hc)]
  rintro rfl
  exact h.head hc

theorem getLast?_drop (h : CarriesName f name) : ∀ c ∈ (name.drop 20).getLast?, ¬ Text.isBlank c := by
  intro c hc
  rw [List.getLast?_drop, if_neg (by have := h.long.1; omega)] at hc
  rw [h.isBlank_iff (List.mem_of_getLast? hc)]
  rintro rfl
  exact h.last hc

theorem name_read (h : CarriesName f name) :
    f.bits.text 43 163 = String.ofList (Text.trimEnd Text.isBlank (name.take 20)) := by
  have hletters : ∀ c ∈ name.take 20, SixBit.IsLetter c :=
    fun c hc => h.letters c (List.mem_of_mem_take hc)
  have htext := BitView.text_of_holds hletters h.first
  rwa [h.length_take, Text.trim_eq_trimEnd h.head?_take] at htext

theorem extension_read (h : CarriesName f name) :
    f.bits.textToEnd 272 = String.ofList (Text.trimStart Text.isBlank (name.drop 20)) := by
  have hletters : ∀ c ∈ name.drop 20, SixBit.IsLetter c :=
    fun c hc => h.letters c (List.mem_of_mem_drop hc)
  have htext := BitView.text_of_holds hletters h.rest
  rw [List.length_drop, Text.trim_eq_trimStart h.getLast?_drop] at htext
  have hlen : f.bits.len = 272 + 6 * (name.length - 20) := h.len
  rw [BitView.textToEnd, hlen, Nat.max_eq_left (Nat.le_add_right _ _), htext]

theorem joined_read (h : CarriesName f name) :
    (read f).fullName = String.ofList (Text.trimEnd Text.isBlank (name.take 20)
      ++ Text.trimStart Text.isBlank (name.drop 20)) := by
  rw [fullName_read, h.name_read, h.extension_read, String.ofList_append]

/-- The parts join to the name if there is no space on either side of the cut. -/
theorem join_eq_iff (h : CarriesName f name) :
    Text.trimEnd Text.isBlank (name.take 20) ++ Text.trimStart Text.isBlank (name.drop 20) = name ↔
      name[19]? ≠ some ' ' ∧ name[20]? ≠ some ' ' := by
  have hlong := h.long.1
  have hletter : ∀ i < name.length, (∀ c ∈ name[i]?, ¬ Text.isBlank c) ↔ name[i]? ≠ some ' ' := by
    intro i hi
    have hblank := h.isBlank_iff (List.getElem_mem hi)
    rw [List.getElem?_eq_getElem hi]
    simp only [Option.mem_def, Option.some.injEq, forall_eq', ne_eq, hblank]
  -- the letters on either side of the cut
  have hlast : (name.take 20).getLast? = name[19]? := by
    rw [List.getLast?_take, if_neg (by decide), List.getElem?_eq_getElem (by omega), Option.some_or]
  have hfirst : (name.drop 20).head? = name[20]? := List.head?_drop
  calc Text.trimEnd Text.isBlank (name.take 20) ++ Text.trimStart Text.isBlank (name.drop 20) = name
      ↔ Text.trimEnd Text.isBlank (name.take 20) ++ Text.trimStart Text.isBlank (name.drop 20)
          = name.take 20 ++ name.drop 20 := by rw [List.take_append_drop]
    _ ↔ Text.trimEnd Text.isBlank (name.take 20) = name.take 20 ∧
          Text.trimStart Text.isBlank (name.drop 20) = name.drop 20 :=
      Text.trimEnd_append_trimStart_eq_iff
    _ ↔ name[19]? ≠ some ' ' ∧ name[20]? ≠ some ' ' := by
      rw [Text.trimEnd_eq_self_iff, Text.trimStart_eq_self_iff, hlast, hfirst,
        hletter 19 (by omega), hletter 20 (by omega)]

end CarriesName

/-- A long name at its two places, and zeros for everything else. -/
def writtenBits (name : List Char) : List Bool :=
  BitField.bits [⟨6, 21⟩, ⟨37, 0⟩] ++ (SixBit.write (name.take 20)
    ++ (BitField.bits [⟨109, 0⟩] ++ SixBit.write (name.drop 20)))

/-- A message that tells nothing but a name. -/
def named (name : List Char) : Frame := Frame.ofBits (BitView.ofList (writtenBits name))

theorem carriesName_named (h : IsLongName name) : CarriesName (named name) name := by
  have hwritten : (named name).bits.Holds 0 (writtenBits name) := BitView.holds_ofList _
  obtain ⟨hheader, hnames⟩ := BitView.holds_append.mp hwritten
  obtain ⟨hfirst, hothers⟩ := BitView.holds_append.mp hnames
  obtain ⟨-, hrest⟩ := BitView.holds_append.mp hothers
  rw [SixBit.length_write, h.length_take] at hrest
  refine { h with code := ?_, len := ?_, first := hfirst, rest := hrest }
  · have hcode := BitView.unsigned_of_holds (by decide : 21 < 2 ^ 6)
      (BitView.holds_append.mp hheader).1
    exact UInt8.toNat_inj.mp ((Message.toNat_code _).trans hcode)
  · show (writtenBits name).length = _
    simp only [writtenBits, List.length_append, BitField.length_bits, SixBit.length_write, h.length_take,
      List.length_drop, List.map_cons, List.map_nil, List.sum_cons, List.sum_nil]
    omega

end NavigationAid

namespace Message

open NavigationAid

variable {f : Frame} {name : List Char}

/-- A long name is read without the spaces where it is cut, and so as it was sent exactly if there
are none: if neither its twentieth nor its next letter is a space. -/
theorem fullName_of_carriesName (h : CarriesName f name) :
    ∃ r, decode f = .ok (navigationAid r) ∧
      r.fullName = String.ofList (Text.trimEnd Text.isBlank (name.take 20)
        ++ Text.trimStart Text.isBlank (name.drop 20)) ∧
      (r.fullName = String.ofList name ↔ name[19]? ≠ some ' ' ∧ name[20]? ≠ some ' ') := by
  refine ⟨_, decode_of_ensure (Frame.ensure_of_allows h.code h.allows) (by decide), h.joined_read, ?_⟩
  rw [h.joined_read, String.ofList_inj, h.join_eq_iff]

/-- A name that is cut inside its last word is read as it was sent. -/
theorem name_cut_inside_word :
    let name := "SF OAK BAY BR VAIS EST".toList
    CarriesName (named name) name ∧
      ∃ r, decode (named name) = .ok (navigationAid r) ∧ r.fullName = String.ofList name := by
  intro name
  have hcarries : CarriesName (named name) name :=
    carriesName_named ⟨by decide, SixBit.isLetter_of_all (by decide), by decide, by decide⟩
  obtain ⟨r, hdecode, -, hname⟩ := fullName_of_carriesName hcarries
  exact ⟨hcarries, r, hdecode, hname.mpr ⟨by decide, by decide⟩⟩

/-- Where a name is cut in front of a space, two of its words become one. -/
theorem space_at_cut_lost :
    let name := "SF OAK BAY BR VAIS E ST".toList
    CarriesName (named name) name ∧
      ∃ r, decode (named name) = .ok (navigationAid r) ∧ r.fullName = "SF OAK BAY BR VAIS EST" ∧
        r.fullName ≠ String.ofList name := by
  intro name
  have hcarries : CarriesName (named name) name :=
    carriesName_named ⟨by decide, SixBit.isLetter_of_all (by decide), by decide, by decide⟩
  have hensure : (named name).ensure .navigationAid = .ok () :=
    Frame.ensure_of_allows hcarries.code hcarries.allows
  have hname : (NavigationAid.read (named name)).fullName = "SF OAK BAY BR VAIS EST" :=
    hcarries.joined_read.trans (by decide +kernel)
  refine ⟨hcarries, _, decode_of_ensure hensure (by decide), hname, ?_⟩
  rw [hname]
  decide +kernel

end Message

end VesselTraffic
