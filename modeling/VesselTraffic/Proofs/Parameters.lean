import Mathlib.Data.List.Induction
import VesselTraffic.Proofs.Decimals
import VesselTraffic.Proofs.Mismatches
import VesselTraffic.Proofs.Rendering

/-!
# The grammar of tag blocks

What the permissive mode reads as a tag block is a text of parameters, an asterisk and two
digits, in which every parameter has a value that its key allows. Each field tells what the
last parameter with its key holds, and parameters with other keys are kept in their order. So
the values of a block, listed in any order of the keys, are read back.
-/
namespace VesselTraffic

/-- A key and its value. -/
structure Parameter where
  key : List Char
  value : List Char
  deriving DecidableEq, Repr

namespace Parameter

def text (p : Parameter) : List Char := p.key ++ ':' :: p.value

/-- The first colon ends the key. -/
def read? (piece : List Char) : Option Parameter :=
  (Text.cutFirst? ':' piece).map fun (key, value) => ⟨key, value⟩

/-- The value is one that the key allows. -/
structure IsReadable (p : Parameter) : Prop where
  time : p.key = ['c'] ∨ p.key = ['r'] → Text.IsSigned64 p.value
  count : p.key = ['n'] → Text.IsUnsigned32 p.value
  group : p.key = ['g'] → ∃ first second third, p.value = first ++ '-' :: (second ++ '-' :: third) ∧
    ∀ part ∈ [first, second, third], Text.IsUnsigned32 part

/-- The keys of the fields. -/
def fieldKeys : List Char := ['c', 's', 'd', 'n', 'r', 'g', 't']

/-- Whether the key is none of a field. -/
def isExtra (p : Parameter) : Bool := fieldKeys.all (p.key ≠ [·])

theorem read?_eq_some_iff {piece : List Char} {p : Parameter} :
    read? piece = some p ↔ piece = p.text ∧ ':' ∉ p.key := by
  rw [read?, Option.map_eq_some_iff]
  constructor
  · rintro ⟨⟨key, value⟩, hcut, rfl⟩
    exact Text.cutFirst?_eq_some_iff.mp hcut
  · rintro h
    exact ⟨(p.key, p.value), Text.cutFirst?_eq_some_iff.mpr h, rfl⟩

/-- A key that is not that of a number allows every value. -/
theorem isReadable_of_key {p : Parameter} (h : ∀ key ∈ ['c', 'n', 'r', 'g'], p.key ≠ [key]) :
    p.IsReadable where
  time hkey := (hkey.elim (h 'c' (by simp)) (h 'r' (by simp))).elim
  count hkey := (h 'n' (by simp) hkey).elim
  group hkey := (h 'g' (by simp) hkey).elim

theorem isExtra_eq_true_iff {p : Parameter} : p.isExtra = true ↔ ∀ key ∈ fieldKeys, p.key ≠ [key] := by
  simp [isExtra]

theorem isExtra_eq_false {p : Parameter} {key : Char} (hkey : p.key = [key])
    (hmem : key ∈ fieldKeys) : p.isExtra = false :=
  Bool.eq_false_iff.mpr fun h => isExtra_eq_true_iff.mp h key hmem hkey

end Parameter

def TagGroup.text (g : TagGroup) : List Char :=
  (toString g.sentence.toNat).toList ++
    '-' :: ((toString g.total.toNat).toList ++ '-' :: (toString g.id.toNat).toList)

namespace TagBlock

/-- The value of the last parameter with a key. -/
def lastValue? (key : Char) (ps : List Parameter) : Option (List Char) :=
  ((ps.filter (·.key = [key])).getLast?).map Parameter.value

/-- The block that parameters tell. -/
def told (checksumOk : Bool) (ps : List Parameter) : TagBlock where
  timestamp := ((lastValue? 'c' ps).bind Text.signed64?).map fun t =>
    if mostSeconds < t then t / 1000 else t
  source := (lastValue? 's' ps).map String.ofList
  destination := (lastValue? 'd' ps).map String.ofList
  lineCount := (lastValue? 'n' ps).bind Text.unsigned32?
  relativeTime := (lastValue? 'r' ps).bind Text.signed64?
  group := (lastValue? 'g' ps).bind group?
  text := (lastValue? 't' ps).map String.ofList
  extras := (ps.filter Parameter.isExtra).map fun p => (String.ofList p.key, String.ofList p.value)
  checksumOk := checksumOk

theorem lastValue?_concat (key : Char) (ps : List Parameter) (p : Parameter) :
    lastValue? key (ps ++ [p]) = if p.key = [key] then some p.value else lastValue? key ps := by
  rw [lastValue?, List.filter_append]
  split_ifs with h <;> simp [h, lastValue?]

theorem group?_eq_some_iff {value : List Char} {g : TagGroup} :
    group? value = some g ↔ ∃ first second third, value = first ++ '-' :: (second ++ '-' :: third) ∧
      Text.unsigned32? first = some g.sentence ∧ Text.unsigned32? second = some g.total ∧
      Text.unsigned32? third = some g.id := by
  simp only [group?, bind, Option.bind_eq_some_iff, pure, Option.some.injEq, Prod.exists]
  constructor
  · rintro ⟨first, rest, hfirst, second, third, hsecond, a, ha, b, hb, c, hc, rfl⟩
    obtain ⟨rfl, -⟩ := Text.cutFirst?_eq_some_iff.mp hfirst
    obtain ⟨rfl, -⟩ := Text.cutFirst?_eq_some_iff.mp hsecond
    exact ⟨first, second, third, rfl, ha, hb, hc⟩
  · rintro ⟨first, second, third, rfl, ha, hb, hc⟩
    -- What is read as a natural number has no dash, so the dashes are those between the numbers.
    have hfirst := Text.cutFirst?_append (Text.unsigned32?_eq_some_iff.mp ha).2 (second ++ '-' :: third)
    have hsecond := Text.cutFirst?_append (Text.unsigned32?_eq_some_iff.mp hb).2 third
    exact ⟨first, _, hfirst, second, third, hsecond, _, ha, _, hb, _, hc, rfl⟩

theorem exists_group {p : Parameter} (h : p.IsReadable) (hkey : p.key = ['g']) :
    ∃ g, group? p.value = some g := by
  obtain ⟨first, second, third, hvalue, hparts⟩ := h.group hkey
  obtain ⟨a, ha⟩ := Text.isUnsigned32_iff.mp (hparts first (by simp))
  obtain ⟨b, hb⟩ := Text.isUnsigned32_iff.mp (hparts second (by simp))
  obtain ⟨c, hc⟩ := Text.isUnsigned32_iff.mp (hparts third (by simp))
  exact ⟨⟨a, b, c⟩, group?_eq_some_iff.mpr ⟨first, second, third, hvalue, ha, hb, hc⟩⟩

theorem extras_concat (ps : List Parameter) (p : Parameter) : (ps ++ [p]).filter Parameter.isExtra =
    if p.isExtra = true then ps.filter Parameter.isExtra ++ [p] else ps.filter Parameter.isExtra := by
  rw [List.filter_append]
  split_ifs with h <;> simp [h]

/-- One more parameter is recorded if its key allows its value. -/
theorem assign_told {p : Parameter} (h : p.IsReadable) (ok : Bool) (ps : List Parameter) :
    (told ok ps).assign p.key p.value = .ok (told ok (ps ++ [p])) := by
  simp only [told, lastValue?_concat, extras_concat]
  unfold assign
  split
  case h_1 hkey =>
    obtain ⟨t, ht⟩ := Text.isSigned64_iff.mp (h.time (Or.inl hkey))
    simp [hkey, Parameter.isExtra_eq_false hkey (by decide), timestamp?, ht]
  case h_2 hkey => simp [hkey, Parameter.isExtra_eq_false hkey (by decide)]
  case h_3 hkey => simp [hkey, Parameter.isExtra_eq_false hkey (by decide)]
  case h_4 hkey =>
    obtain ⟨n, hn⟩ := Text.isUnsigned32_iff.mp (h.count hkey)
    simp [hkey, Parameter.isExtra_eq_false hkey (by decide), hn]
  case h_5 hkey =>
    obtain ⟨t, ht⟩ := Text.isSigned64_iff.mp (h.time (Or.inr hkey))
    simp [hkey, Parameter.isExtra_eq_false hkey (by decide), ht]
  case h_6 hkey =>
    obtain ⟨g, hg⟩ := exists_group h hkey
    simp [hkey, Parameter.isExtra_eq_false hkey (by decide), hg]
  case h_7 hkey => simp [hkey, Parameter.isExtra_eq_false hkey (by decide)]
  -- A key of no field leaves every field as it is.
  case h_8 hc hs hd hn hr hg ht =>
    have hextra : p.isExtra := by
      simp only [Parameter.isExtra_eq_true_iff, Parameter.fieldKeys, List.forall_mem_cons]
      exact ⟨hc, hs, hd, hn, hr, hg, ht, by simp⟩
    rw [if_neg hc, if_neg hs, if_neg hd, if_neg hn, if_neg hr, if_neg hg, if_neg ht, if_pos hextra,
      List.map_append]
    rfl

/-- Nothing else is recorded. -/
theorem isReadable_of_assign {p : Parameter} {block next : TagBlock}
    (h : block.assign p.key p.value = .ok next) : p.IsReadable := by
  unfold assign at h
  split at h
  case h_1 hkey =>
    split at h
    case h_1 t ht =>
      obtain ⟨t, ht, -⟩ := Option.map_eq_some_iff.mp ht
      exact { time := fun _ => Text.isSigned64_iff.mpr ⟨t, ht⟩, count := by simp [hkey],
              group := by simp [hkey] }
    case h_2 => cases h
  case h_4 hkey =>
    split at h
    case h_1 n hn =>
      exact { time := by simp [hkey], count := fun _ => Text.isUnsigned32_iff.mpr ⟨n, hn⟩,
              group := by simp [hkey] }
    case h_2 => cases h
  case h_5 hkey =>
    split at h
    case h_1 t ht =>
      exact { time := fun _ => Text.isSigned64_iff.mpr ⟨t, ht⟩, count := by simp [hkey],
              group := by simp [hkey] }
    case h_2 => cases h
  case h_6 hkey =>
    split at h
    case h_1 g hg =>
      obtain ⟨first, second, third, hvalue, ha, hb, hc⟩ := group?_eq_some_iff.mp hg
      refine { time := by simp [hkey], count := by simp [hkey],
               group := fun _ => ⟨first, second, third, hvalue, ?_⟩ }
      simp [Text.isUnsigned32_iff, ha, hb, hc]
    case h_2 => cases h
  case h_8 hc _ _ hn hr hg _ =>
    refine Parameter.isReadable_of_key ?_
    simp only [List.forall_mem_cons]
    exact ⟨hc, hn, hr, hg, by simp⟩
  -- Source, destination and text are kept as they stand.
  all_goals
    rename_i hkey
    exact Parameter.isReadable_of_key (by simp [hkey])

/-! ## What is read -/

/-- A piece between commas is read just if it is a parameter with a value that its key allows. -/
theorem assignPiece_told_eq_ok_iff {ok : Bool} {ps : List Parameter} {piece : List Char}
    {block : TagBlock} :
    (told ok ps).assignPiece piece = .ok block ↔ ∃ p, Parameter.read? piece = some p ∧
      p.IsReadable ∧ block = told ok (ps ++ [p]) := by
  unfold assignPiece Parameter.read?
  cases Text.cutFirst? ':' piece with
  | none => simp
  | some cut =>
    obtain ⟨key, value⟩ := cut
    simp only [Option.map_some, Option.some.injEq, exists_eq_left']
    constructor
    · intro h
      have hp : Parameter.IsReadable ⟨key, value⟩ := isReadable_of_assign h
      rw [assign_told hp ok ps] at h
      exact ⟨hp, (Except.ok.inj h).symm⟩
    · rintro ⟨hp, rfl⟩
      exact assign_told hp ok ps

/-- What pieces tell is read piece by piece, so the last piece may replace what the others told. -/
theorem foldlM_assignPiece_eq_ok_iff {ok : Bool} {pieces : List (List Char)} {block : TagBlock} :
    pieces.foldlM assignPiece { checksumOk := ok } = .ok block ↔
      (∀ piece ∈ pieces, ∃ p, Parameter.read? piece = some p ∧ p.IsReadable) ∧
        block = told ok (pieces.filterMap Parameter.read?) := by
  induction pieces using List.reverseRecOn generalizing block with
  | nil => simp [told, lastValue?, pure, Except.pure, eq_comm]
  | append_singleton pieces piece ih =>
    have hmem : (∀ q ∈ pieces ++ [piece], ∃ p, Parameter.read? q = some p ∧ p.IsReadable) ↔
        (∀ q ∈ pieces, ∃ p, Parameter.read? q = some p ∧ p.IsReadable) ∧
          ∃ p, Parameter.read? piece = some p ∧ p.IsReadable := by
      rw [List.forall_mem_append, List.forall_mem_singleton]
    rw [List.foldlM_append, List.filterMap_append, hmem]
    constructor
    · intro h
      cases hbefore : pieces.foldlM assignPiece { checksumOk := ok } with
      | error flaw => rw [hbefore] at h; cases h
      | ok before =>
        obtain ⟨hpieces, rfl⟩ := ih.mp hbefore
        rw [hbefore] at h
        obtain ⟨p, hread, hp, rfl⟩ := assignPiece_told_eq_ok_iff.mp ((bind_pure _).symm.trans h)
        refine ⟨⟨hpieces, p, hread, hp⟩, ?_⟩
        simp [hread]
    · rintro ⟨⟨hpieces, p, hread, hp⟩, rfl⟩
      rw [ih.mpr ⟨hpieces, rfl⟩]
      refine (bind_pure _).trans (assignPiece_told_eq_ok_iff.mpr ⟨p, hread, hp, ?_⟩)
      simp [hread]

/-- The parameters of a text, cut at the commas. -/
def parameters (covered : List Char) : List Parameter :=
  (Text.pieces ',' covered).filterMap Parameter.read?

theorem ofPieces_eq_ok_iff {covered : List Char} {ok : Bool} {block : TagBlock} :
    ofPieces covered ok = .ok block ↔
      (∀ piece ∈ Text.pieces ',' covered, piece ≠ [] →
        ∃ p : Parameter, piece = p.text ∧ ':' ∉ p.key ∧ p.IsReadable) ∧
      block = told ok (parameters covered) := by
  have hparameters : ((Text.pieces ',' covered).filter (!·.isEmpty)).filterMap Parameter.read? =
      parameters covered := by
    rw [List.filterMap_filter, parameters]
    refine List.filterMap_congr fun piece _ => ?_
    cases piece <;> rfl
  rw [ofPieces, foldlM_assignPiece_eq_ok_iff, hparameters]
  simp only [List.mem_filter, Bool.not_eq_true', List.isEmpty_eq_false_iff, and_imp,
    Parameter.read?_eq_some_iff, and_assoc]

theorem parse_permissive_eq_ok_iff {text : List Char} {block : TagBlock} :
    (parse .permissive text).result = .ok block ↔ ∃ covered high low,
      text = covered ++ ['*', high, low] ∧ Text.isHexDigit high ∧ Text.isHexDigit low ∧
      ofPieces covered (UInt8.ofNat (16 * Text.hexDigitValue high + Text.hexDigitValue low) ==
        Checksum.ofText covered) = .ok block := by
  rw [result_parse]
  constructor
  · intro h
    split at h
    case h_1 => cases h
    case h_2 covered digits hcut =>
      split at h
      case h_1 => cases h
      case h_2 declared hpair =>
        obtain ⟨high, low, rfl, hhigh, hlow, rfl⟩ := Text.hexPair?_eq_some_iff.mp hpair
        rw [Checksum.result_verify_permissive] at h
        exact ⟨covered, high, low, (Text.cutLast?_eq_some_iff.mp hcut).1, hhigh, hlow,
          Refusal.mapError_eq_ok_iff.mp h⟩
  · rintro ⟨covered, high, low, rfl, hhigh, hlow, hpieces⟩
    have hdigits : '*' ∉ [high, low] := by
      simp [(WrittenSentence.hexDigit_ne_asterisk hhigh).symm,
        (WrittenSentence.hexDigit_ne_asterisk hlow).symm]
    have hpair := Text.hexPair?_eq_some_iff.mpr ⟨high, low, rfl, hhigh, hlow, rfl⟩
    simp only [Text.cutLast?_append covered hdigits, hpair, Checksum.result_verify_permissive]
    exact Refusal.mapError_eq_ok_iff.mpr hpieces

/-! ## What is written -/

/-- Parameters between commas, an asterisk and the right digits. -/
def write (ps : List Parameter) : List Char :=
  let covered := List.intercalate [','] (ps.map Parameter.text)
  covered ++ '*' :: (Text.hexPair (Checksum.ofText covered)).toList

/-- The value of the field with a key, as it is written. -/
def value? (block : TagBlock) : Char → Option (List Char)
  | 'c' => block.timestamp.map fun t => (toString t).toList
  | 's' => block.source.map String.toList
  | 'd' => block.destination.map String.toList
  | 'n' => block.lineCount.map fun n => (toString n.toNat).toList
  | 'r' => block.relativeTime.map fun t => (toString t).toList
  | 'g' => block.group.map TagGroup.text
  | 't' => block.text.map String.toList
  | _ => none

/-- The parameter for a field that has a value. -/
def field (block : TagBlock) (key : Char) : Option Parameter := (block.value? key).map (⟨[key], ·⟩)

def extraParameters (block : TagBlock) : List Parameter :=
  block.extras.map fun extra => ⟨extra.1.toList, extra.2.toList⟩

/-- Parameters list a block if they are its fields in any order, with its extras in theirs. -/
structure Lists (ps : List Parameter) (block : TagBlock) : Prop where
  perm : ps.Perm (Parameter.fieldKeys.filterMap block.field ++ block.extraParameters)
  extras : ps.filter Parameter.isExtra = block.extraParameters

/-- The blocks whose values survive writing. Times are numbers of 64 bits. -/
structure IsWritable (block : TagBlock) : Prop where
  timestamp_le : ∀ t ∈ block.timestamp, -9223372036854775808 ≤ t ∧ t ≤ mostSeconds
  relativeTime_le : ∀ t ∈ block.relativeTime, -9223372036854775808 ≤ t ∧ t ≤ 9223372036854775807
  source_comma : ∀ s ∈ block.source, ',' ∉ s.toList
  destination_comma : ∀ s ∈ block.destination, ',' ∉ s.toList
  text_comma : ∀ s ∈ block.text, ',' ∉ s.toList
  extras_comma : ∀ p ∈ block.extras, ',' ∉ p.1.toList ∧ ',' ∉ p.2.toList
  extras_key : ∀ p ∈ block.extras, ':' ∉ p.1.toList ∧ ∀ key ∈ Parameter.fieldKeys, p.1.toList ≠ [key]
  checksumOk_eq : block.checksumOk = true

/-- Parameters that are written are read. -/
theorem parse_write {ps : List Parameter} (hcomma : ∀ p ∈ ps, ',' ∉ p.text)
    (hcolon : ∀ p ∈ ps, ':' ∉ p.key) (hreadable : ∀ p ∈ ps, p.IsReadable) :
    (parse .permissive (write ps)).result = .ok (told true ps) := by
  have hread : ∀ p ∈ ps, Parameter.read? p.text = some p := fun p hp =>
    Parameter.read?_eq_some_iff.mpr ⟨rfl, hcolon p hp⟩
  have htexts : (ps.map Parameter.text).filter (!·.isEmpty) = ps.map Parameter.text := by
    simp [List.filter_eq_self, Parameter.text]
  have hparameters : (ps.map Parameter.text).filterMap Parameter.read? = ps := by
    rw [List.filterMap_map]
    exact (List.filterMap_congr hread).trans List.filterMap_some
  obtain ⟨high, low, hdigits, hhigh, hlow, hsum⟩ := Text.hexPair?_eq_some_iff.mp
    (Text.hexPair?_hexPair (Checksum.ofText (List.intercalate [','] (ps.map Parameter.text))))
  refine parse_permissive_eq_ok_iff.mpr ⟨_, high, low, by rw [write, hdigits], hhigh, hlow, ?_⟩
  rw [hsum, beq_self_eq_true, ofPieces, Text.filter_pieces_intercalate (by simpa using hcomma), htexts,
    foldlM_assignPiece_eq_ok_iff, hparameters]
  refine ⟨fun piece hpiece => ?_, rfl⟩
  obtain ⟨p, hp, rfl⟩ := List.mem_map.mp hpiece
  exact ⟨p, hread p hp, hreadable p hp⟩

/-- The values of fields can stand between commas. -/
theorem IsWritable.value?_spec {block : TagBlock} (h : block.IsWritable) {key : Char}
    {value : List Char} (hvalue : block.value? key = some value) :
    ',' ∉ value ∧ (⟨[key], value⟩ : Parameter).IsReadable := by
  have hcomma (n : Nat) : ',' ∉ (toString n).toList :=
    (Text.isDecimal_toString n).not_mem (by decide)
  have hcount (n : UInt32) : Text.IsUnsigned32 (toString n.toNat).toList :=
    Text.isUnsigned32_iff.mpr ⟨n, Text.unsigned32?_toString n⟩
  unfold value? at hvalue
  split at hvalue
  case h_1 =>
    obtain ⟨t, ht, rfl⟩ := Option.map_eq_some_iff.mp hvalue
    obtain ⟨hleast, hmost⟩ := h.timestamp_le t ht
    refine ⟨Text.not_mem_toString_int (by decide) (by decide) t, ?_⟩
    exact { time := fun _ => ⟨t, Text.spells_toString t, hleast, Int.le_trans hmost (by decide)⟩,
            count := by simp, group := by simp }
  case h_2 =>
    obtain ⟨s, hs, rfl⟩ := Option.map_eq_some_iff.mp hvalue
    exact ⟨h.source_comma s hs, Parameter.isReadable_of_key (by simp)⟩
  case h_3 =>
    obtain ⟨s, hs, rfl⟩ := Option.map_eq_some_iff.mp hvalue
    exact ⟨h.destination_comma s hs, Parameter.isReadable_of_key (by simp)⟩
  case h_4 =>
    obtain ⟨n, -, rfl⟩ := Option.map_eq_some_iff.mp hvalue
    exact ⟨hcomma _, { time := by simp, count := fun _ => hcount n, group := by simp }⟩
  case h_5 =>
    obtain ⟨t, ht, rfl⟩ := Option.map_eq_some_iff.mp hvalue
    refine ⟨Text.not_mem_toString_int (by decide) (by decide) t, ?_⟩
    exact { time := fun _ => ⟨t, Text.spells_toString t, h.relativeTime_le t ht⟩,
            count := by simp, group := by simp }
  case h_6 =>
    obtain ⟨g, -, rfl⟩ := Option.map_eq_some_iff.mp hvalue
    refine ⟨?_, { time := by simp, count := by simp, group := fun _ => ⟨_, _, _, rfl, ?_⟩ }⟩
    · simp only [TagGroup.text, List.mem_append, List.mem_cons, hcomma, or_false, false_or]
      decide
    · simp only [List.forall_mem_cons]
      exact ⟨hcount _, hcount _, hcount _, by simp⟩
  case h_7 =>
    obtain ⟨s, hs, rfl⟩ := Option.map_eq_some_iff.mp hvalue
    exact ⟨h.text_comma s hs, Parameter.isReadable_of_key (by simp)⟩
  case h_8 => cases hvalue

variable {block : TagBlock} {ps : List Parameter}

/-- Each listed parameter is that of a field or an extra one. -/
theorem Lists.mem_cases (hps : Lists ps block) {p : Parameter} (hp : p ∈ ps) :
    (∃ key ∈ Parameter.fieldKeys, ∃ value, block.value? key = some value ∧ p = ⟨[key], value⟩) ∨
      ∃ extra ∈ block.extras, p = ⟨extra.1.toList, extra.2.toList⟩ := by
  rcases List.mem_append.mp (hps.perm.mem_iff.mp hp) with hfield | hextra
  · obtain ⟨key, hkey, hfield⟩ := List.mem_filterMap.mp hfield
    obtain ⟨value, hvalue, rfl⟩ := Option.map_eq_some_iff.mp hfield
    exact Or.inl ⟨key, hkey, value, hvalue, rfl⟩
  · obtain ⟨extra, hmem, rfl⟩ := List.mem_map.mp hextra
    exact Or.inr ⟨extra, hmem, rfl⟩

theorem Lists.parameter_spec (hps : Lists ps block) (h : block.IsWritable) {p : Parameter}
    (hp : p ∈ ps) : ',' ∉ p.text ∧ ':' ∉ p.key ∧ p.IsReadable := by
  simp only [Parameter.text, List.mem_append, List.mem_cons, not_or]
  rcases hps.mem_cases hp with ⟨key, hkey, value, hvalue, rfl⟩ | ⟨extra, hextra, rfl⟩
  · obtain ⟨hcomma, hreadable⟩ := h.value?_spec hvalue
    have hkeys : ∀ key ∈ Parameter.fieldKeys, ',' ∉ [key] ∧ ':' ∉ [key] := by
      simp [Parameter.fieldKeys]
    exact ⟨⟨(hkeys key hkey).1, by decide, hcomma⟩, (hkeys key hkey).2, hreadable⟩
  · obtain ⟨hcolon, hkey⟩ := h.extras_key extra hextra
    obtain ⟨hcommaKey, hcommaValue⟩ := h.extras_comma extra hextra
    refine ⟨⟨hcommaKey, by decide, hcommaValue⟩, hcolon, Parameter.isReadable_of_key ?_⟩
    have hsub : ∀ key ∈ ['c', 'n', 'r', 'g'], key ∈ Parameter.fieldKeys := by
      simp [Parameter.fieldKeys]
    exact fun key hmem => hkey key (hsub key hmem)

/-- The parameters of a field are those that its value gives. -/
theorem Lists.filter_eq (hps : Lists ps block) (h : block.IsWritable) {key : Char}
    (hkey : key ∈ Parameter.fieldKeys) : ps.filter (·.key = [key]) = (block.field key).toList := by
  have honce : ∀ key ∈ Parameter.fieldKeys, Parameter.fieldKeys.filter (· = key) = [key] := by
    simp [Parameter.fieldKeys]
  have hfields : (Parameter.fieldKeys.filterMap block.field).filter (·.key = [key]) =
      (block.field key).toList := by
    calc (Parameter.fieldKeys.filterMap block.field).filter (·.key = [key])
        = (Parameter.fieldKeys.filter (· = key)).filterMap block.field := by
          rw [List.filter_filterMap, List.filterMap_filter]
          refine List.filterMap_congr fun key' _ => ?_
          rw [field]
          by_cases hkeys : key' = key <;> cases block.value? key' <;> simp [hkeys]
      _ = [key].filterMap block.field := by rw [honce key hkey]
      _ = (block.field key).toList := by cases hfield : block.field key <;> simp [hfield]
  have hextras : block.extraParameters.filter (·.key = [key]) = [] := by
    refine List.filter_eq_nil_iff.mpr fun p hp => ?_
    obtain ⟨extra, hextra, rfl⟩ := List.mem_map.mp hp
    simpa using (h.extras_key extra hextra).2 key hkey
  have hperm := hps.perm.filter (·.key = [key])
  rw [List.filter_append, hfields, hextras, List.append_nil] at hperm
  cases hfield : block.field key with
  | none =>
    rw [hfield] at hperm
    exact List.perm_nil.mp hperm
  | some p =>
    rw [hfield] at hperm
    exact List.perm_singleton.mp hperm

theorem Lists.lastValue?_eq (hps : Lists ps block) (h : block.IsWritable) {key : Char}
    (hkey : key ∈ Parameter.fieldKeys) : lastValue? key ps = block.value? key := by
  rw [lastValue?, hps.filter_eq h hkey, field]
  cases block.value? key <;> rfl

/-- An optional value is read back if each value is. -/
theorem bind_map_of_read {α : Type} {value : Option α} {write : α → List Char}
    {read : List Char → Option α} (h : ∀ a ∈ value, read (write a) = some a) :
    (value.map write).bind read = value := by
  cases value with
  | none => rfl
  | some a => exact h a rfl

/-- What parameters tell of a block that they list is the block. -/
theorem Lists.told_eq (hps : Lists ps block) (h : block.IsWritable) : told true ps = block := by
  have hseconds : block.timestamp.map (fun t => if mostSeconds < t then t / 1000 else t) =
      block.timestamp := by
    cases htimestamp : block.timestamp with
    | none => rfl
    | some t => exact congrArg some (if_neg (Int.not_lt.mpr (h.timestamp_le t htimestamp).2))
  have htimestamp : (block.value? 'c').bind Text.signed64? = block.timestamp :=
    bind_map_of_read fun t ht => Text.signed64?_toString (h.timestamp_le t ht).1
      (Int.le_trans (h.timestamp_le t ht).2 (by decide))
  have hrelative : (block.value? 'r').bind Text.signed64? = block.relativeTime :=
    bind_map_of_read fun t ht =>
      Text.signed64?_toString (h.relativeTime_le t ht).1 (h.relativeTime_le t ht).2
  have hcount : (block.value? 'n').bind Text.unsigned32? = block.lineCount :=
    bind_map_of_read fun n _ => Text.unsigned32?_toString n
  have hgroup : (block.value? 'g').bind group? = block.group :=
    bind_map_of_read fun g _ => group?_eq_some_iff.mpr ⟨_, _, _, rfl, Text.unsigned32?_toString _,
      Text.unsigned32?_toString _, Text.unsigned32?_toString _⟩
  have htext (value : Option String) : (value.map String.toList).map String.ofList = value := by
    cases value <;> simp
  have hextras : block.extraParameters.map (fun p => (String.ofList p.key, String.ofList p.value)) =
      block.extras := by
    simp [extraParameters, Function.comp_def]
  have hlast (key : Char) (hkey : key ∈ Parameter.fieldKeys) := hps.lastValue?_eq h hkey
  rw [told, hlast 'c' (by decide), hlast 's' (by decide), hlast 'd' (by decide), hlast 'n' (by decide),
    hlast 'r' (by decide), hlast 'g' (by decide), hlast 't' (by decide), htimestamp, hseconds, hcount,
    hrelative, hgroup, hps.extras, hextras, value?, value?, value?, htext, htext, htext,
    ← h.checksumOk_eq]

/-- A text is read permissively as a tag block just if it is made of parameters whose values
their keys allow, an asterisk and two digits, and then as the block that the parameters tell. So
the values of a block, listed in any order of the keys, are read back. -/
theorem reads_parameters :
    (∀ (text : List Char) (block : TagBlock), (parse .permissive text).result = .ok block ↔
      ∃ covered high low, text = covered ++ ['*', high, low] ∧
        Text.isHexDigit high ∧ Text.isHexDigit low ∧
        (∀ piece ∈ Text.pieces ',' covered, piece ≠ [] →
          ∃ p : Parameter, piece = p.text ∧ ':' ∉ p.key ∧ p.IsReadable) ∧
        block = told (UInt8.ofNat (16 * Text.hexDigitValue high + Text.hexDigitValue low) ==
          Checksum.ofText covered) (parameters covered)) ∧
    ∀ (block : TagBlock) (ps : List Parameter), block.IsWritable → Lists ps block →
      (parse .permissive (write ps)).result = .ok block := by
  refine ⟨fun text block => ?_, fun block ps h hps => ?_⟩
  · simp only [parse_permissive_eq_ok_iff, ofPieces_eq_ok_iff]
  · rw [parse_write (fun p hp => (hps.parameter_spec h hp).1)
      (fun p hp => (hps.parameter_spec h hp).2.1) (fun p hp => (hps.parameter_spec h hp).2.2),
      hps.told_eq h]

/-- A colon and an asterisk in a value, and the fields behind an extra parameter. -/
theorem asterisk_in_value_read : ∃ (block : TagBlock) (ps : List Parameter),
    block.source = some "a:b*00" ∧ block.IsWritable ∧ Lists ps block ∧
      write ps = "x:42,g:1-2-73874,s:a:b*00,c:1671533231*0E".toList ∧
      (parse .permissive (write ps)).result = .ok block := by
  let block : TagBlock := {
    timestamp := some 1671533231
    source := some "a:b*00"
    group := some ⟨1, 2, 73874⟩
    extras := [("x", "42")]
    checksumOk := true }
  let ps : List Parameter := [⟨['x'], ['4', '2']⟩, ⟨['g'], "1-2-73874".toList⟩,
    ⟨['s'], "a:b*00".toList⟩, ⟨['c'], "1671533231".toList⟩]
  have hwritable : block.IsWritable := {
    timestamp_le := by simp [block, mostSeconds]
    relativeTime_le := by simp [block]
    source_comma := by simp [block]
    destination_comma := by simp [block]
    text_comma := by simp [block]
    extras_comma := by simp [block]
    extras_key := by simp [block, Parameter.fieldKeys]
    checksumOk_eq := rfl }
  have hlists : Lists ps block := ⟨by decide +kernel, by decide +kernel⟩
  exact ⟨block, ps, rfl, hwritable, hlists, by decide +kernel,
    reads_parameters.2 block ps hwritable hlists⟩

-- The last parameter of a key wins, and empty pieces are left out.
example : told true (parameters "s:a,,x:1,s:b".toList) =
    { source := some "b", extras := [("x", "1")], checksumOk := true } := by
  decide +kernel

end TagBlock
end VesselTraffic
