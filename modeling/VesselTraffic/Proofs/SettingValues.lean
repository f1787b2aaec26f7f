import VesselTraffic.Proofs.Cuts
import VesselTraffic.Proofs.Decimals
import VesselTraffic.Settings

/-!
# Texts that are values

Which texts stand for a value of a setting is said here beside the readers: a mode has one or two
words in letters of either case, a text stands between quotes of one kind or is a bare one, and a
port is spelled in decimal without a minus sign. The readers accept just these texts.
-/
namespace VesselTraffic

/-! ## Modes -/

namespace ChecksumMode

/-- The words that stand for a mode. -/
def words : ChecksumMode → List String
  | strict => ["strict"]
  | permissive => ["permissive", "lenient"]

/-- A text is a word for the mode in letters of either case, with white space around it. -/
def IsNamedBy (mode : ChecksumMode) (text : List Char) : Prop :=
  ∃ front word behind, text = front ++ word ++ behind ∧ (∀ c ∈ front ++ behind, Text.isBlank c) ∧
    String.ofList (word.map Char.toLower) ∈ mode.words

theorem toLower_of_isBlank {c : Char} (h : Text.isBlank c) : c.toLower = c := by
  have hupper : ¬ (c.val ≥ 'A'.val ∧ c.val ≤ 'Z'.val) := by
    rintro ⟨hleast, hmost⟩
    rw [ge_iff_le, UInt32.le_iff_toNat_le] at hleast
    rw [UInt32.le_iff_toNat_le] at hmost
    change 65 ≤ c.toNat at hleast
    change c.toNat ≤ 90 at hmost
    simp [Text.isBlank] at h
    omega
  exact dif_neg hupper

/-- No word for a mode has white space in it, in whatever case it is written. -/
theorem isTrimmed_of_mem_words {mode : ChecksumMode} {word : List Char}
    (h : String.ofList (word.map Char.toLower) ∈ mode.words) : Text.IsTrimmed word := by
  have hwords : ∀ w ∈ mode.words, w.toList ≠ [] ∧ ∀ c ∈ w.toList, ¬ Text.isBlank c := by
    cases mode <;> simp [words, Text.isBlank]
  obtain ⟨hne, hletters⟩ := hwords _ h
  rw [String.toList_ofList] at hne hletters
  apply Text.IsTrimmed.of_forall
  · rintro rfl
    exact hne rfl
  · intro c hc hblank
    have hlower := List.mem_map_of_mem (f := Char.toLower) hc
    rw [toLower_of_isBlank hblank] at hlower
    exact hletters c hlower hblank

theorem ofText_eq_ok_iff_mem {mode : ChecksumMode} {text : List Char} :
    ofText text = .ok mode ↔ String.ofList ((Text.trim text).map Char.toLower) ∈ mode.words := by
  unfold ofText
  generalize String.ofList ((Text.trim text).map Char.toLower) = word
  cases mode with
  | strict =>
    dsimp only [words]
    split_ifs with hstrict hpermissive <;> simp [hstrict]
  | permissive =>
    dsimp only [words]
    split_ifs with hstrict hpermissive
    · simp [hstrict]
    · simpa using hpermissive
    · simpa using hpermissive

/-- A mode is read from its names and from nothing else. -/
theorem ofText_eq_ok_iff {mode : ChecksumMode} {text : List Char} :
    ofText text = .ok mode ↔ mode.IsNamedBy text := by
  rw [ofText_eq_ok_iff_mem]
  constructor
  · intro h
    obtain ⟨front, behind, htext, hblanks⟩ := Text.exists_trim_eq text
    exact ⟨front, Text.trim text, behind, htext, hblanks, h⟩
  · rintro ⟨front, word, behind, rfl, hblanks, hword⟩
    obtain ⟨hfront, hbehind⟩ := List.forall_mem_append.mp hblanks
    rw [Text.trim_append_blanks hbehind, Text.trim_blanks_append hfront,
      (isTrimmed_of_mem_words hword).trim_eq]
    exact hword

end ChecksumMode

namespace Settings

open Text

/-! ## Texts -/

/-- A text between two quotes of one kind. -/
def IsQuoted (text inner : List Char) : Prop :=
  ∃ quote ∈ ['"', '\''], text = quote :: (inner ++ [quote])

/-- The texts that say that there is no value. -/
def noValues : List (List Char) := ["".toList, "null".toList, "~".toList]

/-- Between quotes any text stands for what is between them. Without them a text stands for itself,
unless it says that there is no value. -/
inductive StandsFor (text : List Char) (value : String) : Prop
  | quoted (h : IsQuoted text value.toList)
  | bare (h : text = value.toList) (unquoted : ∀ inner, ¬ IsQuoted text inner)
      (isValue : text ∉ noValues)

theorem exists_between_iff {quote : Char} {text : List Char} :
    (∃ inner, text = quote :: (inner ++ [quote])) ↔
      2 ≤ text.length ∧ text.head? = some quote ∧ text.getLast? = some quote := by
  constructor
  · rintro ⟨inner, rfl⟩
    have hlast := List.getLast?_concat (l := quote :: inner) (a := quote)
    exact ⟨by simp, rfl, hlast⟩
  · rintro ⟨hlength, hhead, hlast⟩
    obtain ⟨rest, rfl⟩ := List.head?_eq_some_iff.mp hhead
    have hne : rest ≠ [] := by
      rintro rfl
      simp at hlength
    rw [List.getLast?_cons_of_ne_nil hne] at hlast
    obtain ⟨inner, rfl⟩ := List.getLast?_eq_some_iff.mp hlast
    exact ⟨inner, rfl⟩

theorem isQuoted_iff {text : List Char} : (∃ inner, IsQuoted text inner) ↔
    (2 ≤ text.length && text.head? = some '"' && text.getLast? = some '"') ||
      (2 ≤ text.length && text.head? = some '\'' && text.getLast? = some '\'') := by
  have hquotes : (∃ inner, IsQuoted text inner) ↔
      (∃ inner, text = '"' :: (inner ++ ['"'])) ∨ ∃ inner, text = '\'' :: (inner ++ ['\'']) := by
    simp [IsQuoted, exists_or]
  rw [hquotes, exists_between_iff, exists_between_iff]
  simp [and_assoc]

namespace IsQuoted

variable {text inner : List Char}

theorem drop_dropLast (h : IsQuoted text inner) : (text.drop 1).dropLast = inner := by
  obtain ⟨quote, -, rfl⟩ := h
  exact List.dropLast_concat

theorem isValue (h : IsQuoted text inner) : text ∉ noValues := by
  obtain ⟨quote, hquote, rfl⟩ := h
  intro hmem
  have hhead : ∀ cs ∈ noValues, ∀ c ∈ ['"', '\''], cs.head? ≠ some c := by
    simp [noValues]
  exact hhead _ hmem quote hquote rfl

end IsQuoted

theorem mem_noValues_iff {text : List Char} :
    text ∈ noValues ↔ text.isEmpty || text = "null".toList || text = ['~'] := by
  simp [noValues, or_assoc]

theorem textValue?_of_mem_noValues {text : List Char} (h : text ∈ noValues) :
    textValue? text = none := by
  simp only [textValue?]
  rw [if_pos (mem_noValues_iff.mp h)]

theorem textValue?_of_isQuoted {text inner : List Char} (h : IsQuoted text inner) :
    textValue? text = some (String.ofList inner) := by
  simp only [textValue?]
  rw [if_neg (mt mem_noValues_iff.mpr h.isValue), if_pos (isQuoted_iff.mp ⟨inner, h⟩),
    h.drop_dropLast]

theorem textValue?_of_bare {text : List Char} (hunquoted : ∀ inner, ¬ IsQuoted text inner)
    (hvalue : text ∉ noValues) : textValue? text = some (String.ofList text) := by
  simp only [textValue?]
  rw [if_neg (mt mem_noValues_iff.mpr hvalue),
    if_neg (mt isQuoted_iff.mpr (not_exists.mpr hunquoted))]

/-- A text is read from what stands for it and from nothing else. -/
theorem textValue?_eq_some_iff {text : List Char} {value : String} :
    textValue? text = some value ↔ StandsFor text value := by
  constructor
  · intro h
    by_cases hvalue : text ∈ noValues
    case pos =>
      rw [textValue?_of_mem_noValues hvalue] at h
      cases h
    by_cases hquoted : ∃ inner, IsQuoted text inner
    · obtain ⟨inner, hinner⟩ := hquoted
      rw [textValue?_of_isQuoted hinner] at h
      obtain rfl := Option.some.inj h
      apply StandsFor.quoted
      rwa [String.toList_ofList]
    · have hunquoted := not_exists.mp hquoted
      rw [textValue?_of_bare hunquoted hvalue] at h
      obtain rfl := Option.some.inj h
      exact .bare String.toList_ofList.symm hunquoted hvalue
  · rintro (hquoted | ⟨rfl, hunquoted, hvalue⟩)
    · rw [textValue?_of_isQuoted hquoted, String.ofList_toList]
    · rw [textValue?_of_bare hunquoted hvalue, String.ofList_toList]

/-! ## Values by the names of settings -/

/-- What a setting can be. -/
abbrev Name.Value : Name → Type
  | checksum => ChecksumMode
  | source => String
  | listenHost => String
  | listenPort => UInt16
  | level => String

/-- The value that is read from a text for the setting. -/
def Name.read? : (name : Name) → List Char → Option name.Value
  | checksum, text => (ChecksumMode.ofText text).toOption
  | source, text => textValue? text
  | listenHost, text => textValue? text
  | listenPort, text => unsigned16? text
  | level, text => textValue? text

/-- A text is valid for the setting and gives it this value. -/
def Name.Accepts : (name : Name) → List Char → name.Value → Prop
  | checksum, text, mode => mode.IsNamedBy text
  | source, text, value => StandsFor text value
  | listenHost, text, value => StandsFor text value
  | listenPort, text, port => Spells text port.toNat ∧ '-' ∉ text
  | level, text, value => StandsFor text value

theorem Name.read?_eq_some_iff {name : Name} {text : List Char} {value : name.Value} :
    name.read? text = some value ↔ name.Accepts text value := by
  cases name with
  | checksum =>
    rw [Accepts, ← ChecksumMode.ofText_eq_ok_iff, read?]
    cases ChecksumMode.ofText text <;> simp [Except.toOption]
  | source | listenHost | level => exact textValue?_eq_some_iff
  | listenPort => exact unsigned16?_eq_some_iff

end Settings

end VesselTraffic
