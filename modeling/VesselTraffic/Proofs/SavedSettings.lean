import VesselTraffic.Proofs.Encoding
import VesselTraffic.Proofs.SettingValues

/-!
# Settings that are saved

Settings that are written to a text are read back from it just when no text among them holds a
line feed. Quotes are not escaped, but only the outer two are taken off, and what stands between
them is neither trimmed nor cut: the colon that counts is the one behind the key. What was read
from a text holds no line feed, since it stood on one line. So settings that were read can be
saved and read again.
-/
namespace VesselTraffic.Settings

open Text

/-! ## Settings on single lines -/

/-- No text among the settings holds a line feed. -/
structure IsSingleLine (s : Settings) : Prop where
  source : '\n' ∉ s.source.toList
  listenHost : '\n' ∉ s.listenHost.toList
  level : '\n' ∉ s.level.toList

theorem isSingleLine_default : default.IsSingleLine where
  source := by decide
  listenHost := by decide
  level := by decide

/-- A value is a part of the text it is read from. -/
theorem mem_of_textValue? {value : List Char} {text : String} (h : textValue? value = some text)
    {c : Char} (hc : c ∈ text.toList) : c ∈ value := by
  rcases textValue?_eq_some_iff.mp h with ⟨quote, -, rfl⟩ | ⟨rfl, -, -⟩
  · exact List.mem_cons_of_mem quote (List.mem_append_left [quote] hc)
  · exact hc

theorem not_mem_getD_textValue? {c : Char} {value : List Char} (hvalue : c ∉ value) {old : String}
    (hold : c ∉ old.toList) : c ∉ ((textValue? value).getD old).toList := by
  cases h : textValue? value with
  | none => exact hold
  | some text => exact fun hc => hvalue (mem_of_textValue? h hc)

theorem IsSingleLine.assign {s : Settings} (h : s.IsSingleLine) (name : Name) {value : List Char}
    (hvalue : '\n' ∉ value) : (s.assign name value).1.IsSingleLine := by
  cases name with
  | checksum =>
    rw [Settings.assign]
    split
    · exact ⟨h.source, h.listenHost, h.level⟩
    · exact h
  | source => exact ⟨not_mem_getD_textValue? hvalue h.source, h.listenHost, h.level⟩
  | listenHost => exact ⟨h.source, not_mem_getD_textValue? hvalue h.listenHost, h.level⟩
  | listenPort =>
    rw [Settings.assign]
    split
    · exact ⟨h.source, h.listenHost, h.level⟩
    · exact h
  | level => exact ⟨h.source, h.listenHost, not_mem_getD_textValue? hvalue h.level⟩

/-- The value on a line is what follows the first colon, without white space around it. -/
theorem exists_eq_append_of_assigns {line key value : List Char}
    (h : Line.ofText line = .assigns key value) :
    ∃ front behind, trim line = front ++ ':' :: behind ∧ value = trim behind := by
  simp only [Line.ofText] at h
  cases hcut : cutFirst? ':' (trim line) with
  | none =>
    rw [hcut] at h
    split_ifs at h
  | some parts =>
    obtain ⟨front, behind⟩ := parts
    rw [hcut] at h
    dsimp only at h
    split_ifs at h
    exact ⟨front, behind, (cutFirst?_eq_some_iff.mp hcut).1, (Line.assigns.inj h).2.symm⟩

theorem mem_of_assigns {line key value : List Char} (h : Line.ofText line = .assigns key value)
    {c : Char} (hc : c ∈ value) : c ∈ line := by
  obtain ⟨front, behind, hline, rfl⟩ := exists_eq_append_of_assigns h
  refine mem_of_mem_trim ?_
  rw [hline]
  exact List.mem_append_right front (List.mem_cons_of_mem ':' (mem_of_mem_trim hc))

theorem isSingleLine_readLine {r : Progress} (h : r.settings.IsSingleLine) {line : List Char}
    (hline : '\n' ∉ line) : (readLine r line).settings.IsSingleLine := by
  rw [readLine]
  split
  · exact h
  · exact h
  · exact h
  next key value hassigns =>
    split
    · exact h
    next name _ =>
      exact h.assign name fun hc => hline (mem_of_assigns hassigns hc)

theorem isSingleLine_foldl_readLine {lines : List (List Char)}
    (hlines : ∀ line ∈ lines, '\n' ∉ line) {r : Progress} (h : r.settings.IsSingleLine) :
    (lines.foldl readLine r).settings.IsSingleLine := by
  induction lines generalizing r with
  | nil => exact h
  | cons line lines ih =>
    refine ih (fun l hl => hlines l (List.mem_cons_of_mem line hl)) ?_
    exact isSingleLine_readLine h (hlines line List.mem_cons_self)

/-- Whatever is read holds no line feed. -/
theorem isSingleLine_parse (text : List Char) : (parse text).1.IsSingleLine :=
  isSingleLine_foldl_readLine (fun _ => not_mem_of_mem_linesOf) isSingleLine_default

/-! ## The lines that are written -/

/-- The section a setting stands in and its key there. -/
def Name.place : Name → String × String
  | checksum => ("decoder", "checksum")
  | source => ("decoder", "source")
  | listenHost => ("listen", "host")
  | listenPort => ("listen", "port")
  | level => ("log", "level")

theorem Name.of?_place (name : Name) :
    Name.of? name.place.1.toList name.place.2.toList = some name := by
  cases name <;> rfl

def sections : List (String × List Name) :=
  [("decoder", [.checksum, .source]), ("listen", [.listenHost, .listenPort]), ("log", [.level])]

theorem place_of_mem_sections :
    ∀ part ∈ sections, ∀ name ∈ part.2, name.place.1 = part.1 := by
  decide

def quoted (text : String) : List Char := '"' :: (text.toList ++ ['"'])

/-- The text that stands for the value of a setting. -/
def written (s : Settings) : Name → List Char
  | .checksum => s.checksum.name.toList
  | .source => quoted s.source
  | .listenHost => quoted s.listenHost
  | .listenPort => (toString s.listenPort.toNat).toList
  | .level => quoted s.level

def heading : List Char := "# ais-decode configuration".toList

def openingLine (name : String) : List Char := name.toList ++ [':']

def valueLine (s : Settings) (name : Name) : List Char :=
  [' ', ' '] ++ (name.place.2.toList ++ ':' :: ' ' :: s.written name)

/-- The lines of a section, with an empty one in front. -/
def sectionLines (s : Settings) (part : String × List Name) : List (List Char) :=
  [] :: openingLine part.1 :: part.2.map s.valueLine

theorem toList_render (s : Settings) :
    s.render.toList =
      List.intercalate ['\n'] (heading :: sections.flatMap s.sectionLines) ++ ['\n'] := by
  unfold render heading
  rw [String.toList_append, String.toList_intercalate]
  simp [sections, sectionLines, openingLine, valueLine, Name.place, written, quoted]

/-! ## The lines that are read -/

theorem not_isBlank_of_isDigit {c : Char} (h : c.isDigit) : ¬ isBlank c := by
  have hdigit : 48 ≤ c.toNat ∧ c.toNat ≤ 57 := by
    simpa [Char.isDigit, UInt32.le_iff_toNat_le] using h
  simp [isBlank]
  omega

theorem isTrimmed_key (name : Name) : IsTrimmed name.place.2.toList := by
  apply IsTrimmed.of_forall <;> cases name <;> simp [Name.place, isBlank]

theorem isTrimmed_quoted (text : String) : IsTrimmed (quoted text) := by
  have hquote : IsTrimmed ['"'] := by apply IsTrimmed.of_forall <;> simp [isBlank]
  exact hquote.append hquote text.toList

theorem isTrimmed_written (s : Settings) (name : Name) : IsTrimmed (s.written name) := by
  cases name with
  | checksum =>
    rw [written]
    apply IsTrimmed.of_forall <;> cases s.checksum <;> simp [ChecksumMode.name, isBlank]
  | source => exact isTrimmed_quoted s.source
  | listenHost => exact isTrimmed_quoted s.listenHost
  | listenPort =>
    have hdigits := isDecimal_toString s.listenPort.toNat
    apply IsTrimmed.of_forall hdigits.ne_nil
    intro c hc
    exact not_isBlank_of_isDigit (hdigits.isDigit c hc)
  | level => exact isTrimmed_quoted s.level

theorem isTrimmed_assignment (s : Settings) (name : Name) :
    IsTrimmed (name.place.2.toList ++ ':' :: ' ' :: s.written name) :=
  (isTrimmed_key name).append (isTrimmed_written s name) [':', ' ']

theorem ofText_valueLine (s : Settings) (name : Name) :
    Line.ofText (s.valueLine name) = .assigns name.place.2.toList (s.written name) := by
  have hcolon : ':' ∉ name.place.2.toList := by cases name <;> decide
  have hstripped :
      trim (s.valueLine name) = name.place.2.toList ++ ':' :: ' ' :: s.written name := by
    rw [valueLine, trim_blanks_append (by simp [isBlank])]
    exact (isTrimmed_assignment s name).trim_eq
  have hvisible : ¬ ((trim (s.valueLine name)).isEmpty ||
      (trim (s.valueLine name)).head? = some '#') := by
    rw [hstripped]
    cases name <;> simp [Name.place]
  have hspace : ∀ c ∈ [' '], isBlank c := by simp [isBlank]
  have hbehind : trim (' ' :: s.written name) = s.written name :=
    (trim_blanks_append hspace _).trans (isTrimmed_written s name).trim_eq
  have hindented : isIndented (s.valueLine name) := rfl
  simp only [Line.ofText]
  rw [if_neg hvisible, hstripped, cutFirst?_append hcolon]
  dsimp only
  rw [if_pos hindented, (isTrimmed_key name).trim_eq, hbehind]

theorem ofText_openingLine :
    ∀ part ∈ sections, Line.ofText (openingLine part.1) = .opens part.1.toList := by
  decide

/-! ## One setting after the other -/

/-- The settings with one of them as it is among others. -/
def take (s t : Settings) : Name → Settings
  | .checksum => { s with checksum := t.checksum }
  | .source => { s with source := t.source }
  | .listenHost => { s with listenHost := t.listenHost }
  | .listenPort => { s with listenPort := t.listenPort }
  | .level => { s with level := t.level }

/-- Between its quotes a text is anything: also empty, a number sign or other quotes. -/
theorem textValue?_quoted (text : String) : textValue? (quoted text) = some text :=
  textValue?_eq_some_iff.mpr (.quoted ⟨'"', List.mem_cons_self, rfl⟩)

theorem ofText_name (mode : ChecksumMode) : ChecksumMode.ofText mode.name.toList = .ok mode := by
  cases mode <;> rfl

theorem assign_written (s t : Settings) (name : Name) :
    s.assign name (t.written name) = (s.take t name, []) := by
  cases name with
  | checksum => rw [assign, written, ofText_name]; rfl
  | source => rw [assign, written, textValue?_quoted]; rfl
  | listenHost => rw [assign, written, textValue?_quoted]; rfl
  | listenPort => rw [assign, written, unsigned16?_toString]; rfl
  | level => rw [assign, written, textValue?_quoted]; rfl

theorem readLine_valueLine {r : Progress} {name : Name}
    (h : r.openSection = some name.place.1.toList) (s : Settings) :
    readLine r (s.valueLine name) = { r with settings := r.settings.take s name } := by
  have hname :
      (r.openSection.bind fun openName => Name.of? openName name.place.2.toList) = some name := by
    rw [h]
    exact name.of?_place
  rw [readLine, ofText_valueLine]
  dsimp only
  rw [hname]
  dsimp only
  rw [assign_written, List.append_nil]

theorem foldl_readLine_valueLine (s : Settings) {names : List Name} {r : Progress}
    (h : ∀ name ∈ names, r.openSection = some name.place.1.toList) :
    (names.map s.valueLine).foldl readLine r =
      { r with settings := names.foldl (·.take s) r.settings } := by
  induction names generalizing r with
  | nil => rfl
  | cons name names ih =>
    rw [List.map_cons, List.foldl_cons, readLine_valueLine (h name List.mem_cons_self)]
    exact ih fun n hn => h n (List.mem_cons_of_mem name hn)

/-- A section that was written sets its settings, whatever was open before it. -/
theorem foldl_readLine_sectionLines (s : Settings) {part : String × List Name}
    (hpart : part ∈ sections) (r : Progress) :
    (s.sectionLines part).foldl readLine r =
      { r with
        openSection := some part.1.toList
        settings := part.2.foldl (·.take s) r.settings } := by
  have hblank : readLine r [] = r := rfl
  have hopening : readLine r (openingLine part.1) = { r with openSection := some part.1.toList } := by
    rw [readLine, ofText_openingLine part hpart]
  rw [sectionLines, List.foldl_cons, List.foldl_cons, hblank, hopening]
  apply foldl_readLine_valueLine
  intro name hname
  rw [place_of_mem_sections part hpart name hname]

/-! ## All settings -/

theorem not_mem_quoted {c : Char} (hquote : c ≠ '"') {text : String} (h : c ∉ text.toList) :
    c ∉ quoted text := by
  simp [quoted, hquote, h]

theorem IsSingleLine.not_mem_written {s : Settings} (h : s.IsSingleLine) (name : Name) :
    '\n' ∉ s.written name := by
  cases name with
  | checksum => rw [written]; cases s.checksum <;> decide
  | source => exact not_mem_quoted (by decide) h.source
  | listenHost => exact not_mem_quoted (by decide) h.listenHost
  | listenPort => exact (isDecimal_toString s.listenPort.toNat).not_mem (by decide)
  | level => exact not_mem_quoted (by decide) h.level

theorem IsSingleLine.isLine_valueLine {s : Settings} (h : s.IsSingleLine) (name : Name) :
    IsLine (s.valueLine name) where
  not_mem := by
    have hkey : '\n' ∉ name.place.2.toList := by cases name <;> decide
    simp [valueLine, hkey, h.not_mem_written name]
  getLast?_ne hreturn := by
    have htrimmed := isTrimmed_assignment s name
    have hlast := (htrimmed.getLast?_append [' ', ' ']).symm.trans hreturn
    exact htrimmed.last _ hlast (by decide)

theorem IsSingleLine.isLine_of_mem_sectionLines {s : Settings} (h : s.IsSingleLine)
    {part : String × List Name} (hpart : part ∈ sections) {line : List Char}
    (hline : line ∈ s.sectionLines part) : IsLine line := by
  have hopening : ∀ part ∈ sections, IsLine (openingLine part.1) := by decide
  rcases List.mem_cons.mp hline with rfl | hline
  · exact ⟨List.not_mem_nil, nofun⟩
  rcases List.mem_cons.mp hline with rfl | hline
  · exact hopening part hpart
  obtain ⟨name, -, rfl⟩ := List.mem_map.mp hline
  exact h.isLine_valueLine name

/-- Settings without a line feed are read back as they were written, and nothing is noticed. -/
theorem parse_render {s : Settings} (h : s.IsSingleLine) : parse s.render.toList = (s, []) := by
  have hlines : ∀ line ∈ heading :: sections.flatMap s.sectionLines, IsLine line := by
    intro line hline
    rcases List.mem_cons.mp hline with rfl | hline
    · decide
    obtain ⟨part, hpart, hline⟩ := List.mem_flatMap.mp hline
    exact h.isLine_of_mem_sectionLines hpart hline
  have hheading : readLine ⟨default, none, []⟩ heading = ⟨default, none, []⟩ := rfl
  have hread : (sections.flatMap s.sectionLines).foldl readLine ⟨default, none, []⟩ =
      ⟨s, some "log".toList, []⟩ := by
    rw [List.foldl_flatMap, sections]
    simp only [List.foldl_cons, List.foldl_nil]
    rw [foldl_readLine_sectionLines s (by decide), foldl_readLine_sectionLines s (by decide),
      foldl_readLine_sectionLines s (by decide)]
    rfl
  rw [parse, toList_render, linesOf_intercalate hlines, List.foldl_cons, hheading, hread]

/-- Settings that were saved to a file are loaded from it. -/
theorem load_encode_render {s : Settings} (h : s.IsSingleLine) (path : String) :
    load path (some (Utf8.encode s.render.toList)) = (s, []) := by
  rw [load, Utf8.decode?_encode]
  exact parse_render h

/-- Settings are read back from the text they are written to just when no text among them holds a
line feed. That is so of all that were read from a text. -/
theorem parse_render_eq_self_iff :
    (∀ s : Settings, (parse s.render.toList).1 = s ↔ s.IsSingleLine) ∧
    ∀ text : List Char, parse (parse text).1.render.toList = ((parse text).1, []) := by
  refine ⟨fun s => ⟨fun h => ?_, fun h => ?_⟩, fun text => ?_⟩
  · rw [← h]
    exact isSingleLine_parse s.render.toList
  · rw [parse_render h]
  · exact parse_render (isSingleLine_parse text)

end VesselTraffic.Settings
