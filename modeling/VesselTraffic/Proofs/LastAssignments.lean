import Mathlib.Data.List.Induction
import Mathlib.Logic.Relation
import VesselTraffic.Proofs.SavedSettings

/-!
# The last assignment decides

Of all lines that give a setting a value the last one decides, and the default where there is none. A
line gives a value if it is indented, has the key of the setting and a value of its kind, and stands
in the section of the setting: the last heading before it opens that section. So lines that are
neither headings nor give a value can come and go.
-/
namespace VesselTraffic

/-! ## The last of a kind -/

section

variable {α : Type} {p q : List α → α → Prop} {as before after : List α} {a b : α}

/-- Some element of the list meets `p` together with those before it, and the last that does meets `q`,
too. -/
def LastMeets (p q : List α → α → Prop) (as : List α) : Prop :=
  ∃ before a after, as = before ++ a :: after ∧ p before a ∧ q before a ∧
    ∀ middle b rest, after = middle ++ b :: rest → ¬ p (before ++ a :: middle) b

/-- No element of the list meets `p` together with those before it. -/
def NeverMeets (p : List α → α → Prop) (as : List α) : Prop :=
  ∀ before a after, as = before ++ a :: after → ¬ p before a

/-- The last element is one of those before or the new one. -/
theorem concat_eq_append_cons_iff : as ++ [a] = before ++ b :: after ↔
    (as = before ∧ a = b ∧ after = []) ∨
      ∃ init, after = init ++ [a] ∧ as = before ++ b :: init := by
  constructor
  · intro h
    rcases List.eq_nil_or_concat' after with rfl | ⟨init, c, rfl⟩
    · obtain ⟨rfl, hab⟩ := List.append_inj' h rfl
      exact .inl ⟨rfl, List.singleton_inj.mp hab, rfl⟩
    · rw [← List.cons_append, ← List.append_assoc] at h
      obtain ⟨rfl, hac⟩ := List.append_inj' h rfl
      obtain rfl := List.singleton_inj.mp hac
      exact .inr ⟨init, rfl, rfl⟩
  · rintro (⟨rfl, rfl, rfl⟩ | ⟨init, rfl, rfl⟩)
    · rfl
    · simp

theorem neverMeets_concat : NeverMeets p (as ++ [a]) ↔ ¬ p as a ∧ NeverMeets p as := by
  simp only [NeverMeets, concat_eq_append_cons_iff]
  constructor
  · intro h
    exact ⟨h as a [] (.inl ⟨rfl, rfl, rfl⟩),
      fun before b init has => h before b _ (.inr ⟨init, rfl, has⟩)⟩
  · rintro ⟨ha, has⟩ before b after (⟨rfl, rfl, rfl⟩ | ⟨init, rfl, hinit⟩)
    · exact ha
    · exact has before b init hinit

theorem lastMeets_concat :
    LastMeets p q (as ++ [a]) ↔ p as a ∧ q as a ∨ ¬ p as a ∧ LastMeets p q as := by
  constructor
  · rintro ⟨before, b, after, hsplit, hp, hq, hlast⟩
    rcases concat_eq_append_cons_iff.mp hsplit with ⟨rfl, rfl, rfl⟩ | ⟨init, rfl, rfl⟩
    · exact .inl ⟨hp, hq⟩
    · refine .inr ⟨hlast init a [] rfl, before, b, init, rfl, hp, hq, ?_⟩
      rintro middle c rest rfl
      exact hlast middle c (rest ++ [a]) (by simp)
  · rintro (⟨hp, hq⟩ | ⟨ha, before, b, init, rfl, hp, hq, hlast⟩)
    · exact ⟨as, a, [], rfl, hp, hq, by simp⟩
    · refine ⟨before, b, init ++ [a], by simp, hp, hq, fun middle c rest hrest => ?_⟩
      rcases concat_eq_append_cons_iff.mp hrest with ⟨rfl, rfl, rfl⟩ | ⟨init', rfl, hinit⟩
      · exact ha
      · exact hlast middle c init' hinit

theorem not_lastMeets_nil : ¬ LastMeets p q [] := by
  rintro ⟨before, a, after, h, -⟩
  simp at h

theorem neverMeets_nil : NeverMeets p ([] : List α) := by
  intro before a after h
  simp at h

end

namespace Settings

open Text

/-! ## What a line says -/

/-- A line `key: value`. The first colon ends the key, and white space around both does not count. -/
def IsPair (line key value : List Char) : Prop :=
  ∃ front behind, line = front ++ ':' :: behind ∧ ':' ∉ front ∧
    trim front = key ∧ trim behind = value

def IsComment (line : List Char) : Prop := (trim line).head? = some '#'

instance (line : List Char) : Decidable (IsComment line) :=
  inferInstanceAs (Decidable ((trim line).head? = some '#'))

/-- A heading opens a section or closes the one that is open. -/
structure IsHeading (line : List Char) : Prop where
  not_indented : ¬ isIndented line
  not_comment : ¬ IsComment line
  colon : ':' ∈ line

theorem exists_isPair {line : List Char} (h : ':' ∈ line) : ∃ key value, IsPair line key value := by
  obtain ⟨front, behind, hline, hfront⟩ := List.eq_append_cons_of_mem h
  exact ⟨_, _, front, behind, hline, hfront, rfl, rfl⟩

theorem IsPair.colon {line key value : List Char} (h : IsPair line key value) : ':' ∈ line := by
  obtain ⟨front, behind, rfl, -⟩ := h
  simp

theorem IsPair.unique {line key key' value value' : List Char} (h : IsPair line key value)
    (h' : IsPair line key' value') : key = key' ∧ value = value' := by
  obtain ⟨front, behind, hline, hfront, rfl, rfl⟩ := h
  obtain ⟨front', behind', hline', hfront', rfl, rfl⟩ := h'
  have hcut := cutFirst?_eq_some_iff.mpr ⟨hline, hfront⟩
  rw [cutFirst?_eq_some_iff.mpr ⟨hline', hfront'⟩] at hcut
  obtain ⟨rfl, rfl⟩ := Prod.mk.inj (Option.some.inj hcut)
  exact ⟨rfl, rfl⟩

/-- A comment may hold a colon, but then its key begins with the number sign. -/
theorem IsPair.head?_of_isComment {line key value : List Char} (h : IsPair line key value)
    (hcomment : IsComment line) : key.head? = some '#' := by
  obtain ⟨front, behind, rfl, -, rfl, -⟩ := h
  rw [IsComment, trim_append_cons (by decide)] at hcomment
  cases hfront : trimStart isBlank front with
  | nil => rw [hfront] at hcomment; exact absurd hcomment (by simp)
  | cons c cs =>
    have hc : ¬ isBlank c := head?_trimStart isBlank front c (by rw [hfront]; rfl)
    rw [hfront] at hcomment
    rw [trim, hfront, trimEnd_cons hc]
    simpa using hcomment

/-- What a line with a colon says. -/
theorem ofText_of_isPair {line key value : List Char} (h : IsPair line key value)
    (hcomment : ¬ IsComment line) : Line.ofText line =
      if isIndented line then .assigns key value
      else if value.isEmpty then .opens key else .closes := by
  obtain ⟨front, behind, hline, hfront, rfl, rfl⟩ := h
  have hcolon : ¬ isBlank ':' := by decide
  have htrim : trim line = trimStart isBlank front ++ ':' :: trimEnd isBlank behind := by
    rw [hline, trim_append_cons hcolon]
  have hstart : ':' ∉ trimStart isBlank front :=
    fun hmem => hfront ((List.dropWhile_suffix isBlank).subset hmem)
  have hvisible : ¬ ((trim line).isEmpty || (trim line).head? = some '#') := by
    rw [Bool.or_eq_true, not_or]
    exact ⟨by rw [htrim]; simp, fun h => hcomment (of_decide_eq_true h)⟩
  simp only [Line.ofText]
  rw [if_neg hvisible, htrim, cutFirst?_append hstart]
  dsimp only
  rw [trim_trimStart, trim_trimEnd]

theorem ofText_of_isComment {line : List Char} (h : IsComment line) : Line.ofText line = .blank := by
  have hhidden : (trim line).isEmpty || (trim line).head? = some '#' :=
    (Bool.or_eq_true _ _).mpr (.inr (decide_eq_true h))
  simp only [Line.ofText]
  rw [if_pos hhidden]

theorem ofText_of_not_colon {line : List Char} (h : ':' ∉ line) : Line.ofText line = .blank := by
  have hcut : cutFirst? ':' (trim line) = none :=
    (cutFirst?_eq_none_iff ':' _).mpr fun hmem => h (mem_of_mem_trim hmem)
  simp only [Line.ofText]
  rw [hcut, ite_self]

theorem isPair_of_ofText_eq_assigns {line key text : List Char}
    (h : Line.ofText line = .assigns key text) : isIndented line ∧ IsPair line key text := by
  by_cases hcolon : ':' ∈ line
  case neg => rw [ofText_of_not_colon hcolon] at h; cases h
  by_cases hcomment : IsComment line
  case pos => rw [ofText_of_isComment hcomment] at h; cases h
  obtain ⟨key', text', hpair⟩ := exists_isPair hcolon
  rw [ofText_of_isPair hpair hcomment] at h
  split_ifs at h with hindented
  cases h
  exact ⟨hindented, hpair⟩

/-! ## Settings by their names -/

def get (s : Settings) : (name : Name) → name.Value
  | .checksum => s.checksum
  | .source => s.source
  | .listenHost => s.listenHost
  | .listenPort => s.listenPort
  | .level => s.level

theorem ext_get {s t : Settings} (h : ∀ name, s.get name = t.get name) : s = t := by
  cases s
  cases t
  congr
  · exact h .checksum
  · exact h .source
  · exact h .listenHost
  · exact h .listenPort
  · exact h .level

/-- The settings with a value for one of them. -/
def set (s : Settings) : (name : Name) → name.Value → Settings
  | .checksum, value => { s with checksum := value }
  | .source, value => { s with source := value }
  | .listenHost, value => { s with listenHost := value }
  | .listenPort, value => { s with listenPort := value }
  | .level, value => { s with level := value }

theorem get_set_self (s : Settings) (name : Name) (value : name.Value) :
    (s.set name value).get name = value := by
  cases name <;> rfl

theorem get_set_of_ne (s : Settings) {name other : Name} (h : other ≠ name) (value : name.Value) :
    (s.set name value).get other = s.get other := by
  cases name <;> cases other <;> simp_all [set, get]

/-- What is not valid leaves the settings as they are. -/
theorem assign_eq (s : Settings) (name : Name) (text : List Char) :
    (s.assign name text).1 = ((name.read? text).map (s.set name)).getD s := by
  cases name with
  | checksum =>
    rw [assign, Name.read?]
    cases ChecksumMode.ofText text <;> rfl
  | listenPort =>
    rw [assign, Name.read?]
    cases unsigned16? text <;> rfl
  | source | listenHost | level =>
    rw [assign, Name.read?]
    cases textValue? text <;> rfl

theorem get_assign_self (s : Settings) (name : Name) (text : List Char) :
    (s.assign name text).1.get name = (name.read? text).getD (s.get name) := by
  rw [assign_eq]
  cases name.read? text with
  | none => rfl
  | some value => exact s.get_set_self name value

theorem get_assign_of_ne (s : Settings) {name other : Name} (h : other ≠ name) (text : List Char) :
    (s.assign name text).1.get other = s.get other := by
  rw [assign_eq]
  cases name.read? text with
  | none => rfl
  | some value => exact s.get_set_of_ne h value

theorem Name.of?_eq_some_iff {name : Name} {openSection key : List Char} :
    Name.of? openSection key = some name ↔
      openSection = name.place.1.toList ∧ key = name.place.2.toList := by
  constructor
  · intro h
    have hplace : (String.ofList openSection, String.ofList key) = name.place := by
      simp only [Name.of?] at h
      split_ifs at h with hplace hplace hplace hplace hplace <;> cases h <;> exact hplace
    rw [← hplace]
    exact ⟨String.toList_ofList.symm, String.toList_ofList.symm⟩
  · rintro ⟨rfl, rfl⟩
    exact name.of?_place

/-- No two settings have one key. -/
theorem Name.eq_of_key_eq {name other : Name} (h : name.place.2 = other.place.2) : name = other := by
  revert h
  cases name <;> cases other <;> decide

/-- No setting has a key that makes its line a comment. -/
theorem IsPair.not_isComment_of_key {line text : List Char} {name : Name}
    (h : IsPair line name.place.2.toList text) : ¬ IsComment line := by
  intro hcomment
  have hkey := h.head?_of_isComment hcomment
  cases name <;> exact absurd hkey (by decide)

/-! ## The line that decides -/

/-- The last heading among the lines opens the section. -/
def InSection (lines : List (List Char)) (openSection : List Char) : Prop :=
  LastMeets (fun _ line => IsHeading line) (fun _ line => IsPair line openSection []) lines

/-- A line behind others gives a setting a value. -/
structure Gives (before : List (List Char)) (line : List Char) (name : Name) (value : name.Value) :
    Prop where
  indented : isIndented line
  place : InSection before name.place.1.toList
  written : ∃ text, IsPair line name.place.2.toList text ∧ name.Accepts text value

/-- The last line that gives the setting a value gives it this one. -/
def LastGiven (lines : List (List Char)) (name : Name) (value : name.Value) : Prop :=
  LastMeets (fun before line => ∃ v, Gives before line name v)
    (fun before line => Gives before line name value) lines

def NeverGiven (lines : List (List Char)) (name : Name) : Prop :=
  NeverMeets (fun before line => ∃ v, Gives before line name v) lines

/-! ## One line after the other -/

/-- What is known behind some lines. -/
def progress (lines : List (List Char)) : Progress := lines.foldl readLine ⟨default, none, []⟩

theorem progress_concat (lines : List (List Char)) (line : List Char) :
    progress (lines ++ [line]) = readLine (progress lines) line :=
  List.foldl_concat ..

theorem IsHeading.openSection_readLine {line : List Char} (h : IsHeading line) (r : Progress)
    (openSection : List Char) :
    (readLine r line).openSection = some openSection ↔ IsPair line openSection [] := by
  obtain ⟨key, value, hpair⟩ := exists_isPair h.colon
  rw [readLine, ofText_of_isPair hpair h.not_comment, if_neg h.not_indented]
  cases value with
  | nil =>
    refine ⟨fun hopen => ?_, fun hpair' => ?_⟩
    · cases hopen
      exact hpair
    · rw [(hpair.unique hpair').1]
      rfl
  | cons c cs =>
    refine iff_of_false (fun hopen => ?_) fun hpair' => ?_
    · cases hopen
    · cases (hpair.unique hpair').2

theorem openSection_readLine_of_not_isHeading {line : List Char} (h : ¬ IsHeading line)
    (r : Progress) : (readLine r line).openSection = r.openSection := by
  by_cases hcolon : ':' ∈ line
  case neg => rw [readLine, ofText_of_not_colon hcolon]
  by_cases hcomment : IsComment line
  case pos => rw [readLine, ofText_of_isComment hcomment]
  have hindented : isIndented line := by
    by_contra hnot
    exact h ⟨hnot, hcomment, hcolon⟩
  obtain ⟨key, value, hpair⟩ := exists_isPair hcolon
  rw [readLine, ofText_of_isPair hpair hcomment, if_pos hindented]
  dsimp only
  cases r.openSection.bind fun openSection => Name.of? openSection key <;> rfl

/-- The open section is that of the last heading. -/
theorem openSection_progress (lines : List (List Char)) (openSection : List Char) :
    (progress lines).openSection = some openSection ↔ InSection lines openSection := by
  induction lines using List.reverseRecOn with
  | nil => exact iff_of_false (fun h => nomatch h) not_lastMeets_nil
  | append_singleton lines line ih =>
    rw [progress_concat, InSection, lastMeets_concat]
    by_cases h : IsHeading line
    · simp [h, h.openSection_readLine]
    · simp [h, openSection_readLine_of_not_isHeading h, ih, InSection]

theorem Gives.get_readLine {lines : List (List Char)} {line : List Char} {name : Name}
    {value : name.Value} (h : Gives lines line name value) :
    (readLine (progress lines) line).settings.get name = value := by
  obtain ⟨text, hpair, haccepts⟩ := h.written
  have hopen := (openSection_progress lines _).mpr h.place
  rw [readLine, ofText_of_isPair hpair hpair.not_isComment_of_key, if_pos h.indented, hopen]
  dsimp only [Option.bind_some]
  rw [name.of?_place]
  dsimp only
  rw [get_assign_self, Name.read?_eq_some_iff.mpr haccepts, Option.getD_some]

theorem get_readLine_of_not_gives {lines : List (List Char)} {line : List Char} {name : Name}
    (h : ∀ value, ¬ Gives lines line name value) :
    (readLine (progress lines) line).settings.get name = (progress lines).settings.get name := by
  rw [readLine]
  split
  case h_4 key text hline =>
    obtain ⟨hindented, hpair⟩ := isPair_of_ofText_eq_assigns hline
    split
    case h_1 => rfl
    case h_2 other hother =>
      obtain ⟨openSection, hopen, hother⟩ := Option.bind_eq_some_iff.mp hother
      obtain ⟨rfl, rfl⟩ := Name.of?_eq_some_iff.mp hother
      dsimp only
      by_cases hname : name = other
      · subst hname
        have hnone : name.read? text = none := by
          refine Option.eq_none_iff_forall_ne_some.mpr fun value hvalue => ?_
          exact h value ⟨hindented, (openSection_progress lines _).mp hopen, text, hpair,
            Name.read?_eq_some_iff.mp hvalue⟩
        rw [get_assign_self, hnone, Option.getD_none]
      · exact get_assign_of_ne _ hname text
  all_goals rfl

/-- The value is that of the last line that gives one, and the default where there is none. -/
theorem get_progress (lines : List (List Char)) (name : Name) (value : name.Value) :
    (progress lines).settings.get name = value ↔
      LastGiven lines name value ∨ NeverGiven lines name ∧ value = default.get name := by
  induction lines using List.reverseRecOn with
  | nil =>
    rw [LastGiven, NeverGiven, or_iff_right not_lastMeets_nil, and_iff_right neverMeets_nil]
    exact eq_comm
  | append_singleton lines line ih =>
    rw [progress_concat, LastGiven, NeverGiven, lastMeets_concat, neverMeets_concat]
    by_cases h : ∃ v, Gives lines line name v
    · obtain ⟨v, hv⟩ := id h
      have hline : (readLine (progress lines) line).settings.get name = value ↔
          Gives lines line name value := by
        refine ⟨fun hvalue => ?_, Gives.get_readLine⟩
        rwa [← hvalue, hv.get_readLine]
      simp [h, hline]
    · have hsame := get_readLine_of_not_gives (not_exists.mp h)
      rw [hsame, ih, LastGiven, NeverGiven]
      simp [h]

/-! ## Lines that come and go -/

/-- Behind the lines before it such a line says nothing: it is blank, a comment or without a colon, or
it is indented and its text is valid for no setting that has its key in the section. -/
inductive IsIdle (before : List (List Char)) : List Char → Prop
  | blank {line} (h : trim line = []) : IsIdle before line
  | comment {line} (h : IsComment line) : IsIdle before line
  | plain {line} (h : ':' ∉ line) : IsIdle before line
  | unused {line key text} (indented : isIndented line) (pair : IsPair line key text)
      (h : ∀ name : Name, InSection before name.place.1.toList → key = name.place.2.toList →
        ∀ value, ¬ name.Accepts text value) : IsIdle before line

/-- One line that says nothing is put among the lines. -/
inductive AddsIdle : List (List Char) → List (List Char) → Prop
  | add {before line} (h : IsIdle before line) (after : List (List Char)) :
      AddsIdle (before ++ after) (before ++ line :: after)

theorem not_colon_of_trim_eq_nil {line : List Char} (h : trim line = []) : ':' ∉ line := by
  intro hcolon
  obtain ⟨front, behind, rfl, -⟩ := List.eq_append_cons_of_mem hcolon
  rw [trim_append_cons (by decide)] at h
  exact List.append_ne_nil_of_right_ne_nil _ (List.cons_ne_nil _ _) h

theorem IsIdle.not_isHeading {before : List (List Char)} {line : List Char}
    (h : IsIdle before line) : ¬ IsHeading line := by
  rintro ⟨hindented, hcomment, hcolon⟩
  cases h with
  | blank h => exact not_colon_of_trim_eq_nil h hcolon
  | comment h => exact hcomment h
  | plain h => exact h hcolon
  | unused indented => exact hindented indented

theorem IsIdle.not_gives {before : List (List Char)} {line : List Char} (h : IsIdle before line)
    (name : Name) (value : name.Value) : ¬ Gives before line name value := by
  rintro ⟨-, hplace, text, hpair, haccepts⟩
  cases h with
  | blank h => exact not_colon_of_trim_eq_nil h hpair.colon
  | comment h => exact hpair.not_isComment_of_key h
  | plain h => exact h hpair.colon
  | unused _ pair h =>
    obtain ⟨hkey, rfl⟩ := pair.unique hpair
    exact h name hplace hkey value haccepts

/-- A text that is not valid for the setting of its key is valid for none. -/
theorem isIdle_of_refused (name : Name) {before : List (List Char)} {line text : List Char}
    (hindented : isIndented line) (hpair : IsPair line name.place.2.toList text)
    (h : name.read? text = none) : IsIdle before line := by
  refine .unused hindented hpair fun other _ hkey value haccepts => ?_
  obtain rfl := Name.eq_of_key_eq (String.toList_inj.mp hkey)
  rw [Name.read?_eq_some_iff.mpr haccepts] at h
  cases h

/-- The same, but for what was noticed. -/
structure Progress.Agrees (r r' : Progress) : Prop where
  settings : r.settings = r'.settings
  openSection : r.openSection = r'.openSection

theorem Progress.Agrees.readLine {r r' : Progress} (h : r.Agrees r') (line : List Char) :
    (readLine r line).Agrees (readLine r' line) := by
  obtain ⟨settings, openSection, notices⟩ := r
  obtain ⟨settings', openSection', notices'⟩ := r'
  obtain ⟨rfl, rfl⟩ := h
  rw [Settings.readLine, Settings.readLine]
  cases Line.ofText line with
  | assigns key text =>
    dsimp only
    cases openSection.bind fun openSection => Name.of? openSection key <;> exact ⟨rfl, rfl⟩
  | blank | opens | closes => exact ⟨rfl, rfl⟩

theorem Progress.Agrees.foldl_readLine {r r' : Progress} (h : r.Agrees r')
    (lines : List (List Char)) :
    (lines.foldl Settings.readLine r).Agrees (lines.foldl Settings.readLine r') := by
  induction lines generalizing r r' with
  | nil => exact h
  | cons line lines ih => exact ih (h.readLine line)

theorem IsIdle.agrees_readLine {before : List (List Char)} {line : List Char}
    (h : IsIdle before line) : (progress before).Agrees (readLine (progress before) line) where
  settings := ext_get fun name => (get_readLine_of_not_gives (h.not_gives name)).symm
  openSection := (openSection_readLine_of_not_isHeading h.not_isHeading _).symm

theorem AddsIdle.agrees {lines lines' : List (List Char)} (h : AddsIdle lines lines') :
    (progress lines).Agrees (progress lines') := by
  obtain ⟨hidle, after⟩ := h
  rw [progress, progress, List.foldl_append, List.foldl_append]
  exact hidle.agrees_readLine.foldl_readLine after

theorem settings_progress_of_eqvGen {lines lines' : List (List Char)}
    (h : Relation.EqvGen AddsIdle lines lines') :
    (progress lines').settings = (progress lines).settings := by
  induction h with
  | rel _ _ hadds => exact hadds.agrees.settings.symm
  | refl _ => rfl
  | symm _ _ _ ih => exact ih.symm
  | trans _ _ _ _ _ ih ih' => exact ih'.trans ih

/-- A setting has the value of the last line that gives it one, and its default where there is none. So
lines that say nothing can be put in or taken out, and every setting stays as it is. -/
theorem get_parse (text : List Char) :
    (∀ (name : Name) (value : name.Value), (parse text).1.get name = value ↔
      LastGiven (linesOf text) name value ∨
        NeverGiven (linesOf text) name ∧ value = default.get name) ∧
    ∀ text' : List Char, Relation.EqvGen AddsIdle (linesOf text) (linesOf text') →
      (parse text').1 = (parse text).1 :=
  ⟨get_progress (linesOf text), fun _ => settings_progress_of_eqvGen⟩

/-- A word that is no mode, a text that says that there is none, and a comment that looks like a
heading make no difference. The line with one space in front is a heading, so it gives no value. -/
theorem get_parse_between_headings :
    let text := "decoder:\n  checksum: strict\n  source: 'a: b'\n checksum: lenient\n".toList
    (parse ("decoder:\n  checksum: strict\n  source: 'a: b'\n  checksum: none\n".toList ++
        "\tsource: ~\n # listen:\n checksum: lenient\n".toList)).1 = (parse text).1 ∧
    LastGiven (linesOf text) .checksum .strict ∧ LastGiven (linesOf text) .source "a: b" := by
  intro text
  let before := ["decoder:".toList, "  checksum: strict".toList, "  source: 'a: b'".toList]
  let mode := "  checksum: none".toList
  let source := "\tsource: ~".toList
  let after := [" checksum: lenient".toList]
  have hmode : AddsIdle (before ++ after) (before ++ mode :: after) :=
    .add (isIdle_of_refused .checksum rfl
      ⟨"  checksum".toList, " none".toList, rfl, by decide, rfl, rfl⟩ rfl) after
  have hsource : AddsIdle ((before ++ [mode]) ++ after) ((before ++ [mode]) ++ source :: after) :=
    .add (isIdle_of_refused .source rfl
      ⟨"\tsource".toList, " ~".toList, rfl, by decide, rfl, rfl⟩ rfl) after
  have hcomment : AddsIdle ((before ++ [mode, source]) ++ after)
      ((before ++ [mode, source]) ++ " # listen:".toList :: after) :=
    .add (.comment (by decide)) after
  have hstrict : (parse text).1.get .checksum = .strict := rfl
  have hname : (parse text).1.get .source = "a: b" := rfl
  refine ⟨(get_parse text).2 _ (.trans _ _ _ (.rel _ _ hmode)
    (.trans _ _ _ (.rel _ _ hsource) (.rel _ _ hcomment))), ?_, ?_⟩
  · exact (((get_parse text).1 .checksum .strict).mp hstrict).resolve_right fun h => nomatch h.2
  · exact (((get_parse text).1 .source "a: b").mp hname).resolve_right fun h => absurd h.2 (by decide)

end Settings

end VesselTraffic
