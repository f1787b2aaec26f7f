import Mathlib.Logic.Relation
import VesselTraffic.Command
import VesselTraffic.Proofs.Cuts
import VesselTraffic.Proofs.Encoding
import VesselTraffic.Proofs.Modes

/-!
# Noise in a feed

Blank lines, comments, white space around lines and carriage returns at their ends do not
get as far as the stream: a feed with such noise gives the same lines as without. So all
that is decoded, printed and counted is the same, also where noise stands between the
fragments of one message.
-/
namespace VesselTraffic.Feed

open Text

/-! ## Noise -/

/-- Blanks that do not end a line. -/
def AreBlank (cs : List Char) : Prop := ∀ c ∈ cs, isBlank c ∧ c ≠ '\n'

/-- The bytes of a line that is blank, or whose first character that is not is a number sign.
What a comment says may be no text at all. -/
inductive IsNoise : List UInt8 → Prop
  | blank {blanks : List Char} (h : AreBlank blanks) : IsNoise (Utf8.encode blanks)
  | comment {blanks : List Char} (h : AreBlank blanks) {rest : List UInt8}
      (hrest : lineFeed ∉ rest) : IsNoise (Utf8.encode blanks ++ 0x23 :: rest)

/-- A line begins behind these bytes. -/
def AtLineStart (before : List UInt8) : Prop := before = [] ∨ ∃ b, before = b ++ [lineFeed]

/-- A line ends in front of these bytes. -/
def AtLineEnd (behind : List UInt8) : Prop := behind = [] ∨ ∃ b, behind = lineFeed :: b

/-- One change that adds noise to the bytes of a feed: a line of noise before a line, a last
line of noise, with or without a line feed before it, white space at either end of a line,
or a carriage return before a line feed. -/
inductive AddsNoise : List UInt8 → List UInt8 → Prop
  | line {before noise behind : List UInt8} (hbefore : AtLineStart before) (h : IsNoise noise) :
      AddsNoise (before ++ behind) (before ++ noise ++ lineFeed :: behind)
  | lastLine {feed noise : List UInt8} (h : IsNoise noise) :
      AddsNoise feed (feed ++ lineFeed :: noise)
  | openLine {feed noise : List UInt8} (hfeed : AtLineStart feed) (h : IsNoise noise) :
      AddsNoise feed (feed ++ noise)
  | lead {before behind : List UInt8} {blanks : List Char} (hbefore : AtLineStart before)
      (h : AreBlank blanks) :
      AddsNoise (before ++ behind) (before ++ Utf8.encode blanks ++ behind)
  | ending {before behind : List UInt8} {blanks : List Char} (hbehind : AtLineEnd behind)
      (h : AreBlank blanks) :
      AddsNoise (before ++ behind) (before ++ Utf8.encode blanks ++ behind)
  | carriageReturn {before behind : List UInt8} :
      AddsNoise (before ++ lineFeed :: behind) (before ++ 0x0d :: lineFeed :: behind)

/-! ## The lines of a feed -/

theorem fileLines_append (as bs : List UInt8) :
    fileLines (as ++ lineFeed :: bs) = fileLines as ++ fileLines bs := by
  rw [fileLines, pieces_append_sep, List.filterMap_append]
  rfl

theorem fileLines_of_not_mem {bytes : List UInt8} (h : lineFeed ∉ bytes) :
    fileLines bytes = ((clean? (Utf8.repaired bytes)).map String.ofList).toList := by
  rw [fileLines, pieces_of_not_mem h, List.filterMap_cons]
  cases (clean? (Utf8.repaired bytes)).map String.ofList <;> rfl

@[simp] theorem fileLines_nil : fileLines [] = [] := rfl

/-- The lines behind a place where a line begins do not depend on those before. -/
theorem fileLines_of_atLineStart {before : List UInt8} (h : AtLineStart before)
    (behind : List UInt8) : fileLines (before ++ behind) = fileLines before ++ fileLines behind := by
  rcases h with rfl | ⟨b, rfl⟩
  · rfl
  · rw [List.append_assoc, List.singleton_append, fileLines_append, fileLines_append, fileLines_nil,
      List.append_nil]

/-- The lines before a place where a line ends do not depend on those behind. -/
theorem fileLines_of_atLineEnd {behind : List UInt8} (h : AtLineEnd behind)
    (before : List UInt8) : fileLines (before ++ behind) = fileLines before ++ fileLines behind := by
  rcases h with rfl | ⟨b, rfl⟩
  · rw [List.append_nil, fileLines_nil, List.append_nil]
  · rw [fileLines_append]
    exact congrArg (fileLines before ++ ·) (fileLines_append [] b).symm

/-! ## One change -/

namespace AreBlank

variable {blanks : List Char} (h : AreBlank blanks)
include h

theorem isBlank : ∀ c ∈ blanks, Text.isBlank c := fun c hc => (h c hc).1

theorem lineFeed_not_mem : lineFeed ∉ Utf8.encode blanks := by
  intro hmem
  obtain ⟨c, hc, hbyte⟩ := List.mem_flatMap.mp hmem
  exact (h c hc).2 (Utf8.eq_of_mem_utf8EncodeChar (by decide) hbyte)

end AreBlank

theorem clean?_congr {as bs : List Char} (h : trim as = trim bs) : clean? as = clean? bs := by
  rw [clean?, clean?, h]

theorem fileLines_noise {noise : List UInt8} (h : IsNoise noise) : fileLines noise = [] := by
  have hclean : lineFeed ∉ noise ∧ clean? (Utf8.repaired noise) = none := by
    cases h with
    | @blank blanks h =>
      refine ⟨h.lineFeed_not_mem, ?_⟩
      have hread : Utf8.repaired (Utf8.encode blanks) = blanks := Utf8.repaired_append_encode [] blanks
      rw [hread]
      exact clean?_congr (trim_append_blanks h.isBlank [])
    | @comment blanks h rest hrest =>
      have hnot : lineFeed ∉ Utf8.encode blanks ++ 0x23 :: rest := by
        rw [List.mem_append, List.mem_cons, not_or, not_or]
        exact ⟨h.lineFeed_not_mem, by decide, hrest⟩
      refine ⟨hnot, ?_⟩
      have hsign : Utf8.repaired (0x23 :: rest) = '#' :: Utf8.repaired rest :=
        Utf8.repaired_encode_append ['#'] rest
      rw [Utf8.repaired_encode_append, hsign, clean?_congr (trim_blanks_append h.isBlank _), clean?,
        trim, trimStart_cons (by decide), trimEnd_cons (by decide)]
      rfl
  rw [fileLines_of_not_mem hclean.1, hclean.2]
  rfl

theorem fileLines_lead {blanks : List Char} (h : AreBlank blanks) (bytes : List UInt8) :
    fileLines (Utf8.encode blanks ++ bytes) = fileLines bytes := by
  have hline : ∀ line : List UInt8, lineFeed ∉ line →
      fileLines (Utf8.encode blanks ++ line) = fileLines line := by
    intro line hline
    have hnot : lineFeed ∉ Utf8.encode blanks ++ line := by
      rw [List.mem_append, not_or]
      exact ⟨h.lineFeed_not_mem, hline⟩
    rw [fileLines_of_not_mem hnot, fileLines_of_not_mem hline, Utf8.repaired_encode_append,
      clean?_congr (trim_blanks_append h.isBlank _)]
  by_cases hmem : lineFeed ∈ bytes
  · obtain ⟨line, rest, rfl, hnot⟩ := List.eq_append_cons_of_mem hmem
    rw [← List.append_assoc, fileLines_append, hline line hnot, fileLines_append]
  · exact hline bytes hmem

theorem fileLines_ending {blanks : List Char} (h : AreBlank blanks) (bytes : List UInt8) :
    fileLines (bytes ++ Utf8.encode blanks) = fileLines bytes := by
  have hline : ∀ line : List UInt8, lineFeed ∉ line →
      fileLines (line ++ Utf8.encode blanks) = fileLines line := by
    intro line hline
    have hnot : lineFeed ∉ line ++ Utf8.encode blanks := by
      rw [List.mem_append, not_or]
      exact ⟨hline, h.lineFeed_not_mem⟩
    rw [fileLines_of_not_mem hnot, fileLines_of_not_mem hline, Utf8.repaired_append_encode,
      clean?_congr (trim_append_blanks h.isBlank _)]
  by_cases hmem : lineFeed ∈ bytes
  · obtain ⟨line, rest, hsplit, hnot⟩ := List.eq_append_cons_of_mem (List.mem_reverse.mpr hmem)
    obtain rfl : bytes = rest.reverse ++ lineFeed :: line.reverse := by
      simpa using congrArg List.reverse hsplit
    rw [List.append_assoc, List.cons_append, fileLines_append,
      hline line.reverse (mt List.mem_reverse.mp hnot), fileLines_append]
  · exact hline bytes hmem

theorem fileLines_of_addsNoise {feed feed' : List UInt8} (h : AddsNoise feed feed') :
    fileLines feed' = fileLines feed := by
  have hending : ∀ {before behind : List UInt8} {blanks : List Char}, AtLineEnd behind →
      AreBlank blanks →
      fileLines (before ++ Utf8.encode blanks ++ behind) = fileLines (before ++ behind) := by
    intro before behind blanks hbehind hblanks
    rw [fileLines_of_atLineEnd hbehind, fileLines_of_atLineEnd hbehind, fileLines_ending hblanks]
  cases h with
  | line hbefore h =>
    rw [fileLines_append, fileLines_of_atLineStart hbefore, fileLines_of_atLineStart hbefore,
      fileLines_noise h, List.append_nil]
  | lastLine h => rw [fileLines_append, fileLines_noise h, List.append_nil]
  | openLine hfeed h => rw [fileLines_of_atLineStart hfeed, fileLines_noise h, List.append_nil]
  | lead hbefore h =>
    rw [List.append_assoc, fileLines_of_atLineStart hbefore, fileLines_of_atLineStart hbefore,
      fileLines_lead h]
  | ending hbehind h => exact hending hbehind h
  | @carriageReturn before behind =>
    have hreturn : AreBlank ['\r'] := by
      intro c hc
      obtain rfl := List.mem_singleton.mp hc
      decide
    have hbehind : AtLineEnd (lineFeed :: behind) := .inr ⟨behind, rfl⟩
    calc fileLines (before ++ 0x0d :: lineFeed :: behind)
        = fileLines (before ++ Utf8.encode ['\r'] ++ lineFeed :: behind) := by
          rw [List.append_assoc]
          rfl
      _ = fileLines (before ++ lineFeed :: behind) := hending hbehind hreturn

/-- However much noise is added, the lines are the same. -/
theorem fileLines_of_noise {feed feed' : List UInt8} (h : Relation.ReflTransGen AddsNoise feed feed') :
    fileLines feed' = fileLines feed := by
  induction h with
  | refl => rfl
  | tail _ hstep ih => exact (fileLines_of_addsNoise hstep).trans ih

end VesselTraffic.Feed

namespace VesselTraffic.Command

/-- The session at the end of a feed. -/
def Session.ofFeed (settings : Settings) (options : Options) (feed : List UInt8) : Session :=
  (Feed.fileLines feed).foldl (line options.format) (start settings options)

/-- The messages decoded from a feed, in their order. -/
def decoded (settings : Settings) (options : Options) (feed : List UInt8) : List Message :=
  ((Session.start settings options).stream.answers (Feed.fileLines feed)).filterMap
    Stream.Accepted.message?

/-- Noise added to a feed, anywhere and in any amount, changes nothing that comes of it: not
the messages and their order, not the counts, and not what is printed in any format. -/
theorem run_of_noise {feed feed' : List UInt8}
    (h : Relation.ReflTransGen Feed.AddsNoise feed feed') (settings : Settings)
    (options : Options) :
    decoded settings options feed' = decoded settings options feed ∧
    (Session.ofFeed settings options feed').stream.counts =
      (Session.ofFeed settings options feed).stream.counts ∧
    run settings options feed' = run settings options feed := by
  have hlines : Feed.fileLines feed' = Feed.fileLines feed := Feed.fileLines_of_noise h
  refine ⟨?_, ?_, ?_⟩
  · rw [decoded, hlines, decoded]
  · rw [Session.ofFeed, hlines, Session.ofFeed]
  · rw [run, hlines, run]

/-- A comment between the two fragments of a message. -/
theorem run_of_comment_between_fragments :
    let first := Text.Utf8.encode
      "!AIVDM,2,1,3,B,55P5TL01VIaAL@7WKO@mBplU@<PDhh000000001S;AJ::4A80?4i@E53,0*3E".toList
    let second := Text.Utf8.encode "!AIVDM,2,2,3,B,1@0000000000000,2*55".toList
    let comment := Text.Utf8.encode ['\t', '\u2003'] ++ 0x23 :: [0x20, 0xff, 0x2c, 0x2a]
    let feed := first ++ [Feed.lineFeed] ++ second
    let feed' := first ++ [Feed.lineFeed] ++ comment ++ Feed.lineFeed :: second
    Relation.ReflTransGen Feed.AddsNoise feed feed' ∧
    decoded {} {} feed' = decoded {} {} feed ∧
    (Session.ofFeed {} {} feed').stream.counts = (Session.ofFeed {} {} feed).stream.counts ∧
    run {} {} feed' = run {} {} feed := by
  intro first second comment feed feed'
  have hblank : Feed.AreBlank ['\t', '\u2003'] := by
    intro c hc
    rcases List.mem_pair.mp hc with rfl | rfl <;> decide
  have hstep : Feed.AddsNoise feed feed' :=
    .line (.inr ⟨first, rfl⟩) (.comment hblank (by decide))
  have h : Relation.ReflTransGen Feed.AddsNoise feed feed' := .single hstep
  exact ⟨h, run_of_noise h {} {}⟩

end VesselTraffic.Command
