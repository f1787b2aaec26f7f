import VesselTraffic.Proofs.Checked.Texts
import VesselTraffic.Proofs.Encoding
import VesselTraffic.Sentence

/-!
# Checked reading of lines

A line is cut at separators of one byte, and an address is split behind its second byte only
when it is known to consist of letters and digits. So every cut falls between two
characters, whatever a line holds.
-/
namespace VesselTraffic

namespace Text

theorem size_of_alphanum {cs : List Char} (h : cs.all Char.isAlphanum) : size cs = cs.length := by
  induction cs with
  | nil => rfl
  | cons c cs ih =>
    rw [List.all_cons, Bool.and_eq_true] at h
    rw [size_cons, utf8Size_eq_one (toNat_lt_of_isAlphanum h.1), ih h.2, List.length_cons,
      Nat.add_comm]

end Text

namespace Checked

theorem cutAt_of_alphanum {n : Nat} {cs : List Char} (h : cs.all Char.isAlphanum)
    (hn : n ≤ cs.length) : cutAt n cs = .ok (cs.take n, cs.drop n) := by
  have htake : (cs.take n).all Char.isAlphanum := by
    rw [List.all_eq_true] at h ⊢
    exact fun c hc => h c (List.mem_of_mem_take hc)
  rw [cutAt_eq_ok_iff, List.take_append_drop, Text.size_of_alphanum htake, List.length_take,
    Nat.min_eq_left hn]
  exact ⟨rfl, rfl⟩

/-- Goes on with the result of an outcome, and keeps the notices from before. -/
def andThen {α β : Type} (x : Outcome α) (f : α → Checked (Outcome β)) : Checked (Outcome β) :=
  match x.result with
  | .error r => return ⟨x.notices, .error r⟩
  | .ok a => do
    let y ← f a
    return ⟨x.notices ++ y.notices, y.result⟩

theorem andThen_eq_ok {α β : Type} {f : α → Checked (Outcome β)} {g : α → Outcome β}
    (h : ∀ a, f a = .ok (g a)) (x : Outcome α) : andThen x f = .ok (x >>= g) := by
  obtain ⟨notices, result⟩ := x
  cases result with
  | error r => rfl
  | ok a =>
    change (f a >>= fun y => _) = _
    rw [h a]
    rfl

/-! ### Tag blocks -/

/-- Three numbers with dashes between them. -/
def group? (value : List Char) : Checked (Option TagGroup) := do
  match ← cutFirst? '-' value with
  | none => return none
  | some (first, rest) =>
    match ← cutFirst? '-' rest with
    | none => return none
    | some (second, third) =>
      return do
        return ⟨← Text.unsigned32? first, ← Text.unsigned32? second, ← Text.unsigned32? third⟩

/-- Records one parameter; only a group is cut further. -/
def assign (block : TagBlock) (key value : List Char) : Checked (Except TagBlockFlaw TagBlock) :=
  if key = ['g'] then do
    match ← group? value with
    | some g => return .ok { block with group := some g }
    | none => return .error (.badValue 'g')
  else return block.assign key value

def assignPiece (block : TagBlock) (piece : List Char) :
    Checked (Except TagBlockFlaw TagBlock) := do
  match ← cutFirst? ':' piece with
  | none => return .error .missingColon
  | some (key, value) => assign block key value

def assignPieces (block : TagBlock) : List (List Char) → Checked (Except TagBlockFlaw TagBlock)
  | [] => return .ok block
  | piece :: rest => do
    match ← assignPiece block piece with
    | .error flaw => return .error flaw
    | .ok block => assignPieces block rest

def parameters (text : List Char) (checksumOk : Bool) : Checked (Except TagBlockFlaw TagBlock) := do
  let pieces ← pieces ',' text
  assignPieces { checksumOk := checksumOk } (pieces.filter (!·.isEmpty))

/-- Reads the text between the backslashes. -/
def tagBlock (mode : ChecksumMode) (text : List Char) : Checked (Outcome TagBlock) := do
  let malformed flaw := Refusal.malformedTagBlock flaw (String.ofList text)
  match ← cutLast? '*' text with
  | none => return .refuse (malformed .missingChecksum)
  | some (covered, digits) =>
    match Text.hexPair? digits with
    | none => return .refuse (malformed .badChecksum)
    | some declared =>
      andThen (Checksum.verify mode .tagBlock declared (Checksum.ofText covered)) fun ok => do
        return .ofExcept ((← parameters covered ok).mapError malformed)

theorem group?_eq_ok (value : List Char) : group? value = .ok (TagBlock.group? value) := by
  rw [group?, cutFirst?_eq_ok rfl, ok_bind, TagBlock.group?]
  cases Text.cutFirst? '-' value with
  | none => rfl
  | some parts =>
    obtain ⟨first, rest⟩ := parts
    dsimp only
    rw [cutFirst?_eq_ok rfl, ok_bind]
    cases hrest : Text.cutFirst? '-' rest <;> simp [hrest]

theorem assign_eq_ok (block : TagBlock) (key value : List Char) :
    assign block key value = .ok (block.assign key value) := by
  rw [assign]
  split_ifs with hkey
  · subst hkey
    rw [group?_eq_ok, ok_bind, TagBlock.assign]
    cases TagBlock.group? value <;> rfl
  · rfl

theorem assignPiece_eq_ok (block : TagBlock) (piece : List Char) :
    assignPiece block piece = .ok (block.assignPiece piece) := by
  rw [assignPiece, cutFirst?_eq_ok rfl, ok_bind, TagBlock.assignPiece]
  cases Text.cutFirst? ':' piece with
  | none => rfl
  | some parts => exact assign_eq_ok block parts.1 parts.2

theorem assignPieces_eq_ok (block : TagBlock) (pieces : List (List Char)) :
    assignPieces block pieces = .ok (pieces.foldlM TagBlock.assignPiece block) := by
  induction pieces generalizing block with
  | nil => rfl
  | cons piece rest ih =>
    rw [assignPieces, assignPiece_eq_ok, ok_bind, List.foldlM_cons]
    cases block.assignPiece piece with
    | error flaw => rfl
    | ok block => exact ih block

theorem parameters_eq_ok (text : List Char) (checksumOk : Bool) :
    parameters text checksumOk = .ok (TagBlock.ofPieces text checksumOk) := by
  rw [parameters, pieces_eq_ok rfl, ok_bind, assignPieces_eq_ok, TagBlock.ofPieces]

theorem tagBlock_eq_ok (mode : ChecksumMode) (text : List Char) :
    tagBlock mode text = .ok (TagBlock.parse mode text) := by
  rw [tagBlock, cutLast?_eq_ok rfl, ok_bind, TagBlock.parse]
  cases Text.cutLast? '*' text with
  | none => rfl
  | some parts =>
    obtain ⟨covered, digits⟩ := parts
    cases hdigits : Text.hexPair? digits with
    | none => simp only [hdigits]; rfl
    | some declared =>
      simp only [hdigits]
      refine andThen_eq_ok (fun ok => ?_) _
      rw [parameters_eq_ok]
      rfl

/-! ### Sentences -/

/-- Separates a tag block in front from the rest of a line. -/
def leadingTagBlock (mode : ChecksumMode) (malformed : SentenceFlaw → Refusal) :
    List Char → Checked (Outcome (Option TagBlock × List Char))
  | '\\' :: rest => do
    match ← cutFirst? '\\' rest with
    | none => return .refuse (malformed .unterminatedTagBlock)
    | some (text, body) =>
      let block ← tagBlock mode text
      return do return (some (← block), body)
  | line => return pure (none, line)

/-- Splits off the checksum behind the last asterisk. -/
def bodyBehindMarker (inner : List Char) : Checked (Except SentenceFlaw Sentence.Body) := do
  match ← cutLast? '*' inner with
  | none => return .error .missingChecksum
  | some (covered, digits) =>
    match Text.hexPair? digits with
    | none => return .error .badChecksum
    | some declared => return .ok ⟨covered, declared⟩

def body? : List Char → Checked (Except SentenceFlaw Sentence.Body)
  | '!' :: inner | '$' :: inner => bodyBehindMarker inner
  | _ => return .error .missingMarker

/-- Reads the fields of a body whose address is split into talker and formatter. The first
field that is wrong decides the refusal. -/
def ofFields (malformed : SentenceFlaw → Refusal) (tagBlock : Option TagBlock)
    (body : Sentence.Body)
    (address talker formatter count index sequence channel payload fill : List Char) :
    Except Refusal Sentence := do
  let require {α : Type} (value : Option α) (flaw : SentenceFlaw) : Except Refusal α :=
    match value with
    | some a => .ok a
    | none => .error (malformed flaw)
  let some carrier := Carrier.ofFormatter? formatter
    | .error (.unsupportedCarrier (String.ofList address))
  let count ← require ((Text.oneOrTwoDigits? count).filter (1 ≤ ·)) .badFragmentCount
  let index ← require ((Text.oneOrTwoDigits? index).filter fun i => 1 ≤ i && i ≤ count)
    .badFragmentIndex
  let sequence ← require (Sentence.optional? Text.oneOrTwoDigits? sequence) .badSequence
  let channel ← require (Sentence.optional? Sentence.channel? channel) .badChannel
  unless payload.all Sentence.isGraphic do
    .error (malformed .badPayload)
  let fill ← require (Text.oneOrTwoDigits? fill) .badFill
  return {
    talker := String.ofList talker
    carrier := carrier
    fragmentCount := count
    fragmentIndex := index
    sequence := sequence
    channel := channel
    payload := String.ofList payload
    fill := fill
    checksum := body.declared
    checksumOk := body.declared == Checksum.ofText body.covered
    tagBlock := tagBlock }

/-- Takes the seven fields of a body. The address is split behind its second byte. -/
def ofBody (malformed : SentenceFlaw → Refusal) (tagBlock : Option TagBlock)
    (body : Sentence.Body) : Checked (Except Refusal Sentence) := do
  let fields ← pieces ',' body.covered
  if fields.length = 7 then
    let address ← entry fields 0
    if address.length = 5 ∧ address.all Char.isAlphanum then
      let (talker, formatter) ← cutAt 2 address
      return ofFields malformed tagBlock body address talker formatter (← entry fields 1)
        (← entry fields 2) (← entry fields 3) (← entry fields 4) (← entry fields 5)
        (← entry fields 6)
    else return .error (malformed .badAddress)
  else return .error (malformed .fieldCount)

def parse (mode : ChecksumMode) (line : String) : Checked (Outcome Sentence) := do
  let line := Sentence.stripped line.toList
  let malformed flaw := Refusal.malformedSentence flaw (String.ofList line)
  andThen (← leadingTagBlock mode malformed line) fun (tagBlock, text) => do
    andThen (.ofExcept ((← body? text).mapError malformed)) fun body => do
      andThen (.ofExcept (← ofBody malformed tagBlock body)) fun sentence =>
        andThen (Checksum.verify mode .sentence body.declared (Checksum.ofText body.covered))
          fun _ => return pure sentence

section

variable (mode : ChecksumMode) (malformed : SentenceFlaw → Refusal)

theorem leadingTagBlock_eq_ok (line : List Char) :
    leadingTagBlock mode malformed line = .ok (Sentence.leadingTagBlock mode malformed line) := by
  have hbackslash : '\\'.utf8Size = 1 := rfl
  fun_cases Sentence.leadingTagBlock mode malformed line <;>
    simp [leadingTagBlock, cutFirst?_eq_ok hbackslash, tagBlock_eq_ok, *]

theorem body?_eq_ok (text : List Char) : body? text = .ok (Sentence.body? text) := by
  have hasterisk : '*'.utf8Size = 1 := rfl
  fun_cases Sentence.body? text <;> simp [body?, bodyBehindMarker, cutLast?_eq_ok hasterisk, *]

theorem ofBody_eq_ok (tagBlock : Option TagBlock) (body : Sentence.Body) :
    ofBody malformed tagBlock body = .ok (Sentence.ofBody malformed tagBlock body) := by
  rw [ofBody, pieces_eq_ok rfl, ok_bind, Sentence.ofBody]
  generalize Text.pieces ',' body.covered = fields
  by_cases hlength : fields.length = 7
  · match fields, hlength with
    | [address, count, index, sequence, channel, payload, fill], hlength =>
      rw [if_pos hlength, entry_cons_zero, ok_bind]
      by_cases haddress : address.length = 5 ∧ address.all Char.isAlphanum
      · have hcut : cutAt 2 address = .ok (address.take 2, address.drop 2) :=
          cutAt_of_alphanum haddress.2 (by omega)
        simp only [if_pos haddress, hcut]
        rfl
      · simp only [if_neg haddress]
        rfl
  · rw [if_neg hlength]
    split
    case h_1 => exact absurd rfl hlength
    case h_2 => rfl

end

theorem parse_eq_ok (mode : ChecksumMode) (line : String) :
    parse mode line = .ok (Sentence.parse mode line) := by
  rw [parse, leadingTagBlock_eq_ok, ok_bind]
  refine andThen_eq_ok (fun leading => ?_) _
  simp only [body?_eq_ok, ok_bind]
  refine andThen_eq_ok (fun body => ?_) _
  rw [ofBody_eq_ok, ok_bind]
  refine andThen_eq_ok (fun sentence => ?_) _
  exact andThen_eq_ok (fun _ => rfl) _

end Checked

end VesselTraffic
