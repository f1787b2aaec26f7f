/-!
# Reading UTF-8

The bytes are read by a machine that remembers an unfinished character. Each
maximal piece that no character can begin with counts as one malformed item, so
a repair writes one replacement character for it.
-/
namespace VesselTraffic.Text.Utf8

/-- A character whose next byte has to lie between `low` and `high`, with
`missing` more bytes after that one. -/
structure Unfinished where
  bits : Nat
  missing : Nat
  low : UInt8
  high : UInt8
  deriving DecidableEq, Repr

/-- What a first byte announces: a whole character, the rest of one, or nothing. -/
inductive Opening
  | whole (c : Char)
  | rest (u : Unfinished)
  | malformed

def opening (b : UInt8) : Opening :=
  if b < 0x80 then .whole (Char.ofNat b.toNat)
  else if b < 0xc2 then .malformed
  else if b < 0xe0 then .rest ⟨b.toNat - 0xc0, 0, 0x80, 0xbf⟩
  else if b = 0xe0 then .rest ⟨0, 1, 0xa0, 0xbf⟩
  else if b = 0xed then .rest ⟨0xd, 1, 0x80, 0x9f⟩
  else if b < 0xf0 then .rest ⟨b.toNat - 0xe0, 1, 0x80, 0xbf⟩
  else if b = 0xf0 then .rest ⟨0, 2, 0x90, 0xbf⟩
  else if b < 0xf4 then .rest ⟨b.toNat - 0xf0, 2, 0x80, 0xbf⟩
  else if b = 0xf4 then .rest ⟨4, 2, 0x80, 0x8f⟩
  else .malformed

/-- Characters read, `none` standing for a malformed piece. -/
abbrev Items := List (Option Char)

/-- A byte where a character begins. -/
def first (b : UInt8) : Items × Option Unfinished :=
  match opening b with
  | .whole c => ([some c], none)
  | .rest u => ([], some u)
  | .malformed => ([none], none)

/-- A byte inside a character. One that does not continue it begins another. -/
def within (u : Unfinished) (b : UInt8) : Items × Option Unfinished :=
  if u.low ≤ b ∧ b ≤ u.high then
    let bits := 64 * u.bits + (b.toNat - 0x80)
    match u.missing with
    | 0 => ([some (Char.ofNat bits)], none)
    | n + 1 => ([], some ⟨bits, n, 0x80, 0xbf⟩)
  else
    let (items, next) := first b
    (none :: items, next)

def step : Option Unfinished → UInt8 → Items × Option Unfinished
  | none, b => first b
  | some u, b => within u b

def run : Option Unfinished → List UInt8 → Items
  | none, [] => []
  | some _, [] => [none]
  | state, b :: bytes => (step state b).1 ++ run (step state b).2 bytes

def items (bytes : List UInt8) : Items := run none bytes

/-- Every malformed piece becomes the replacement character. -/
def repaired (bytes : List UInt8) : List Char := (items bytes).map (·.getD '\ufffd')

/-- The text, if no piece is malformed. -/
def decode? (bytes : List UInt8) : Option (List Char) := (items bytes).mapM id

/-- The bytes of a text. -/
def encode (cs : List Char) : List UInt8 := cs.flatMap String.utf8EncodeChar

example : decode? [0x61, 0xc3, 0xa9, 0xf0, 0x9f, 0x9a, 0xa2] = some ['a', 'é', '🚢'] := by decide
example : repaired [0xe6, 0x97, 0x0a, 0xff, 0xed, 0xa0, 0x80]
    = ['\ufffd', '\n', '\ufffd', '\ufffd', '\ufffd', '\ufffd'] := by decide
example : decode? [0xf4, 0x90, 0x80, 0x80] = none := by decide

end VesselTraffic.Text.Utf8
