/-!
# White space

The characters with the Unicode property of being white space, and the trimming
of a text at either end by any property of characters.
-/
namespace VesselTraffic.Text

/-- The Unicode property `White_Space`. -/
def isBlank (c : Char) : Bool :=
  let n := c.toNat
  (9 ≤ n && n ≤ 13) || n == 0x20 || n == 0x85 || n == 0xa0 || n == 0x1680
    || (0x2000 ≤ n && n ≤ 0x200a) || n == 0x2028 || n == 0x2029 || n == 0x202f
    || n == 0x205f || n == 0x3000

def trimStart (p : Char → Bool) (cs : List Char) : List Char := cs.dropWhile p

def trimEnd (p : Char → Bool) (cs : List Char) : List Char := (cs.reverse.dropWhile p).reverse

/-- Drops the white space at both ends. -/
def trim (cs : List Char) : List Char := trimEnd isBlank (trimStart isBlank cs)

example : trim " \ta b\u3000".toList = "a b".toList := by decide
example : ['\t', '\x0b', ' ', '\u0085', '\u00a0', '\u2009', '\u202f'].all isBlank = true := by decide
example : ['\u180e', '\u200b', '\ufeff', 'x'].any isBlank = false := by decide

end VesselTraffic.Text
