import CronLint.Text.Split

/-!
# Blanks and words

A blank is any character with the white space property, in any script, or one of the four ASCII
information separators. Words are the longest stretches without a blank.
-/
namespace CronLint.Text

def isBlank (c : Char) : Bool :=
  let n := c.toNat
  (9 ≤ n && n ≤ 13) || (28 ≤ n && n ≤ 32) || n == 0x85 || n == 0xa0 || n == 0x1680 ||
    (0x2000 ≤ n && n ≤ 0x200a) || n == 0x2028 || n == 0x2029 || n == 0x202f || n == 0x205f ||
    n == 0x3000

def trimStart (cs : List Char) : List Char := cs.dropWhile isBlank

def trimEnd (cs : List Char) : List Char := (cs.reverse.dropWhile isBlank).reverse

def trim (cs : List Char) : List Char := trimEnd (trimStart cs)

def words (cs : List Char) : List (List Char) :=
  (segments isBlank cs).filter fun w => !w.isEmpty

/-- The first `n` words and the text that starts at the next word. If there are fewer words, the
missing ones are empty, and so is the remaining text. -/
def takeWords : Nat → List Char → List (List Char) × List Char
  | 0, cs => ([], trimStart cs)
  | n + 1, cs =>
    let cs := trimStart cs
    let rest := takeWords n (cs.dropWhile (!isBlank ·))
    (cs.takeWhile (!isBlank ·) :: rest.1, rest.2)

end CronLint.Text
