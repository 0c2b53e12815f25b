import CronLint.Text.Range
import CronLint.Text.Table.WordCharacter

/-!
# Characters of words
-/
namespace CronLint.Text

def isWordChar (c : Char) : Bool := inRanges wordRanges c

/-- Whether a word that has just ended may stop here: nothing follows it, or no word character. -/
def atWordEnd : List Char → Bool
  | [] => true
  | c :: _ => !isWordChar c

end CronLint.Text
