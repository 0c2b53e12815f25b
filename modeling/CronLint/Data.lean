/-!
# Untyped data

What a configuration file or a request holds before it is checked.
-/
namespace CronLint

/-- A value of any type. `other` stands for types that no setting has. -/
inductive Data where
  | null
  | flag (b : Bool)
  | integer (n : Int)
  | real (x : Float)
  | text (s : String)
  | list (items : List Data)
  | mapping (entries : List (Data × Data))
  | other
  deriving Inhabited

namespace Data

def isText (s : String) : Data → Bool
  | text t => t == s
  | _ => false

/-- The value of the last entry of a mapping whose key is a text. -/
def get? (entries : List (Data × Data)) (key : String) : Option Data :=
  (entries.reverse.find? fun entry => entry.1.isText key).map (·.2)

end Data

end CronLint
