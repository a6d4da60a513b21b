import Homeflow.Lib.PyFloat

-- A parsed JSON document. An object keeps its members in the order they were read.
inductive Json where
  | null
  | bool (value : Bool)
  | int (value : Int)
  | float (value : PyFloat)
  | str (value : String)
  | arr (items : List Json)
  | obj (members : List (String × Json))

namespace Json

-- dict.get on a parsed object.
def member? (members : List (String × Json)) (key : String) : Option Json :=
  (members.find? fun entry => entry.1 = key).map Prod.snd

-- Whether a value counts as true.
def truthy : Json → Bool
  | .null => false
  | .bool value => value
  | .int value => value ≠ 0
  | .float value => value ≠ .finite 0
  | .str value => value ≠ ""
  | .arr items => !items.isEmpty
  | .obj members => !members.isEmpty

-- Whether a dict can look a value up.
def hashable : Json → Bool
  | .arr _ | .obj _ => false
  | _ => true

-- Comparison of a value with a text, and with an integer.
def eqStr (value : Option Json) (text : String) : Bool :=
  match value with
  | some (.str found) => found = text
  | _ => false

def eqInt (value : Option Json) (number : Int) : Bool :=
  match value with
  | some (.int found) => found = number
  | some (.float (.finite found)) => found = number
  | some (.bool found) => (if found then 1 else 0) = number
  | _ => false

end Json
