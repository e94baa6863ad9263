/-!
# Nodes

The structure of a document: scalars, sequences and mappings, aliases replaced by what
they stand for. An alias to a collection that it stands in is a loop.
-/

namespace TelephonyAlerts.Yaml

inductive Kind
  | null
  | bool
  | int
  | float
  | time
  deriving DecidableEq, Repr

/-- How the text of a scalar is read. -/
inductive Reading
  | implicit
  | text
  | kind (k : Kind)
  | unknown
  deriving DecidableEq, Repr

/-- A node of a document. A collection whose tag is that of no such collection is not
`known`. -/
inductive Node
  | scalar (reading : Reading) (text : String)
  | sequence (known : Bool) (items : List Node)
  | mapping (known : Bool) (entries : List (Node × Node))
  | loop (isMap : Bool)
  deriving Repr, Inhabited

namespace Node

def empty : Node := scalar .implicit ""

/-- Whether a key takes over the entries of other mappings. -/
def isMerge : Node → Bool
  | scalar .implicit text => text == "<<"
  | _ => false

/-- Whether a key stands for itself, though elsewhere it could not. -/
def isDefault : Node → Bool
  | scalar .implicit text => text == "="
  | _ => false

end Node

end TelephonyAlerts.Yaml
