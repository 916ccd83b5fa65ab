import VideoCapture.Json.Value
/-!
# Looking into JSON values

Parts of a value by key or position. A part that is absent or of another kind reads as its blank
value: null, zero, the empty text or the empty list.
-/
namespace VideoCapture.Json.Value

/-- The member with a key; null if there is none. -/
def field (v : Value) (key : String) : Value :=
  match v with
  | .object members => (members.lookup key).getD .null
  | _ => .null

def has (v : Value) (key : String) : Bool := !(v.field key) matches .null

/-- The item at a position; null if there is none. -/
def item (v : Value) (index : Nat) : Value :=
  match v with
  | .list items => (items[index]?).getD .null
  | _ => .null

def items : Value → List Value
  | .list items => items
  | _ => []

def members : Value → List (String × Value)
  | .object members => members
  | _ => []

def optional {α : Type} (read : Value → α) : Value → Option α
  | .null => none
  | v => some (read v)

def toInt : Value → Int
  | .int n => n
  | _ => 0

def toNat (v : Value) : Nat := v.toInt.toNat

def toWord (v : Value) : UInt32 := UInt32.ofNat v.toNat

def toText : Value → String
  | .str s => s
  | _ => ""

def toBool : Value → Bool
  | .bool b => b
  | _ => false

def word (n : UInt32) : Value := .nat n.toNat

def orNull {α : Type} (write : α → Value) : Option α → Value
  | some x => write x
  | none => .null

end VideoCapture.Json.Value
