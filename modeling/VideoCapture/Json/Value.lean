import VideoCapture.Text.Escape
/-!
# JSON values and their texts

`compact` writes a value without white space, `pretty` with a line per member and two spaces
per level. In a string only quotes, backslashes and control characters are escaped.
-/
namespace VideoCapture.Json

/-- A JSON value. Numbers are whole numbers or floats, told apart by how they are written. -/
inductive Value
  | null
  | bool (b : Bool)
  | int (n : Int)
  | float (x : Float)
  | str (s : String)
  | list (items : List Value)
  | object (members : List (String × Value))
  deriving Inhabited

def Value.nat (n : Nat) : Value := .int n

def escapeChar (c : Char) : List Char :=
  if c = '"' then ['\\','"']
  else if c = '\\' then ['\\','\\']
  else if c = '\x08' then ['\\','b']
  else if c = '\x0C' then ['\\','f']
  else if c = '\n' then ['\\','n']
  else if c = '\r' then ['\\','r']
  else if c = '\t' then ['\\','t']
  else if c.toNat < 0x20 then ['\\','u','0','0'] ++ Text.hexOctet (UInt8.ofNat c.toNat)
  else [c]

def quote (s : String) : List Char := '"' :: (s.toList.flatMap escapeChar ++ ['"'])

def separated (sep : List Char) : List (List Char) → List Char
  | [] => []
  | [t] => t
  | t :: u :: ts => t ++ sep ++ separated sep (u :: ts)

namespace Value

mutual

/-- A value without white space. -/
def compactChars : Value → List Char
  | null => "null".toList
  | bool b => (if b then "true" else "false").toList
  | int n => (toString n).toList
  | float x => (toString x).toList
  | str s => quote s
  | list items => '[' :: (separated [','] (compactItems items) ++ [']'])
  | object members => '{' :: (separated [','] (compactMembers members) ++ ['}'])

def compactItems : List Value → List (List Char)
  | [] => []
  | v :: vs => compactChars v :: compactItems vs

def compactMembers : List (String × Value) → List (List Char)
  | [] => []
  | (k,v) :: ms => (quote k ++ ':' :: compactChars v) :: compactMembers ms

end

def compact (v : Value) : String := String.ofList v.compactChars

/-- Lines of a list or an object between its brackets; an empty one stays on one line. -/
def block (opening closing : Char) (level : Nat) (items : List (List Char)) : List Char :=
  if items.isEmpty then [opening,closing]
  else
    let inner := '\n' :: List.replicate (2 * (level + 1)) ' '
    let outer := '\n' :: List.replicate (2 * level) ' '
    opening :: (inner ++ separated (',' :: inner) items ++ outer ++ [closing])

mutual

/-- A value over several lines, at a level of nesting. -/
def prettyChars (level : Nat) : Value → List Char
  | list items => block '[' ']' level (prettyItems (level + 1) items)
  | object members => block '{' '}' level (prettyMembers (level + 1) members)
  | null => "null".toList
  | bool b => (if b then "true" else "false").toList
  | int n => (toString n).toList
  | float x => (toString x).toList
  | str s => quote s

def prettyItems (level : Nat) : List Value → List (List Char)
  | [] => []
  | v :: vs => prettyChars level v :: prettyItems level vs

def prettyMembers (level : Nat) : List (String × Value) → List (List Char)
  | [] => []
  | (k,v) :: ms => (quote k ++ ':' :: ' ' :: prettyChars level v) :: prettyMembers level ms

end

def pretty (v : Value) : String := String.ofList (v.prettyChars 0)

end Value
end VideoCapture.Json
