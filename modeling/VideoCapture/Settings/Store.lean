import VideoCapture.Settings.KeyMap
/-!
# The settings store

Scalars under text keys. A key has a value of its own, or a default, or neither; a reader of a
missing value or of one of the other type gets zero or the empty text.
-/
namespace VideoCapture

inductive Setting
  | int (n : Int64)
  | text (s : String)
  deriving DecidableEq, Inhabited

/-- A store of scalars with defaults kept apart. -/
structure Settings where
  values : KeyMap Setting
  /-- What counts where no value was set. -/
  defaults : KeyMap Setting
  deriving DecidableEq, Inhabited

namespace Settings

def empty : Settings := ⟨.empty,.empty⟩

/-- The value of a key, else its default. -/
def lookup (s : Settings) (key : String) : Option Setting :=
  (s.values.find? key).or (s.defaults.find? key)

/-- The text under a key; empty if there is none. -/
def getText (s : Settings) (key : String) : String :=
  match s.lookup key with
  | some (.text t) => t
  | _ => ""

def getInt (s : Settings) (key : String) : Int64 :=
  match s.lookup key with
  | some (.int n) => n
  | _ => 0

/-- The low 32 bits of the whole number under a key. -/
def getWord (s : Settings) (key : String) : UInt32 := (s.getInt key).toUInt64.toUInt32

def set (s : Settings) (key : String) (v : Setting) : Settings :=
  { s with values := s.values.insert key v }

def setText (s : Settings) (key : String) (t : String) : Settings := s.set key (.text t)

def setInt (s : Settings) (key : String) (n : Int64) : Settings := s.set key (.int n)

def setWord (s : Settings) (key : String) (n : UInt32) : Settings :=
  s.setInt key n.toUInt64.toInt64

def setDefault (s : Settings) (key : String) (v : Setting) : Settings :=
  { s with defaults := s.defaults.insert key v }

def hasValue (s : Settings) (key : String) : Bool := s.values.contains key

/-- Takes the value of a key out, so that its default counts again. -/
def remove (s : Settings) (key : String) : Settings := { s with values := s.values.erase key }

/-- Puts every value of another store over the values of this one. -/
def merge (s other : Settings) : Settings := { s with values := s.values.merge other.values }

end Settings
end VideoCapture
