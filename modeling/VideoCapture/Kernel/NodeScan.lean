import VideoCapture.Fault
import VideoCapture.Text.Utf8
/-!
# Candidate devices in natural order

The entries of a directory are candidates unless they are directories or their names are no text.
They are sorted by the part of the name before its last digits and then by the number those digits
make, so that `video2` comes before `video10`.
-/
namespace VideoCapture.Kernel

/-- What an entry of a directory is, links not followed. -/
inductive EntryKind
  | file
  | directory
  | link
  deriving DecidableEq, Repr, Inhabited

structure DirectoryEntry where
  name : List UInt8
  kind : EntryKind
  deriving DecidableEq, Repr, Inhabited

def isDigitOctet (b : UInt8) : Bool := 48 ≤ b && b ≤ 57

/-- A name before its last digits, and those digits. -/
def splitDigits (name : List UInt8) : List UInt8 × List UInt8 :=
  ((name.reverse.dropWhile isDigitOctet).reverse,(name.reverse.takeWhile isDigitOctet).reverse)

/-- The number that digits make; zero if there are none or it does not fit in 64 bits. -/
def numberOf (digits : List UInt8) : Nat :=
  let n := digits.foldl (fun n b => n * 10 + (b.toNat - 48)) 0
  if n < UInt64.size then n else 0

def sortKey (name : List UInt8) : List UInt8 × Nat :=
  ((splitDigits name).1,numberOf (splitDigits name).2)

/-- Whether a name may stand before another. -/
def naturalLe (a b : List UInt8) : Bool :=
  let (stemA,numberA) := sortKey a
  let (stemB,numberB) := sortKey b
  decide (stemA < stemB) || (stemA == stemB && decide (numberA ≤ numberB))

/-- Whether an entry is a candidate. -/
def isCandidate (entry : DirectoryEntry) : Bool :=
  entry.kind ≠ .directory && (Utf8.decode? entry.name).isSome

def joinPath (directory name : String) : String :=
  if directory = "" ∨ directory.endsWith "/" then directory ++ name
  else directory ++ "/" ++ name

/-- The names of the candidates in natural order, equal keys in the order they were read. -/
def candidateNames (entries : List DirectoryEntry) : List (List UInt8) :=
  ((entries.filter isCandidate).map (·.name)).mergeSort naturalLe

def candidatePaths (directory : String) (entries : List DirectoryEntry) : List String :=
  (candidateNames entries).map fun name =>
    joinPath directory (String.ofList (Utf8.decodeLossy name))

def scan (directory : String) (listing : Except Fault (List DirectoryEntry)) :
    Except Fault (List String) := listing.map (candidatePaths directory)

end VideoCapture.Kernel
