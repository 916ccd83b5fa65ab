import VideoCapture.Json.Scan
import VideoCapture.Json.Value
/-!
# Reading JSON texts

`anyValue` reads a value of any shape; the other readers ask for a shape and refuse any other.
Records are read from an object, whatever else it holds, or from a list of their members in
order. Nested lists and objects are read by recursion on a bound that the text's length gives.
-/
namespace VideoCapture.Json

/-! ## Lists and objects from inside -/

/-- Whether another item of a list follows. A closing bracket is left in place. -/
def anotherItem (first : Bool) : Reader Bool := fun cs =>
  match skipSpace cs with
  | [] => .error .truncated
  | ']' :: rest => .ok (false,']' :: rest)
  | c :: rest =>
    if first then .ok (true,c :: rest)
    else if c = ',' then
      match skipSpace rest with
      | [] => .error .truncated
      | ']' :: _ => .error .malformed
      | rest => .ok (true,rest)
    else .error .malformed

/-- Whether another member of an object follows; if so, the quote before its key is taken off.
    A closing bracket is left in place. -/
def anotherKey (first : Bool) : Reader Bool := fun cs =>
  match skipSpace cs with
  | [] => .error .truncated
  | '}' :: rest => .ok (false,'}' :: rest)
  | '"' :: rest => if first then .ok (true,rest) else .error .malformed
  | ',' :: rest =>
    if first then .error .malformed
    else
      match skipSpace rest with
      | [] => .error .truncated
      | '"' :: rest => .ok (true,rest)
      | _ => .error .malformed
  | _ => .error .malformed

def expect (mark : Char) (cs : List Char) : Except Defect (List Char) :=
  match skipSpace cs with
  | [] => .error .truncated
  | c :: rest => if c = mark then .ok rest else .error .malformed

/-! ## Values of any shape -/

/-- A value that is neither a list nor an object, at the front of a text without space. -/
def scalar : Reader Value := fun cs =>
  match cs with
  | [] => .error .truncated
  | 'n' :: rest => (name "ull".toList rest).map fun rest => (.null,rest)
  | 't' :: rest => (name "rue".toList rest).map fun rest => (.bool true,rest)
  | 'f' :: rest => (name "alse".toList rest).map fun rest => (.bool false,rest)
  | '"' :: rest => (stringBody rest).map fun (s,rest) => (.str s,rest)
  | '-' :: rest => (number true rest).map signed
  | c :: _ => if Numeral.isDigit c then (number false cs).map signed else .error .malformed
where
  signed : Number × List Char → Value × List Char
    | (.int n,rest) => (.int n,rest)
    | (.float x,rest) => (.float x,rest)

/-- The levels of nesting that a value may have. -/
def maxDepth : Nat := 127

mutual

def valueWithin : Nat → Nat → Reader Value
  | 0, _, _ => .error .malformed
  | fuel + 1, depth, cs =>
    match skipSpace cs, depth with
    | '[' :: _, 0 | '{' :: _, 0 => .error .malformed
    | '[' :: rest, depth + 1 => do
      let (items,rest) ← itemsWithin fuel depth true rest
      return (.list items,rest)
    | '{' :: rest, depth + 1 => do
      let (members,rest) ← membersWithin fuel depth true rest
      return (.object members,rest)
    | cs, _ => scalar cs

/-- The items of a list up to and with its closing bracket. -/
def itemsWithin : Nat → Nat → Bool → Reader (List Value)
  | 0, _, _, _ => .error .malformed
  | fuel + 1, depth, first, cs => do
    let (more,rest) ← anotherItem first cs
    if more then
      let (v,rest) ← valueWithin fuel depth rest
      let (vs,rest) ← itemsWithin fuel depth false rest
      return (v :: vs,rest)
    else return ([],← expect ']' rest)

def membersWithin : Nat → Nat → Bool → Reader (List (String × Value))
  | 0, _, _, _ => .error .malformed
  | fuel + 1, depth, first, cs => do
    let (more,rest) ← anotherKey first cs
    if more then
      let (k,rest) ← stringBody rest
      let rest ← expect ':' rest
      let (v,rest) ← valueWithin fuel depth rest
      let (ms,rest) ← membersWithin fuel depth false rest
      return ((k,v) :: ms,rest)
    else return ([],← expect '}' rest)

end

/-- A value of any shape with at most `depth` levels of nesting. Each level and each item takes
    at least one character, so the bound is never met. -/
def anyValue (depth : Nat) : Reader Value := fun cs => valueWithin (2 * cs.length + 2) depth cs

/-! ## Values that are passed over -/

/-- The text after a string whose opening quote has been read. Escapes must be well formed but
    need not stand for characters. -/
def passString : Nat → List Char → Except Defect (List Char)
  | 0, _ => .error .truncated
  | fuel + 1, cs =>
    match cs with
    | [] | ['\\'] => .error .truncated
    | '"' :: rest => .ok rest
    | '\\' :: 'u' :: rest => do
      let (_,rest) ← hexQuad rest
      passString fuel rest
    | '\\' :: c :: rest =>
      if (simpleEscape? c).isSome then passString fuel rest else .error .malformed
    | c :: rest => if c.toNat < 0x20 then .error .malformed else passString fuel rest

/-- The text after the digits at its front, of which there is at least one. -/
def passDigits (cs : List Char) : Except Defect (List Char) :=
  if cs.head?.any Numeral.isDigit then .ok (cs.dropWhile Numeral.isDigit) else .error .malformed

def passExponent : List Char → Except Defect (List Char)
  | 'e' :: rest | 'E' :: rest =>
    match rest with
    | '+' :: rest | '-' :: rest => passDigits rest
    | _ => passDigits rest
  | cs => .ok cs

def passNumber (cs : List Char) : Except Defect (List Char) := do
  let rest ← match cs with
    | '0' :: rest => if rest.head?.any Numeral.isDigit then .error .malformed else .ok rest
    | _ => passDigits cs
  match rest with
  | '.' :: rest => passExponent (← passDigits rest)
  | _ => passExponent rest

def passScalar (cs : List Char) : Except Defect (List Char) :=
  match cs with
  | '"' :: rest => passString (rest.length + 1) rest
  | '-' :: rest => passNumber rest
  | c :: _ => if Numeral.isDigit c then passNumber cs else (scalar cs).map (·.2)
  | [] => .error .truncated

mutual

def passWithin : Nat → List Char → Except Defect (List Char)
  | 0, _ => .error .malformed
  | fuel + 1, cs =>
    match skipSpace cs with
    | '[' :: rest => passItems fuel true rest
    | '{' :: rest => passMembers fuel true rest
    | cs => passScalar cs

def passItems : Nat → Bool → List Char → Except Defect (List Char)
  | 0, _, _ => .error .malformed
  | fuel + 1, first, cs => do
    let (more,rest) ← anotherItem first cs
    if more then passItems fuel false (← passWithin fuel rest) else expect ']' rest

def passMembers : Nat → Bool → List Char → Except Defect (List Char)
  | 0, _, _ => .error .malformed
  | fuel + 1, first, cs => do
    let (more,rest) ← anotherKey first cs
    if more then
      let rest ← passString (rest.length + 1) rest
      let rest ← expect ':' rest
      passMembers fuel false (← passWithin fuel rest)
    else expect '}' rest

end

def pass (cs : List Char) : Except Defect (List Char) := passWithin (2 * cs.length + 2) cs

/-! ## Values of a given shape -/

/-- Refuses the value at the front of a text. A string, number or name must be well formed to
    have the wrong shape. -/
def refuse {α : Type} (cs : List Char) : Except Defect α :=
  match skipSpace cs with
  | '[' :: _ | '{' :: _ => .error .mismatch
  | cs => scalar cs >>= fun _ => .error .mismatch

def string : Reader String := fun cs =>
  match skipSpace cs with
  | '"' :: rest => stringBody rest
  | cs => refuse cs

def anyNumber : Reader Number := fun cs =>
  match skipSpace cs with
  | '-' :: rest => number true rest
  | c :: rest => if Numeral.isDigit c then number false (c :: rest) else refuse (c :: rest)
  | [] => .error .truncated

def word32 : Reader UInt32 := fun cs => do
  match ← anyNumber cs with
  | (.int n,rest) =>
    if 0 ≤ n ∧ n < UInt32.size then return (UInt32.ofNat n.toNat,rest) else throw .mismatch
  | (.float _,_) => throw .mismatch

/-- A number rounded to a float of 32 bits, a float by way of 64 bits. -/
def float32 : Reader Float32 := fun cs => do
  match ← anyNumber cs with
  | (.int n,rest) =>
    return (if n < 0 then (Int64.ofInt n).toFloat32 else (UInt64.ofNat n.toNat).toFloat32,rest)
  | (.float x,rest) => return (x.toFloat32,rest)

/-- Exactly `count` items of a list, from inside. -/
def exactItems {α : Type} (item : Reader α) : Nat → Bool → Reader (List α)
  | 0, _, cs => .ok ([],cs)
  | count + 1, first, cs => do
    let (more,rest) ← anotherItem first cs
    if more then
      let (x,rest) ← item rest
      let (xs,rest) ← exactItems item count false rest
      return (x :: xs,rest)
    else throw .mismatch

def vector {α : Type} (item : Reader α) (count : Nat) : Reader (List α) := fun cs =>
  match skipSpace cs with
  | '[' :: rest => do
    let (xs,rest) ← exactItems item count true rest
    return (xs,← expect ']' rest)
  | cs => refuse cs

/-- The members of an object up to and with its closing bracket. Each key is handed to `step`,
    which reads on from behind the key. -/
def membersLoop {ρ : Type} (step : ρ → String → Reader ρ) : Nat → Bool → ρ → Reader ρ
  | 0, _, _, _ => .error .malformed
  | fuel + 1, first, state, cs => do
    let (more,rest) ← anotherKey first cs
    if more then
      let (key,rest) ← stringBody rest
      let (state,rest) ← step state key rest
      membersLoop step fuel false state rest
    else return (state,← expect '}' rest)

def object {ρ : Type} (step : ρ → String → Reader ρ) (blank : ρ) : Reader ρ := fun cs =>
  match skipSpace cs with
  | '{' :: rest => membersLoop step (rest.length + 1) true blank rest
  | cs => refuse cs

/-- A member of a record of type `ρ` that is filled in piece by piece. -/
structure Member (ρ : Type) where
  name : String
  isSet : ρ → Bool
  /-- Reads the member's value into the record. -/
  read : ρ → Reader ρ

/-- Reads the value of one member of an object. A member must not come twice; a key that is no
    member's is passed over. -/
def memberStep {ρ : Type} (members : List (Member ρ)) (state : ρ) (key : String) : Reader ρ :=
  fun cs =>
    match members.find? (·.name == key) with
    | some member =>
      if member.isSet state then .error .mismatch
      else do member.read state (← expect ':' cs)
    | none => do
      let rest ← expect ':' cs
      return (state,← pass rest)

def membersInOrder {ρ : Type} : List (Member ρ) → Bool → ρ → Reader ρ
  | [], _, state, cs => .ok (state,cs)
  | member :: members, first, state, cs => do
    let (more,rest) ← anotherItem first cs
    if more then
      let (state,rest) ← member.read state rest
      membersInOrder members false state rest
    else throw .mismatch

/-- A record, from an object or from a list; `complete?` gives it once nothing is missing. -/
def record {ρ α : Type} (members : List (Member ρ)) (blank : ρ) (complete? : ρ → Option α) :
    Reader α := fun cs => do
  let (state,rest) ← match skipSpace cs with
    | '[' :: rest => do
      let (state,rest) ← membersInOrder members true blank rest
      pure (state,← expect ']' rest)
    | cs => object (memberStep members) blank cs
  match complete? state with
  | some x => return (x,rest)
  | none => throw .mismatch

/-- One of several constants: its name as a string, or an object whose only member has that name
    and the value `null`. -/
def constant {α : Type} (ofName? : String → Option α) : Reader α := fun cs =>
  match skipSpace cs with
  | [] => .error .truncated
  | '"' :: rest => named (stringBody rest)
  | '{' :: rest => do
    let (x,rest) ← named (string rest)
    let rest ← expect ':' rest
    let rest ← match skipSpace rest with
      | 'n' :: rest => Json.name "ull".toList rest
      | rest => refuse rest
    return (x,← expect '}' rest)
  | _ => .error .malformed
where
  named (read : Except Defect (String × List Char)) : Except Defect (α × List Char) := do
    let (s,rest) ← read
    match ofName? s with
    | some x => return (x,rest)
    | none => throw .mismatch

/-- The value that a whole text holds. Only white space may follow it. -/
def read {α : Type} (reader : Reader α) (text : String) : Except Defect α := do
  let (x,rest) ← reader text.toList
  if skipSpace rest = [] then return x else throw .malformed

end VideoCapture.Json
