/-!
# What shows of a text

A text without the characters that a terminal obeys. Single control characters are left out, and so
are the sequences that begin with an escape character: control functions, commands that a bell ends,
and strings up to their terminator. White space that interrupts a sequence shows, and so does what
follows it, up to the next control character that does not show.
-/
namespace VideoCapture.Text

/-- The control characters that begin a sequence, break one off, or end a command. -/
def escapeSign : Char := '\x1b'
@[inherit_doc escapeSign] def cancelSign : Char := '\x18'
@[inherit_doc escapeSign] def substituteSign : Char := '\x1a'
@[inherit_doc escapeSign] def bellSign : Char := '\x07'

def isBlankControl (c : Char) : Bool := c = '\t' || c = '\n' || c = '\x0c' || c = '\r'

/-- Whether a character shows where no sequence has begun. Of the control characters only those of
    seven bits do not show. -/
def isShown (c : Char) : Bool := isBlankControl c || (' ' ≤ c && c ≠ '\x7f')

/-- A sequence that has begun, by what is known of it. -/
inductive Sequence
  | escape
  /-- It ends with the first sign that is neither a blank nor punctuation. -/
  | selection
  /-- A control function, which ends with a letter or a sign like one. -/
  | control
  /-- A string for the device, with nothing of its head yet. -/
  | deviceString
  /-- A string for the device, within the parameters of its head. -/
  | deviceParameters
  /-- A string for the device, within the punctuation of its head. -/
  | deviceSelection
  | string
  | command
  deriving DecidableEq, Repr, Inhabited

namespace Sequence

def showsBlank : Sequence → Bool
  | .escape | .selection | .control => true
  | .deviceString | .deviceParameters | .deviceSelection | .string | .command => false

/-- Whether one of the octets of a character ends a string. -/
def terminates (c : Char) : Bool := (String.utf8EncodeChar c).contains 0x9C

def afterSign (s : Sequence) (c : Char) : Option Sequence :=
  let punctuation := c ≤ '/'
  let parameter := c ≤ '?'
  match s with
  | .escape =>
    if punctuation then some .selection
    else match c with
      | 'P' => some .deviceString
      | 'X' | '^' | '_' => some .string
      | '[' => some .control
      | ']' => some .command
      | _ => none
  | .selection => if punctuation then some .selection else none
  | .control => if parameter then some .control else none
  | .deviceString =>
    if punctuation then some .deviceSelection
    else if parameter then some .deviceParameters else some .string
  | .deviceParameters =>
    if punctuation then some .deviceSelection
    else if c ≤ ';' then some .deviceParameters else some .string
  | .deviceSelection => if punctuation then some .deviceSelection else some .string
  | .string => some .string
  | .command => some .command

/-- A sequence after one more character, or nothing where that ends it. -/
def after (s : Sequence) (c : Char) : Option Sequence :=
  if c = escapeSign then some .escape
  else if c = cancelSign ∨ c = substituteSign then none
  else if '\x7f' < c then if s = .string ∧ terminates c then none else some s
  else if c = bellSign ∧ s = .command then none
  else if ' ' ≤ c ∧ c ≠ '\x7f' then s.afterSign c
  else some s

end Sequence

inductive Display
  | clear
  | within (s : Sequence)
  /-- As text between two parts of a sequence. -/
  | between (s : Sequence)
  deriving DecidableEq, Repr, Inhabited

namespace Display

def ofSequence : Option Sequence → Display
  | some s => .within s
  | none => .clear

/-- After a character, and whether that shows. -/
def step (d : Display) (c : Char) : Bool × Display :=
  match d with
  | .clear => (isShown c,if c = escapeSign then .within .escape else .clear)
  | .within s =>
    if isBlankControl c && s.showsBlank then (true,.between s)
    else (false,ofSequence (s.after c))
  | .between s =>
    if isShown c then (true,if c ≤ '\x7f' then .between s else .clear)
    else (false,ofSequence (s.after c))

def shown : Display → List Char → List Char
  | _, [] => []
  | d, c :: cs =>
    match d.step c with
    | (true,d) => c :: d.shown cs
    | (false,d) => d.shown cs

/-- Only characters that show by themselves are left. -/
theorem isShown_of_mem_shown {d : Display} {cs : List Char} {c : Char} (h : c ∈ d.shown cs) :
    isShown c = true := by
  induction cs generalizing d with
  | nil => simp [shown] at h
  | cons a cs ih =>
    rw [shown] at h
    split at h
    · rename_i d' hd
      rcases List.mem_cons.1 h with rfl | h
      · unfold step at hd
        split at hd
        · exact (Prod.mk.inj hd).1
        · split at hd
          · rename_i hc
            simp only [Bool.and_eq_true] at hc
            simp [isShown,hc.1]
          · simp at hd
        · split at hd
          · assumption
          · simp at hd
      · exact ih h
    · exact ih h

theorem shown_clear {cs : List Char} (h : ∀ c ∈ cs, isShown c = true) :
    Display.clear.shown cs = cs := by
  induction cs with
  | nil => rfl
  | cons c cs ih =>
    have hc : isShown c = true := h c List.mem_cons_self
    have he : c ≠ escapeSign := by rintro rfl; exact absurd hc (by decide)
    simp only [shown,step,hc,he,if_false]
    rw [ih fun a ha => h a (List.mem_cons_of_mem c ha)]

end Display

def shown (text : String) : String := String.ofList (Display.clear.shown text.toList)

end VideoCapture.Text
