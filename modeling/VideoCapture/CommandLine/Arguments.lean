import VideoCapture.Decimal.Reading
import VideoCapture.Text.Blank
import VideoCapture.Text.Numeral
/-!
# Arguments of the program

Options are written `--name=value` or `--name value`, flags `--name`; the common ones have a short
form. Arguments are read from left to right and the first one at fault decides; that two options
exclude each other is found last.
-/
namespace VideoCapture.CommandLine

/-- Why arguments are not accepted. -/
inductive UsageFault
  | unknownArgument
  /-- An option is given twice, or with one that excludes it. -/
  | argumentConflict
  | valueValidation
  | invalidValue
  | tooManyValues
  | invalidSubcommand
  | missingSubcommand
  deriving DecidableEq, Repr, Inhabited

inductive Stop
  | fault (fault : UsageFault)
  | version
  deriving DecidableEq, Repr, Inhabited

inductive ValueKind
  | none
  | text
  | path
  | count
  | decimal
  deriving DecidableEq, Repr, Inhabited

/-- What is wrong with a value, if anything. -/
def ValueKind.fault? (kind : ValueKind) (value : String) : Option UsageFault :=
  match kind with
  | none => some .tooManyValues
  | text => .none
  | path => if value = "" then some .invalidValue else .none
  | count => if (Numeral.word64? value.toList).isSome then .none else some .valueValidation
  | decimal => if (Decimal.float? value.toList).isSome then .none else some .valueValidation

structure OptionSpec where
  name : String
  short : Option Char
  kind : ValueKind
  deriving DecidableEq, Repr, Inhabited

/-- Options with their values, flags with empty ones. -/
abbrev Given := List (String × String)

def give (spec : OptionSpec) (value : String) (given : Given) : Except UsageFault Given :=
  if (given.lookup spec.name).isSome then .error .argumentConflict
  else match spec.kind.fault? value with
    | some fault => .error fault
    | none => .ok (given ++ [(spec.name,value)])

/-- An argument that begins with a dash: the option it names, and the value joined to it. -/
def named? (specs : List OptionSpec) (argument : String) : Option (OptionSpec × Option String) :=
  match argument.toList with
  | '-' :: '-' :: body =>
    match Text.splitFirst '=' body with
    | some (name,value) =>
      (specs.find? (·.name == String.ofList name)).map (·,some (String.ofList value))
    | none => (specs.find? (·.name == String.ofList body)).map (·,none)
  | ['-',c] => (specs.find? (·.short == some c)).map (·,none)
  | _ => none

/-- Reads arguments. `other` deals with an argument that is no option: it gives the result for the
    options so far and the arguments that follow. -/
def readArguments {α : Type} (specs : List OptionSpec) (hasVersion : Bool)
    (other : Given → String → List String → Except Stop α) (finish : Given → Except Stop α)
    (given : Given) : List String → Except Stop α
  | [] => finish given
  | argument :: arguments =>
    if hasVersion ∧ (argument = "--version" ∨ argument = "-V") then .error .version
    else if !argument.startsWith "-" then other given argument arguments
    else
      match named? specs argument with
      | none => .error (.fault .unknownArgument)
      | some (spec,some value) =>
        if spec.kind = .none then .error (.fault .tooManyValues)
        else match give spec value given with
          | .ok given => readArguments specs hasVersion other finish given arguments
          | .error fault => .error (.fault fault)
      | some (spec,none) =>
        if spec.kind = .none then
          if (given.lookup spec.name).isSome then .error (.fault .argumentConflict)
          else readArguments specs hasVersion other finish (given ++ [(spec.name,"")]) arguments
        else
          match arguments with
          | [] => .error (.fault .invalidValue)
          | value :: arguments =>
            if value.startsWith "-" then .error (.fault .invalidValue)
            else match give spec value given with
              | .ok given => readArguments specs hasVersion other finish given arguments
              | .error fault => .error (.fault fault)

def readOptions (specs : List OptionSpec) (hasVersion : Bool) (arguments : List String) :
    Except Stop Given :=
  readArguments specs hasVersion (fun _ _ _ => .error (.fault .unknownArgument)) .ok [] arguments

def globalSpecs : List OptionSpec :=
  [⟨"verbose",some 'v',.none⟩,⟨"quiet",some 'q',.none⟩,⟨"json",none,.none⟩]

def devicesSpecs : List OptionSpec := [⟨"verbose",some 'v',.none⟩]

def infoSpecs : List OptionSpec :=
  [⟨"device",some 'd',.text⟩,⟨"formats-only",none,.none⟩]

def captureSpecs : List OptionSpec := [
  ⟨"device",some 'd',.text⟩,⟨"format",none,.text⟩,⟨"resolution",some 'r',.text⟩,
  ⟨"framerate",some 'F',.text⟩,⟨"interval",none,.text⟩,⟨"settings",some 's',.path⟩,
  ⟨"frames",some 'f',.count⟩,⟨"duration",none,.decimal⟩,⟨"metrics",none,.none⟩]

structure InfoArguments where
  device : Option String
  formatsOnly : Bool
  deriving Inhabited

structure CaptureArguments where
  device : Option String
  format : Option String
  resolution : Option String
  framerate : Option String
  interval : Option String
  settings : Option String
  /-- The number of frames to capture; zero for no limit. -/
  frames : Nat
  duration : Option Float
  metrics : Bool
  deriving Inhabited

inductive Command
  | devices (verbose : Bool)
  | info (arguments : InfoArguments)
  | capture (arguments : CaptureArguments)
  deriving Inhabited

namespace Command

def names : List String := ["devices","info","capture"]

def specs (name : String) : List OptionSpec :=
  if name = "devices" then devicesSpecs
  else if name = "info" then infoSpecs
  else captureSpecs

/-- The command that options make. The device may come from a variable instead. -/
def of (name : String) (deviceVariable : Option String) (given : Given) :
    Except UsageFault Command :=
  let has (key : String) : Bool := (given.lookup key).isSome
  let device := (given.lookup "device").or deviceVariable
  if name = "devices" then .ok (devices (has "verbose"))
  else if name = "info" then .ok (info ⟨device,has "formats-only"⟩)
  else if has "framerate" ∧ has "interval" then .error .argumentConflict
  else .ok (capture {
    device
    format := given.lookup "format"
    resolution := given.lookup "resolution"
    framerate := given.lookup "framerate"
    interval := given.lookup "interval"
    settings := given.lookup "settings"
    frames := (((given.lookup "frames").bind fun v => Numeral.word64? v.toList).getD 0).toNat
    duration := (given.lookup "duration").bind fun v => Decimal.float? v.toList
    metrics := has "metrics" })

/-- Reads the arguments of one command without any that every command takes. -/
def read (name : String) (arguments : List String) : Except UsageFault Command :=
  match readOptions (specs name) false arguments with
  | .ok given => of name none given
  | .error (.fault fault) => .error fault
  | .error .version => .error .unknownArgument

end Command

/-- What the program is asked to do. -/
structure Invocation where
  verbose : Bool
  quiet : Bool
  json : Bool
  command : Command
  deriving Inhabited

inductive Refusal
  | fault (fault : UsageFault)
  | version (command : Option String)
  deriving DecidableEq, Repr, Inhabited

namespace Invocation

/-- Reads the arguments of a command that has been named. -/
def readCommand (deviceVariable : Option String) (global : Given) (name : String)
    (arguments : List String) : Except Refusal Invocation :=
  let own := Command.specs name
  let specs := own ++ globalSpecs.filter fun g => !own.any (·.name == g.name)
  match readOptions specs true arguments with
  | .error .version => .error (.version (some name))
  | .error (.fault fault) => .error (.fault fault)
  | .ok given =>
    let has (key : String) : Bool := (given.lookup key).isSome || (global.lookup key).isSome
    -- a flag of every command counts wherever it stands
    let given := given ++ global.filter fun g => (given.lookup g.1).isNone
    match Command.of name deviceVariable given with
    | .error fault => .error (.fault fault)
    | .ok command => .ok ⟨has "verbose",has "quiet",has "json",command⟩

def read (deviceVariable : Option String) (arguments : List String) :
    Except Refusal Invocation :=
  let other (global : Given) (name : String) (rest : List String) :
      Except Stop (Except Refusal Invocation) :=
    if Command.names.contains name then .ok (readCommand deviceVariable global name rest)
    else .error (.fault .invalidSubcommand)
  match readArguments globalSpecs true other (fun _ => .error (.fault .missingSubcommand)) []
      arguments with
  | .ok result => result
  | .error .version => .error (.version none)
  | .error (.fault fault) => .error (.fault fault)

end Invocation
end VideoCapture.CommandLine
