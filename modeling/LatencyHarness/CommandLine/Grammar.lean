import LatencyHarness.Environment
import LatencyHarness.Path
import LatencyHarness.Text.Numeral

/-! What a command line may hold: flags, and options with a value of some kind. -/
namespace LatencyHarness.CommandLine

/-- A value that has been read. Of a flag, only the presence counts. -/
inductive Value where
  | present
  | text (s : String)
  | path (p : Path)
  | number (n : Int)
  deriving DecidableEq, Repr

namespace Value

def text? : Value → Option String
  | text s => some s
  | _ => none

def path? : Value → Option Path
  | path p => some p
  | _ => none

def number? : Value → Option Int
  | number n => some n
  | _ => none

end Value

/-- What a value is read as. -/
inductive ValueKind where
  | text
  | path
  | integer (least most : Int)
  | natural (most : Nat)
  deriving DecidableEq, Repr

/-- Why there is no value of a kind. -/
inductive ValueFault where
  | missing
  | invalid (text reason : String)
  | undecodable
  deriving DecidableEq, Repr

namespace ValueKind

/-- Reads a text. A path may not be empty. -/
def read (s : String) : ValueKind → Except ValueFault Value
  | text => .ok (.text s)
  | path => if s.isEmpty then .error .missing else .ok (.path (.ofString s))
  | integer least most =>
    match Text.readInt64 s.toList with
    | .error e => .error (.invalid s e.message)
    | .ok n =>
      if least ≤ n ∧ n ≤ most then .ok (.number n)
      else .error (.invalid s s!"{n} is not in {least}..={most}")
  | natural most =>
    match Text.readNat most s.toList with
    | .error e => .error (.invalid s e.message)
    | .ok n => .ok (.number n)

/-- Reads bytes, which have to be text unless they are for a path. -/
def readBytes (raw : Text.Utf8.Bytes) : ValueKind → Except ValueFault Value
  | path => if raw.isEmpty then .error .missing else .ok (.path ⟨raw⟩)
  | k =>
    match Text.Utf8.decode raw with
    | .ok s => k.read (String.ofList s)
    | .error _ => .error .undecodable

/-- A port number. -/
def port : ValueKind := integer 0 65535

/-- A 32-bit signed number. -/
def int32 : ValueKind := integer (-2147483648) 2147483647

/-- A 64-bit natural number. -/
def nat64 : ValueKind := natural Text.maxU64

end ValueKind

/-- The value of an option: how it is called and read, and where it comes from if the option is
not given. -/
structure ValueSpec where
  label : String
  kind : ValueKind
  /-- the environment variable that is read then -/
  fallback? : Option String := none
  /-- the value that stands then -/
  default? : Option String := none
  required : Bool := false
  deriving DecidableEq, Repr

/-- What an option does. -/
inductive Effect (κ : Type) where
  | flag (key : κ)
  | value (key : κ) (spec : ValueSpec)
  | help
  | version
  deriving DecidableEq, Repr

/-- An option, with a one-letter name perhaps if it takes no value. -/
structure OptionSpec (κ : Type) where
  name : String
  letter? : Option Char := none
  effect : Effect κ
  description : String
  deriving DecidableEq, Repr

/-- The option as it is named in messages. -/
def OptionSpec.display {κ : Type} (o : OptionSpec κ) : String :=
  match o.effect with
  | .value _ spec => s!"--{o.name} <{spec.label}>"
  | _ => s!"--{o.name}"

/-- All that a program may be called with. -/
structure Grammar (κ : Type) where
  program : String
  version : String
  about? : Option String
  options : List (OptionSpec κ)
  deriving DecidableEq, Repr

namespace Grammar

variable {κ : Type}

def named? (g : Grammar κ) (name : String) : Option (OptionSpec κ) :=
  g.options.find? (·.name == name)

def lettered? (g : Grammar κ) (c : Char) : Option (OptionSpec κ) :=
  g.options.find? (·.letter? == some c)

end Grammar

end LatencyHarness.CommandLine
