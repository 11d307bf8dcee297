/-! Decimal numerals: digits with an optional sign in front, read against a bound. -/
namespace LatencyHarness.Text

/-! The greatest numbers of 16, 32 and 64 bits, and of 63 bits and a sign. -/

def maxU16 : Nat := 65535
def maxU32 : Nat := 4294967295
def maxU64 : Nat := 18446744073709551615
def maxI64 : Nat := 9223372036854775807

/-- Why a text is not a numeral of the wanted range. -/
inductive NumeralError where
  | empty
  | invalidDigit
  | tooLarge
  | tooSmall
  deriving DecidableEq, Repr

namespace NumeralError

def message : NumeralError → String
  | empty => "cannot parse integer from empty string"
  | invalidDigit => "invalid digit found in string"
  | tooLarge => "number too large to fit in target type"
  | tooSmall => "number too small to fit in target type"

end NumeralError

/-- The value of an ASCII decimal digit. -/
def digit? (c : Char) : Option Nat :=
  if '0' ≤ c ∧ c ≤ '9' then some (c.toNat - '0'.toNat) else none

/-- Reads digits onto `acc`. The first character that is no digit, or that would take the value
past `limit`, decides the error. -/
def readDigits (limit : Nat) (overflow : NumeralError) :
    Nat → List Char → Except NumeralError Nat
  | acc, [] => .ok acc
  | acc, c :: r =>
    match digit? c with
    | none => .error .invalidDigit
    | some d => if acc * 10 + d > limit then .error overflow
                else readDigits limit overflow (acc * 10 + d) r

/-- A natural number of at most `limit`; a plus sign and leading zeros are allowed. -/
def readNat (limit : Nat) : List Char → Except NumeralError Nat
  | [] => .error .empty
  | ['+'] => .error .invalidDigit
  | '+' :: r => readDigits limit .tooLarge 0 r
  | s => readDigits limit .tooLarge 0 s

/-- A 64-bit signed integer. -/
def readInt64 : List Char → Except NumeralError Int
  | [] => .error .empty
  | ['+'] => .error .invalidDigit
  | ['-'] => .error .invalidDigit
  | '-' :: r => (readDigits (maxI64 + 1) .tooSmall 0 r).map (fun n => -(n : Int))
  | '+' :: r => (readDigits maxI64 .tooLarge 0 r).map (fun n => (n : Int))
  | s => (readDigits maxI64 .tooLarge 0 s).map (fun n => (n : Int))

/-- The numeral as an option, where the reason for a refusal does not matter. -/
def nat? (limit : Nat) (s : List Char) : Option Nat := (readNat limit s).toOption

/-- The decimal digits of a number. -/
def numeral (n : Nat) : List Char := Nat.toDigits 10 n

end LatencyHarness.Text
