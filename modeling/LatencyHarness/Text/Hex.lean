/-! Bytes as hexadecimal digits, two for each. -/
namespace LatencyHarness.Text.Hex

/-- The value of a hexadecimal digit of either case. -/
def value? (c : Char) : Option Nat :=
  if '0' ≤ c ∧ c ≤ '9' then some (c.toNat - '0'.toNat)
  else if 'a' ≤ c ∧ c ≤ 'f' then some (c.toNat - 'a'.toNat + 10)
  else if 'A' ≤ c ∧ c ≤ 'F' then some (c.toNat - 'A'.toNat + 10)
  else none

/-- The digit of a number below 16. -/
def digit (n : Nat) : Char := (Nat.toDigits 16 n).headD '0'

def encode (bytes : List UInt8) : List Char :=
  bytes.flatMap fun b => [digit (b.toNat / 16), digit (b.toNat % 16)]

/-- The bytes of an even number of digits. -/
def decode? : List Char → Option (List UInt8)
  | [] => some []
  | a :: b :: r => do
    let m ← value? a
    let n ← value? b
    return .ofNat (16 * m + n) :: (← decode? r)
  | _ => none

end LatencyHarness.Text.Hex
