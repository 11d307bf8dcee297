/-! Ports and process ids, and the times they are observed at. -/
namespace LatencyHarness

/-- A TCP port. -/
abbrev Port := UInt16

/-- A process id as it is recorded and reported. -/
abbrev Pid := UInt32

/-- A length of time in milliseconds. -/
abbrev Millis := Nat

/-- A point on the monotonic clock, in milliseconds. -/
abbrev Instant := Nat

/-- The largest process id the operating system can be asked about. -/
def maxOsPid : Nat := 2147483647

/-- The id as the operating system takes it: a positive 32-bit number or zero, never a negative
one, which would mean a process group. -/
def osPid? (p : Pid) : Option Nat := if p.toNat ≤ maxOsPid then some p.toNat else none

theorem osPid?_of_le {p : Pid} (h : p.toNat ≤ maxOsPid) : osPid? p = some p.toNat := if_pos h

/-- Numbers as they are listed in messages. -/
def listText (ns : List Nat) : String := "[" ++ ", ".intercalate (ns.map toString) ++ "]"

def portsText (ps : List Port) : String := listText (ps.map (·.toNat))

end LatencyHarness
