import LatencyHarness.Ids
import LatencyHarness.Text.Blank
import LatencyHarness.Text.Lines
import LatencyHarness.Text.Numeral
import LatencyHarness.Text.Search

/-! Reading what the socket tools print: which processes hold a port. -/
namespace LatencyHarness.SocketTable

open Text

/-- Puts a process id into a strictly increasing list. -/
def insert (p : Pid) : List Pid → List Pid
  | [] => [p]
  | q :: qs => if p < q then p :: q :: qs else if p = q then q :: qs else q :: insert p qs

/-- The process ids in increasing order, each once. -/
def ordered (ps : List Pid) : List Pid := ps.foldr insert []

/-- A process id in decimal digits, possibly after a plus sign. -/
def pid? (s : List Char) : Option Pid := (nat? maxU32 s).map UInt32.ofNat

/-! ### One process id a line -/

/-- The process ids of a listing with one on each line. Lines that are none are passed over. -/
def ofLines (listing : List Char) : List Pid :=
  ordered ((lines listing).filterMap fun l => pid? (trim l))

/-! ### A table of listening sockets -/

/-- The word that marks a listening socket. -/
def listenMark : List Char := ['L', 'I', 'S', 'T', 'E', 'N']

/-- What stands before the first slash of a field, if there is a slash. -/
def beforeSlash? (field : List Char) : Option (List Char) :=
  if field.contains '/' then some (field.takeWhile (· ≠ '/')) else none

/-- The owner of a row: the number before the slash in the last field that has one. -/
def rowOwner? (fields : List (List Char)) : Option Pid :=
  (fields.reverse.findSome? beforeSlash?).bind pid?

/-- The owner of a port in a row of the table: a row for a listening socket whose fourth field
ends in a colon and the port. -/
def ownerOf? (port : Port) (row : List Char) : Option Pid :=
  if !occursIn listenMark row then none
  else
    let fs := fields row
    match fs[3]? with
    | none => none
    | some address =>
      if (':' :: numeral port.toNat).isSuffixOf address then rowOwner? fs else none

/-- The owners of a port in a table. -/
def owners (port : Port) (table : List Char) : List Pid :=
  ordered ((lines table).filterMap (ownerOf? port))

end LatencyHarness.SocketTable
