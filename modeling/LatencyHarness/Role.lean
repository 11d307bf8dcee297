/-! The two services that a run starts, and the names they go by. -/
namespace LatencyHarness

/-- A service the client depends on. -/
inductive Role where
  | server2
  | server1
  deriving DecidableEq, Repr

namespace Role

/-- The roles in the order they are started: the second service connects to the first. -/
def startOrder : List Role := [server2, server1]

theorem mem_startOrder (r : Role) : r ∈ startOrder := by cases r <;> simp [startOrder]

/-- The place in the start order. -/
def rank : Role → Nat
  | server2 => 0
  | server1 => 1

def name : Role → String
  | server2 => "Server2"
  | server1 => "Server1"

/-- The stem of the role's pidfile. -/
def slug : Role → String
  | server2 => "server2"
  | server1 => "server1"

def ofSlug? (s : String) : Option Role := startOrder.find? (·.slug == s)

theorem ofSlug?_slug (r : Role) : ofSlug? r.slug = some r := by cases r <;> decide

theorem ofSlug?_eq_some {s : String} {r : Role} : ofSlug? s = some r ↔ s = r.slug := by
  constructor
  · intro h
    have := List.find?_some h
    simpa using (beq_iff_eq.mp this).symm
  · rintro rfl
    exact ofSlug?_slug r

end Role

end LatencyHarness
