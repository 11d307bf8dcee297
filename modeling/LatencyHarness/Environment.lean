import LatencyHarness.Text.Utf8

/-! The variables that a program is started with. Their values are bytes, and mostly text. -/
namespace LatencyHarness

/-- The variables with their values; the first entry of a name counts. -/
abbrev Environment := List (String × Text.Utf8.Bytes)

namespace Environment

/-- The value of a variable, if it is set to a text. -/
def text? (env : Environment) (name : String) : Option String :=
  match env.lookup name with
  | none => none
  | some value => (Text.Utf8.decode value).toOption.map String.ofList

/-- The variables with one of them set to a text. -/
def set (env : Environment) (name value : String) : Environment :=
  (name, Text.Utf8.encode value.toList) :: env

/-- Sets a variable unless it has a text already. -/
def setDefault (env : Environment) (name value : String) : Environment :=
  if (env.text? name).isSome then env else env.set name value

end Environment

end LatencyHarness
