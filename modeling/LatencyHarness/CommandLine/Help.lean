import LatencyHarness.CommandLine.Grammar

/-! The text that explains a command line: what the program is for, how it is called, and a row for
each option. -/
namespace LatencyHarness.CommandLine

variable {κ : Type}

def isRequired (o : OptionSpec κ) : Bool :=
  match o.effect with
  | .value _ spec => spec.required
  | _ => false

/-- How the program is called. -/
def Grammar.usage (g : Grammar κ) : String :=
  let required := (g.options.filter isRequired).map OptionSpec.display
  " ".intercalate ("Usage:" :: g.program :: "[OPTIONS]" :: required)

namespace OptionSpec

/-- The two names of an option, below those of the others. -/
def names (o : OptionSpec κ) : String :=
  match o.letter? with
  | some c => s!"  -{c}, {o.display}"
  | none => s!"      {o.display}"

/-- The current value of the variable that an option goes by. -/
def variableNote (env : Environment) (name : String) : String :=
  let value := String.ofList (Text.Utf8.decodeLossy ((env.lookup name).getD []))
  s!"[env: {name}={value}]"

/-- The value of an option that is not given; one with blanks is shown in quotes. -/
def defaultNote (value : String) : String :=
  if value.toList.any Char.isWhitespace then s!"[default: \"{value}\"]" else s!"[default: {value}]"

/-- The description of an option, and where its value comes from. -/
def explanation (env : Environment) (o : OptionSpec κ) : String :=
  match o.effect with
  | .value _ spec =>
    let notes := (spec.fallback?.map (variableNote env)).toList ++
      (spec.default?.map defaultNote).toList
    " ".intercalate (o.description :: notes)
  | _ => o.description

/-- The row of an option, with the explanation from a column on. -/
def row (env : Environment) (column : Nat) (o : OptionSpec κ) : String :=
  let left := o.names.toList
  let indented := (o.explanation env).toList.flatMap fun c =>
    if c = '\n' then c :: List.replicate column ' ' else [c]
  String.ofList (left ++ List.replicate (column - left.length) ' ' ++ indented) ++ "\n"

end OptionSpec

/-- The explanation of the command line. -/
def Grammar.help (g : Grammar κ) (env : Environment) : String :=
  let about := (g.about?.map (· ++ "\n\n")).getD ""
  let column := (g.options.map (·.names.length)).foldl max 0 + 2
  about ++ g.usage ++ "\n\nOptions:\n" ++ String.join (g.options.map (·.row env column))

/-- The program's name with its version. -/
def Grammar.versionText (g : Grammar κ) : String := s!"{g.program} {g.version}\n"

end LatencyHarness.CommandLine
