import LatencyHarness.CommandLine.Help

/-! Reading a command line.

Arguments are bytes, mostly text, and are taken from left to right. The value of an option is the next
argument, unless that looks like an option; it is read when the next option is met or the line ends, so
that an unknown argument behind it is reported first. What is not given is taken from the
environment. -/
namespace LatencyHarness.CommandLine

open Text.Utf8 (Bytes)

/-- Why a command line is refused. -/
inductive UsageError where
  | unknownArgument (shown : String)
  | repeated (option : String)
  | unexpectedValue (option value : String)
  | missingValue (option : String)
  | invalidValue (option value reason : String)
  | undecodable
  | missingOptions (options : List String)
  deriving DecidableEq, Repr

def UsageError.message : UsageError → String
  | unknownArgument a => s!"error: unexpected argument '{a}' found"
  | repeated o => s!"error: the argument '{o}' cannot be used multiple times"
  | unexpectedValue o v => s!"error: unexpected value '{v}' for '{o}' found; no more were expected"
  | missingValue o => s!"error: a value is required for '{o}' but none was supplied"
  | invalidValue o v r => s!"error: invalid value '{v}' for '{o}': {r}"
  | undecodable => "error: invalid UTF-8 was detected in one or more arguments"
  | missingOptions os =>
    "\n  ".intercalate ("error: the following required arguments were not provided:" :: os)

/-- The error that a fault in the value of an option is. -/
def ValueFault.toError (option : String) : ValueFault → UsageError
  | missing => .missingValue option
  | invalid text reason => .invalidValue option text reason
  | undecodable => .undecodable

/-- Why the program ends before it begins its work. -/
inductive EarlyEnd where
  | refused (e : UsageError)
  | help
  | version
  deriving DecidableEq, Repr

/-- The exit status of a program that ends so. -/
def EarlyEnd.code : EarlyEnd → Nat
  | refused _ => 2
  | help | version => 0

/-! ### Arguments -/

/-- An argument as it is shown in messages. -/
def shown (raw : Bytes) : String := String.ofList (Text.Utf8.decodeLossy raw)

/-- An argument by its looks. Letters may have bytes behind them that are no text. -/
inductive Argument where
  | separator
  | named (name : String) (value? : Option Bytes)
  | letters (cs : List Char) (rest : Bytes)
  | plain (raw : Bytes)
  deriving DecidableEq, Repr

namespace Argument

def dash : UInt8 := 45

def equals : UInt8 := 61

/-- What two dashes are followed by: a name, and a value behind an equals sign. -/
def ofName (raw : Bytes) : Argument :=
  .named (shown (raw.takeWhile (· ≠ equals))) (raw.dropWhile (· ≠ equals)).tail?

/-- What one dash is followed by. -/
def ofLetters (raw : Bytes) : Argument :=
  match Text.Utf8.decode raw with
  | .ok cs => .letters cs []
  | .error fault => .letters (Text.Utf8.decodeLossy (raw.take fault.start)) (raw.drop fault.start)

def ofBytes : Bytes → Argument
  | [] => .plain []
  | [a] => .plain [a]
  | a :: b :: r =>
    if a ≠ dash then .plain (a :: b :: r)
    else if b ≠ dash then ofLetters (b :: r)
    else if r.isEmpty then .separator
    else ofName r

/-- The bytes of arguments that are texts. -/
def ofTexts (args : List String) : List Bytes := args.map fun s => Text.Utf8.encode s.toList

end Argument

/-! ### Options -/

/-- The options that have been given, with their values. -/
abbrev Settings (κ : Type) := List (κ × Value)

variable {κ : Type} [DecidableEq κ]

/-- The settings with an option that was not given before. -/
def Settings.add (s : Settings κ) (option : String) (key : κ) (read : Except ValueFault Value) :
    Except EarlyEnd (Settings κ) :=
  if (s.lookup key).isSome then .error (.refused (.repeated option))
  else match read with
    | .ok v => .ok (s ++ [(key, v)])
    | .error f => .error (.refused (f.toError option))

/-- An option that waits for its value, or whose value has not been read yet. -/
structure Awaited (κ : Type) where
  option : String
  key : κ
  kind : ValueKind
  raw? : Option Bytes
  deriving DecidableEq, Repr

/-- How far a command line has been read. -/
structure Progress (κ : Type) where
  settings : Settings κ
  awaited? : Option (Awaited κ)
  deriving DecidableEq, Repr

namespace Progress

/-- The settings once the value that is waited for has been read. -/
def settle (p : Progress κ) : Except EarlyEnd (Settings κ) :=
  match p.awaited? with
  | none => .ok p.settings
  | some w =>
    match w.raw? with
    | none => .error (.refused (.missingValue w.option))
    | some raw => p.settings.add w.option w.key (w.kind.readBytes raw)

/-- Goes on with an option, and the value that is attached to it. -/
def option (p : Progress κ) (o : OptionSpec κ) (value? : Option Bytes) :
    Except EarlyEnd (Progress κ) :=
  match o.effect, value? with
  | .value key spec, none => do
    return ⟨← p.settle, some ⟨o.display, key, spec.kind, none⟩⟩
  | .value key spec, some v => do
    return ⟨← (← p.settle).add o.display key (spec.kind.readBytes v), none⟩
  | _, some v => .error (.refused (.unexpectedValue o.display (shown v)))
  | .flag key, none => do
    return ⟨← (← p.settle).add o.display key (.ok .present), none⟩
  | .help, none => do
    let _ ← p.settle
    .error .help
  | .version, none => do
    let _ ← p.settle
    .error .version

/-- Goes on with options by their letters, and then refuses what is no text. -/
def letters (g : Grammar κ) (p : Progress κ) (rest : Bytes) :
    List Char → Except EarlyEnd (Progress κ)
  | [] => if rest.isEmpty then .ok p else .error (.refused (.unknownArgument s!"-{shown rest}"))
  | c :: cs =>
    match g.lettered? c with
    | none => .error (.refused (.unknownArgument s!"-{c}"))
    | some o => do letters g (← p.option o none) rest cs

/-- Goes on with an argument that does not look like an option. -/
def plain (p : Progress κ) (raw : Bytes) : Except EarlyEnd (Progress κ) :=
  match p.awaited? with
  | some ⟨option, key, kind, none⟩ => .ok { p with awaited? := some ⟨option, key, kind, some raw⟩ }
  | _ => .error (.refused (.unknownArgument (shown raw)))

/-- Goes on with the rest of the command line. After two dashes there can be nothing more. -/
def finish (g : Grammar κ) (p : Progress κ) : List Bytes → Except EarlyEnd (Settings κ)
  | [] => p.settle
  | a :: rest =>
    match Argument.ofBytes a with
    | .separator =>
      match rest with
      | [] => p.settle
      | b :: _ => .error (.refused (.unknownArgument (shown b)))
    | .named name value? =>
      match g.named? name with
      | none => .error (.refused (.unknownArgument s!"--{name}"))
      | some o => do finish g (← p.option o value?) rest
    | .letters cs bytes => do finish g (← p.letters g bytes cs) rest
    | .plain raw => do finish g (← p.plain raw) rest

end Progress

/-! ### What is not given -/

namespace Settings

/-- Adds what the environment says about an option that was not given. -/
def addVariable (env : Environment) (s : Settings κ) (o : OptionSpec κ) :
    Except EarlyEnd (Settings κ) :=
  match o.effect with
  | .value key spec =>
    match (s.lookup key).isSome, spec.fallback?.bind (env.lookup ·) with
    | false, some raw => s.add o.display key (spec.kind.readBytes raw)
    | _, _ => .ok s
  | _ => .ok s

/-- Adds the standing value of an option that was not given. -/
def addDefault (s : Settings κ) (o : OptionSpec κ) : Settings κ :=
  match o.effect with
  | .value key spec =>
    match (s.lookup key).isSome, spec.default?.map spec.kind.read with
    | false, some (.ok v) => s ++ [(key, v)]
    | _, _ => s
  | _ => s

/-- Whether an option that has to be given is not. -/
def lacks (s : Settings κ) (o : OptionSpec κ) : Bool :=
  match o.effect with
  | .value key spec => spec.required && (s.lookup key).isNone
  | _ => false

/-- Refuses settings without an option that has to be given. -/
def checkRequired (g : Grammar κ) (s : Settings κ) : Except EarlyEnd Unit :=
  match g.options.filter s.lacks with
  | [] => .ok ()
  | os => .error (.refused (.missingOptions (os.map OptionSpec.display)))

end Settings

namespace Grammar

/-- Reads a command line. -/
def parse (g : Grammar κ) (env : Environment) (args : List Bytes) :
    Except EarlyEnd (Settings κ) := do
  let given ← Progress.finish g ⟨[], none⟩ args
  let completed ← g.options.foldlM (Settings.addVariable env) given
  let settings := g.options.foldl Settings.addDefault completed
  settings.checkRequired g
  return settings

/-- What the program says when it ends early. -/
def endText (g : Grammar κ) (env : Environment) : EarlyEnd → String
  | .refused e => e.message
  | .help => g.help env
  | .version => g.versionText

end Grammar

end LatencyHarness.CommandLine
