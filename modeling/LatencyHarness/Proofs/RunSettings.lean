import LatencyHarness.Proofs.Arguments
import LatencyHarness.Proofs.Numerals
import LatencyHarness.RunOptions

/-! The configuration that a command line and the variables stand for.

Of each setting, what is given on the command line counts, and else what its variable says; what
neither says is as in the standard layout. The order of the options makes no difference. -/
namespace LatencyHarness

open CommandLine
open Text (IsNumeralOf maxU16 maxU64)
open Text.Utf8 (Bytes encode)

/-! ### What may be set -/

/-- A number up to a greatest one, as it is written. -/
structure Figure (most : Nat) where
  number : Nat
  text : List Char
  isNumeral : IsNumeralOf number text
  within : number ≤ most

/-- A path that is not empty. -/
structure Place where
  path : Path
  nonempty : path.bytes ≠ []

/-- The settings that variables make, where they are set. -/
structure Preset where
  workingDir : Option Place
  taskRunner : Option String
  server1Port : Option (Figure maxU16)
  server2Port : Option (Figure maxU16)

/-- The settings that are made on a command line, where they are; some of them have no variable. -/
structure Choice extends Preset where
  verbose : Bool
  json : Bool
  server2Timeout : Option (Figure maxU64)
  server1Timeout : Option (Figure maxU64)

/-- The variables are set to just these. -/
structure Preset.IsSetIn (p : Preset) (env : Environment) : Prop where
  workingDir : env.lookup "MYCO_WORKING_DIR" = p.workingDir.map (·.path.bytes)
  taskRunner : env.lookup "MYCO_TASK_RUNNER" = p.taskRunner.map (encode ·.toList)
  server1Port : env.lookup "MYCO_SERVER1_PORT" = p.server1Port.map (encode ·.text)
  server2Port : env.lookup "MYCO_SERVER2_PORT" = p.server2Port.map (encode ·.text)

/-- The options for the settings. -/
def RunOption.chosen : List RunOption :=
  [verbose, json, workingDir, taskRunner, server1Port, server2Port, server2Timeout, server1Timeout]

namespace Choice

/-- The argument with an option, if there is one. -/
def argument? (c : Choice) : RunOption → Option Bytes
  | .verbose => if c.verbose then some (encode "--verbose".toList) else none
  | .json => if c.json then some (encode "--json".toList) else none
  | .workingDir => c.workingDir.map fun d => encode "--working-dir=".toList ++ d.path.bytes
  | .taskRunner => c.taskRunner.map fun s => encode "--task-runner=".toList ++ encode s.toList
  | .server1Port => c.server1Port.map fun f => encode "--server1-port=".toList ++ encode f.text
  | .server2Port => c.server2Port.map fun f => encode "--server2-port=".toList ++ encode f.text
  | .server2Timeout =>
    c.server2Timeout.map fun f => encode "--server2-timeout=".toList ++ encode f.text
  | .server1Timeout =>
    c.server1Timeout.map fun f => encode "--server1-timeout=".toList ++ encode f.text

/-- The arguments in one order of them. -/
def arguments (c : Choice) : List Bytes := RunOption.chosen.filterMap c.argument?

/-- The options that come of a command line and of the variables. -/
def options (c : Choice) (p : Preset) : RunOptions where
  verbose := c.verbose
  json := c.json
  workingDir := (c.workingDir.or p.workingDir).map (·.path)
  taskRunner := c.taskRunner.or p.taskRunner
  server1Port := (c.server1Port.or p.server1Port).map (.ofNat ·.number)
  server2Port := (c.server2Port.or p.server2Port).map (.ofNat ·.number)
  server2Timeout := c.server2Timeout.map (·.number)
  server1Timeout := c.server1Timeout.map (·.number)

/-- The standard layout below the directory that is set, or else below the current one, with the
settings that are made and no other difference. Timeouts are given in seconds. -/
def config (c : Choice) (p : Preset) (current : Path) : Config :=
  let dir := ((c.workingDir.or p.workingDir).map (·.path)).getD current
  let standard := Config.withDefaults dir
  let runner := c.taskRunner.or p.taskRunner
  { standard with
    taskRunner.program := runner.getD standard.taskRunner.program
    server2.launch.program := runner.getD standard.server2.launch.program
    server1.launch.program := runner.getD standard.server1.launch.program
    client.program := runner.getD standard.client.program
    server2.port :=
      ((c.server2Port.or p.server2Port).map (.ofNat ·.number)).getD standard.server2.port
    server1.port :=
      ((c.server1Port.or p.server1Port).map (.ofNat ·.number)).getD standard.server1.port
    server2.startupTimeout :=
      (c.server2Timeout.map (·.number * 1000)).getD standard.server2.startupTimeout
    server1.startupTimeout :=
      (c.server1Timeout.map (·.number * 1000)).getD standard.server1.startupTimeout }

end Choice

theorem grammar_isFree : RunOption.grammar.IsFree := ⟨by decide, by decide⟩

/-! ### How the values are read -/

theorem readBytes_encode (kind : ValueKind) (hkind : kind ≠ .path) (text : List Char) :
    kind.readBytes (encode text) = kind.read (String.ofList text) := by
  cases kind with
  | path => exact absurd rfl hkind
  | text | integer _ _ | natural _ =>
    unfold ValueKind.readBytes
    rw [Text.Utf8.decode_encode]

theorem readBytes_text (s : String) :
    ValueKind.text.readBytes (encode s.toList) = .ok (.text s) := by
  rw [readBytes_encode .text nofun, ValueKind.read, String.ofList_toList]

namespace Figure

variable {most : Nat}

def raw (f : Figure most) : Bytes := encode f.text

def value (f : Figure most) : Value := .number f.number

theorem readBytes_natural (f : Figure most) :
    (ValueKind.natural most).readBytes f.raw = .ok f.value := by
  rw [raw, readBytes_encode (.natural most) nofun, ValueKind.read, String.toList_ofList,
    Text.readNat_eq_ok.mpr ⟨f.within, f.isNumeral⟩]
  rfl

theorem readBytes_port (f : Figure maxU16) : ValueKind.port.readBytes f.raw = .ok f.value := by
  have hwithin : f.number ≤ 65535 := f.within
  have hread : Text.readInt64 f.text = .ok f.number :=
    Text.readInt64_of_isNumeralOf f.isNumeral (hwithin.trans (by decide))
  have hrange : (0 : Int) ≤ f.number ∧ (f.number : Int) ≤ 65535 := by omega
  rw [raw, readBytes_encode .port nofun, ValueKind.port, ValueKind.read, String.toList_ofList,
    hread]
  exact if_pos hrange

end Figure

namespace Place

def value (d : Place) : Value := .path d.path

theorem readBytes_path (d : Place) : ValueKind.path.readBytes d.path.bytes = .ok d.value :=
  if_neg (by rw [List.isEmpty_iff]; exact d.nonempty)

end Place

/-! ### What the variables are read as -/

/-- What the variable for an option is read as. -/
def Preset.value? (p : Preset) : RunOption → Option Value
  | .workingDir => p.workingDir.map Place.value
  | .taskRunner => p.taskRunner.map .text
  | .server1Port => p.server1Port.map Figure.value
  | .server2Port => p.server2Port.map Figure.value
  | _ => none

theorem Preset.IsSetIn.inherits {p : Preset} {env : Environment} (h : p.IsSetIn env) :
    RunOption.grammar.Inherits env p.value? := by
  unfold Grammar.Inherits RunOption.grammar
  simp only [List.forall_mem_cons]
  -- the flags before these four and the options behind them have no variables
  refine ⟨rfl, rfl, ?_, ?_, ?_, ?_, rfl, rfl, rfl, rfl, List.forall_mem_nil _⟩
  · exact readVariable?_of_lookup rfl rfl h.workingDir Place.readBytes_path
  · exact readVariable?_of_lookup rfl rfl h.taskRunner readBytes_text
  · exact readVariable?_of_lookup rfl rfl h.server1Port Figure.readBytes_port
  · exact readVariable?_of_lookup rfl rfl h.server2Port Figure.readBytes_port

theorem Preset.IsSetIn.lookup {p : Preset} {env : Environment} (h : p.IsSetIn env)
    (k : RunOption) : (RunOption.grammar.inherited env).lookup k = p.value? k := by
  rw [h.inherits.lookup]
  cases k with
  | verbose | json | workingDir | taskRunner | server1Port | server2Port | server2Timeout
  | server1Timeout => rfl

/-! ### What is given -/

namespace Choice

/-- What is given for an option. -/
def given? (c : Choice) : RunOption → Option (Given RunOption)
  | .verbose => if c.verbose then some ⟨"verbose", .verbose, none, .present⟩ else none
  | .json => if c.json then some ⟨"json", .json, none, .present⟩ else none
  | .workingDir => c.workingDir.map fun d => ⟨"working-dir", .workingDir, d.path.bytes, d.value⟩
  | .taskRunner =>
    c.taskRunner.map fun s => ⟨"task-runner", .taskRunner, encode s.toList, .text s⟩
  | .server1Port => c.server1Port.map fun f => ⟨"server1-port", .server1Port, f.raw, f.value⟩
  | .server2Port => c.server2Port.map fun f => ⟨"server2-port", .server2Port, f.raw, f.value⟩
  | .server2Timeout =>
    c.server2Timeout.map fun f => ⟨"server2-timeout", .server2Timeout, f.raw, f.value⟩
  | .server1Timeout =>
    c.server1Timeout.map fun f => ⟨"server1-timeout", .server1Timeout, f.raw, f.value⟩

/-- All that is given. -/
def given (c : Choice) : List (Given RunOption) := RunOption.chosen.filterMap c.given?

variable {c : Choice} {k : RunOption} {x : Given RunOption}

theorem given?_fits (h : c.given? k = some x) : x.key = k ∧ x.Fits RunOption.grammar := by
  cases k with
  | verbose =>
    obtain ⟨-, ⟨⟩⟩ := Option.ite_none_right_eq_some.mp h
    exact ⟨rfl, .flag (o := RunOption.grammar.options[0]) rfl rfl⟩
  | json =>
    obtain ⟨-, ⟨⟩⟩ := Option.ite_none_right_eq_some.mp h
    exact ⟨rfl, .flag (o := RunOption.grammar.options[1]) rfl rfl⟩
  | workingDir =>
    obtain ⟨d, -, rfl⟩ := Option.map_eq_some_iff.mp h
    exact ⟨rfl, .value (o := RunOption.grammar.options[2]) rfl rfl d.readBytes_path⟩
  | taskRunner =>
    obtain ⟨s, -, rfl⟩ := Option.map_eq_some_iff.mp h
    exact ⟨rfl, .value (o := RunOption.grammar.options[3]) rfl rfl (readBytes_text s)⟩
  | server1Port =>
    obtain ⟨f, -, rfl⟩ := Option.map_eq_some_iff.mp h
    exact ⟨rfl, .value (o := RunOption.grammar.options[4]) rfl rfl f.readBytes_port⟩
  | server2Port =>
    obtain ⟨f, -, rfl⟩ := Option.map_eq_some_iff.mp h
    exact ⟨rfl, .value (o := RunOption.grammar.options[5]) rfl rfl f.readBytes_port⟩
  | server2Timeout =>
    obtain ⟨f, -, rfl⟩ := Option.map_eq_some_iff.mp h
    exact ⟨rfl, .value (o := RunOption.grammar.options[6]) rfl rfl f.readBytes_natural⟩
  | server1Timeout =>
    obtain ⟨f, -, rfl⟩ := Option.map_eq_some_iff.mp h
    exact ⟨rfl, .value (o := RunOption.grammar.options[7]) rfl rfl f.readBytes_natural⟩

theorem given_fits : ∀ x ∈ c.given, x.Fits RunOption.grammar := by
  intro x hx
  obtain ⟨k, -, hk⟩ := List.mem_filterMap.mp hx
  exact (given?_fits hk).2

/-- Each option is given once at most. -/
theorem given_keys (c : Choice) : (c.given.map (·.key)).Nodup := by
  have hkey {k key : RunOption} (h : key ∈ (c.given? k).map (·.key)) : k = key := by
    obtain ⟨x, hx, rfl⟩ := Option.map_eq_some_iff.mp h
    exact (given?_fits hx).1.symm
  unfold given
  rw [List.map_filterMap]
  refine List.Nodup.filterMap (fun k k' key h h' => ?_) (by decide)
  rw [hkey h, hkey h']

/-- What is given for an option is what it is set to. -/
theorem given_lookup (c : Choice) (k : RunOption) :
    (c.given.map (·.setting)).lookup k = (c.given? k).map (·.value) := by
  have hsettings : c.given.map (·.setting) = RunOption.chosen.filterMap fun key =>
      ((c.given? key).map (·.value)).map fun v => (key, v) := by
    unfold given
    rw [List.map_filterMap]
    refine List.filterMap_congr fun key _ => ?_
    cases h : c.given? key with
    | none => rfl
    | some x =>
      rw [← (given?_fits h).1]
      rfl
  rw [hsettings, lookup_filterMap]
  cases k with
  | verbose | json | workingDir | taskRunner | server1Port | server2Port | server2Timeout
  | server1Timeout => rfl

/-- The arguments are those that give what is chosen. -/
theorem arguments_eq (c : Choice) : c.arguments = c.given.map (·.argument) := by
  unfold arguments given
  rw [List.map_filterMap]
  refine List.filterMap_congr fun k _ => ?_
  cases k with
  | verbose | json =>
    simp only [argument?, given?, Option.map_if]
    rfl
  | workingDir | taskRunner | server1Port | server2Port | server2Timeout | server1Timeout =>
    simp only [argument?, given?, Option.map_map]
    exact congrArg (Option.map · _) (funext fun _ => (Given.argument_value (by rfl)).symm)

end Choice

/-! ### The options and the configuration -/

variable {c : Choice} {p : Preset} {env : Environment} {args : List Bytes} {current : Path}

/-- What is chosen counts, and else what is preset. -/
theorem map_or_map_bind {α β : Type} {x y : Option α} {value : α → Value} {get : Value → Option β}
    {f : α → β} (hget : ∀ a, get (value a) = some (f a)) :
    ((x.map value).or (y.map value)).bind get = (x.or y).map f := by
  rw [← Option.map_or]
  cases x.or y with
  | none => rfl
  | some a => exact hget a

theorem isSome_flag {b : Bool} {x : Given RunOption} :
    (((if b then some x else none).map (·.value)).or none).isSome = b := by
  cases b with
  | true => rfl
  | false => rfl

/-- A number that is set is what is written. -/
theorem map_number {β : Type} {most : Nat} {x y : Option (Figure most)} {f : Nat → β} :
    (((x.map Figure.value).or (y.map Figure.value)).bind Value.number?).map (f ·.toNat) =
      (x.or y).map (f ·.number) := by
  have hnumber : ((x.map Figure.value).or (y.map Figure.value)).bind Value.number? =
      (x.or y).map fun g => (g.number : Int) :=
    map_or_map_bind fun _ => rfl
  rw [hnumber, Option.map_map]
  rfl

theorem ofSettings_of_lookup {s : Settings RunOption}
    (hs : ∀ k, s.lookup k = ((c.given? k).map (·.value)).or (p.value? k)) :
    RunOptions.ofSettings s = c.options p := by
  -- no variable says anything about a timeout
  have htimeout {x : Option (Figure maxU64)} :
      (((x.map Figure.value).or none).bind Value.number?).map (·.toNat) = x.map (·.number) := by
    have hnumber := map_number (x := x) (y := none) (f := id)
    rw [Option.or_none] at hnumber
    exact hnumber
  unfold RunOptions.ofSettings RunOptions.portOf RunOptions.secondsOf Choice.options
  simp only [hs, Choice.given?, Preset.value?, isSome_flag, Option.map_map]
  congr 1
  case e_workingDir => exact map_or_map_bind fun _ => rfl
  case e_taskRunner =>
    have htext : ((c.taskRunner.map Value.text).or (p.taskRunner.map Value.text)).bind
        Value.text? = (c.taskRunner.or p.taskRunner).map id :=
      map_or_map_bind fun _ => rfl
    rw [Option.map_id_apply] at htext
    exact htext
  case e_server1Port | e_server2Port => exact map_number
  case e_server2Timeout | e_server1Timeout => exact htimeout

theorem parseBytes_of_arguments (hvars : p.IsSetIn env) (hargs : args.Perm c.arguments) :
    RunOptions.parseBytes env args = .ok (c.options p) := by
  rw [c.arguments_eq] at hargs
  -- the arguments are those of the same options in another order
  obtain ⟨given, rfl, hgiven⟩ : ∃ given : List (Given RunOption),
      args = given.map (·.argument) ∧ given.Perm c.given :=
    (congrFun (congrFun (List.eq_map_comp_perm _) args) c.given).mpr hargs
  obtain ⟨s, hparse, hs⟩ := parse_given grammar_isFree hgiven Choice.given_fits c.given_keys
    hvars.inherits.reads
  unfold RunOptions.parseBytes
  rw [hparse]
  refine congrArg Except.ok (ofSettings_of_lookup fun k => ?_)
  rw [hs, c.given_lookup, hvars.lookup]

theorem override_withDefaults : (c.options p).override
    (.withDefaults (((c.workingDir.or p.workingDir).map (·.path)).getD current)) =
      c.config p current := by
  unfold RunOptions.override RunOptions.overrideService Choice.options
  simp only [Option.map_map]
  rfl

/-- The options stand for the configuration, once it has been checked. -/
theorem config_of_options [Pattern.Wording] : (c.options p).config (.ok current) =
    ((c.config p current).validate.mapError HarnessError.ofConfig).map fun _ =>
      c.config p current := by
  have hdirectory : (c.options p).directory (.ok current) =
      .ok (((c.workingDir.or p.workingDir).map (·.path)).getD current) := by
    unfold RunOptions.directory Choice.options
    cases c.workingDir.or p.workingDir with
    | none => rfl
    | some d => rfl
  unfold RunOptions.config
  rw [hdirectory]
  change (((c.options p).override _).validate.mapError HarnessError.ofConfig >>= fun _ => _) = _
  rw [override_withDefaults]
  cases (c.config p current).validate with
  | ok _ => rfl
  | error e => rfl

theorem config_of_valid [Pattern.Wording] (h : (c.config p current).validate = .ok ()) :
    (c.options p).config (.ok current) = .ok (c.config p current) := by
  rw [config_of_options, h]
  rfl

theorem config_of_invalid [Pattern.Wording] {e : ConfigError}
    (h : (c.config p current).validate = .error e) :
    (c.options p).config (.ok current) = .error (.configuration e.message) := by
  rw [config_of_options, h]
  rfl

/-- Whatever is chosen, and whatever the variables are set to, in whatever order the arguments come:
they are read as the options that are chosen and preset, and the configuration is the standard one
with these settings if it passes the checks. If it does not, what is reported is the failure. -/
theorem command_line_makes_configuration [Pattern.Wording] (c : Choice) (p : Preset)
    (current : Path) (hvars : p.IsSetIn env) (hargs : args.Perm c.arguments) :
    RunOptions.parseBytes env args = .ok (c.options p) ∧
    (∀ config, (c.options p).config (.ok current) = .ok config ↔
      config = c.config p current ∧ config.validate = .ok ()) ∧
    (∀ failure, (c.options p).config (.ok current) = .error failure ↔
      ∃ e, (c.config p current).validate = .error e ∧ failure = .configuration e.message) := by
  refine ⟨parseBytes_of_arguments hvars hargs, fun config => ?_, fun failure => ?_⟩
  · constructor
    · intro hconfig
      cases hvalid : (c.config p current).validate with
      | ok _ =>
        obtain rfl := Except.ok.inj ((config_of_valid hvalid).symm.trans hconfig)
        exact ⟨rfl, hvalid⟩
      | error e => exact absurd ((config_of_invalid hvalid).symm.trans hconfig) nofun
    · intro ⟨hconfig, hvalid⟩
      rw [hconfig] at hvalid
      rw [hconfig, config_of_valid hvalid]
  · constructor
    · intro hfailure
      cases hvalid : (c.config p current).validate with
      | ok _ => exact absurd ((config_of_valid hvalid).symm.trans hfailure) nofun
      | error e =>
        have hreported := (config_of_invalid hvalid).symm.trans hfailure
        exact ⟨e, rfl, (Except.error.inj hreported).symm⟩
    · intro ⟨e, hinvalid, hfailure⟩
      rw [hfailure, config_of_invalid hinvalid]

/-- A port is preset, and the same is chosen for the other service, for which another one is preset.
What is chosen counts, so that the port is used twice. -/
theorem chosen_port_meets_preset_one : ∃ options,
    RunOptions.parseBytes
        [("MYCO_SERVER2_PORT", encode "5000".toList), ("MYCO_SERVER1_PORT", encode "+05002".toList),
          ("MYCO_TASK_RUNNER", encode "make".toList)]
        [encode "--server1-timeout=9".toList, encode "--server2-port=5002".toList,
          encode "--working-dir=/w".toList, encode "--json".toList] = .ok options ∧
    options =
      ⟨false, true, some (.ofString "/w"), some "make", some 5002, some 5002, none, some 9⟩ ∧
    options.config (.ok (.ofString "/")) =
      .error (.configuration (ConfigError.duplicatePort 5002).message) := by
  let preset : Preset :=
    { workingDir := none
      taskRunner := some "make"
      server1Port := some ⟨5002, "+05002".toList, .inr ⟨_, rfl, 1, rfl⟩, by decide⟩
      server2Port := some ⟨5000, "5000".toList, .inl ⟨0, rfl⟩, by decide⟩ }
  let choice : Choice :=
    { workingDir := some ⟨.ofString "/w", by decide⟩
      taskRunner := none
      server1Port := none
      server2Port := some ⟨5002, "5002".toList, .inl ⟨0, rfl⟩, by decide⟩
      verbose := false
      json := true
      server2Timeout := none
      server1Timeout := some ⟨9, "9".toList, .inl ⟨0, rfl⟩, by decide⟩ }
  refine ⟨choice.options preset, ?_⟩
  refine (command_line_makes_configuration choice preset (.ofString "/") ?vars ?args).imp_right
    fun h => ⟨?_, ?_⟩
  case vars =>
    exact ⟨by decide +kernel, by decide +kernel, by decide +kernel, by decide +kernel⟩
  case args => decide +kernel
  · decide +kernel
  · exact (h.2 _).mpr ⟨.duplicatePort 5002, by decide, rfl⟩

end LatencyHarness
