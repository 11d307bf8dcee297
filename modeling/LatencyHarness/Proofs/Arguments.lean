import LatencyHarness.CommandLine.Parser
import LatencyHarness.Proofs.Lookups
import LatencyHarness.Proofs.Texts

/-! What is made of a command line of flags and of options with their values attached.

Each argument adds one setting, in whatever order they come, and then each variable adds one for an
option that has not been given. So what an option is set to is what is given, and else what its
variable says. -/
namespace LatencyHarness.CommandLine

open Text (dropWhile_ne_append takeWhile_ne_append dropWhile_ne_of_notMem takeWhile_ne_of_notMem)
open Text.Utf8 (Bytes encode)

section Reading

variable {κ : Type} {g : Grammar κ} {env : Environment}

/-! ### One argument -/

/-- A flag, or an option with a value attached to it, and what it is read as. -/
structure Given (κ : Type) where
  name : String
  key : κ
  raw? : Option Bytes
  value : Value

namespace Given

/-- Two dashes and the name; behind an equals sign the value, if there is one. -/
def argument (x : Given κ) : Bytes :=
  Argument.dash :: Argument.dash ::
    (encode x.name.toList ++ (x.raw?.map (Argument.equals :: ·)).getD [])

/-- The argument of an option with a value. -/
theorem argument_value {name : String} {key : κ} {raw : Bytes} {value : Value} {front : Bytes}
    (hfront : front = Argument.dash :: Argument.dash ::
      (encode name.toList ++ [Argument.equals])) :
    argument ⟨name, key, some raw, value⟩ = front ++ raw := by
  rw [hfront, List.cons_append, List.cons_append, List.append_assoc]
  rfl

def setting (x : Given κ) : κ × Value := (x.key, x.value)

/-- The grammar has such an option, and its value is read so. -/
inductive Fits (g : Grammar κ) : Given κ → Prop where
  | flag {o : OptionSpec κ} {key : κ} (named : g.named? o.name = some o)
    (effect : o.effect = .flag key) : Fits g ⟨o.name, key, none, .present⟩
  | value {o : OptionSpec κ} {key : κ} {spec : ValueSpec} {raw : Bytes} {v : Value}
    (named : g.named? o.name = some o) (effect : o.effect = .value key spec)
    (reads : spec.kind.readBytes raw = .ok v) : Fits g ⟨o.name, key, some raw, v⟩

end Given

/-- A name is something, and has no equals sign in it. -/
def IsName (name : String) : Prop :=
  encode name.toList ≠ [] ∧ Argument.equals ∉ encode name.toList

instance (name : String) : Decidable (IsName name) :=
  inferInstanceAs (Decidable (_ ≠ [] ∧ _ ∉ _))

/-- An option that need not be given and has no standing value. -/
def OptionSpec.isFree (o : OptionSpec κ) : Bool :=
  match o.effect with
  | .value _ spec => spec.default?.isNone && !spec.required
  | _ => true

theorem of_isFree {o : OptionSpec κ} {key : κ} {spec : ValueSpec} (h : o.isFree = true)
    (heffect : o.effect = .value key spec) : spec.default? = none ∧ spec.required = false := by
  unfold OptionSpec.isFree at h
  rw [heffect] at h
  simpa using h

/-- All options have proper names, need not be given, and have no standing values. -/
structure Grammar.IsFree (g : Grammar κ) : Prop where
  named : ∀ o ∈ g.options, IsName o.name
  free : ∀ o ∈ g.options, o.isFree = true

theorem name_of_named? {name : String} {o : OptionSpec κ} (h : g.named? name = some o) :
    o.name = name := by
  unfold Grammar.named? at h
  have hfound := List.find?_some h
  exact eq_of_beq hfound

theorem shown_encode (text : List Char) : shown (encode text) = String.ofList text := by
  unfold shown
  rw [Text.Utf8.decodeLossy_encode]

theorem ofBytes_dashes {r : Bytes} (hr : r ≠ []) :
    Argument.ofBytes (Argument.dash :: Argument.dash :: r) = .ofName r := by
  simp [Argument.ofBytes, hr]

theorem ofBytes_argument {x : Given κ} (hname : IsName x.name) :
    Argument.ofBytes x.argument = .named x.name x.raw? := by
  obtain ⟨hne, hequals⟩ := hname
  have hshown : shown (encode x.name.toList) = x.name := by
    rw [shown_encode, String.ofList_toList]
  unfold Given.argument
  rw [ofBytes_dashes (List.append_ne_nil_of_left_ne_nil hne _), Argument.ofName]
  cases x.raw? with
  | none =>
    rw [Option.map_none, Option.getD_none, List.append_nil, takeWhile_ne_of_notMem hequals,
      dropWhile_ne_of_notMem hequals, hshown]
    rfl
  | some raw =>
    rw [Option.map_some, Option.getD_some, takeWhile_ne_append hequals,
      dropWhile_ne_append hequals, hshown]
    rfl

/-! ### What the variables say -/

/-- What the variable of an option is read as, if the option has one and it is set. -/
def OptionSpec.readVariable? (env : Environment) (o : OptionSpec κ) :
    Option (κ × Except ValueFault Value) :=
  match o.effect with
  | .value key spec =>
    (spec.fallback?.bind (env.lookup ·)).map fun raw => (key, spec.kind.readBytes raw)
  | _ => none

/-- The setting that the variable of an option makes. -/
def OptionSpec.inherited? (env : Environment) (o : OptionSpec κ) : Option (κ × Value) :=
  (o.readVariable? env).bind fun (key, read) => read.toOption.map fun v => (key, v)

/-- No variable is set to what cannot be read. -/
def Grammar.Reads (g : Grammar κ) (env : Environment) : Prop :=
  ∀ o ∈ g.options, ∀ key read, o.readVariable? env = some (key, read) → ∃ v, read = .ok v

/-- The settings that variables make. -/
def Grammar.inherited (g : Grammar κ) (env : Environment) : Settings κ :=
  g.options.flatMap fun o => (o.inherited? env).toList

/-- The key of an option with a value. -/
def OptionSpec.valueKey? (o : OptionSpec κ) : Option κ :=
  match o.effect with
  | .value key _ => some key
  | _ => none

/-- The keys of the options with values. -/
def Grammar.valueKeys (g : Grammar κ) : List κ := g.options.filterMap (·.valueKey?)

/-- What the variables are read as, key by key. -/
def Grammar.Inherits (g : Grammar κ) (env : Environment) (value? : κ → Option Value) : Prop :=
  ∀ o ∈ g.options, o.readVariable? env =
    o.valueKey?.bind fun key => (value? key).map fun v => (key, .ok v)

/-- The variable of an option, where all that it may be set to can be read. -/
theorem readVariable?_of_lookup {α : Type} {o : OptionSpec κ} {key : κ} {spec : ValueSpec}
    {name : String} {x : Option α} {raw : α → Bytes} {value : α → Value}
    (heffect : o.effect = .value key spec) (hname : spec.fallback? = some name)
    (hset : env.lookup name = x.map raw)
    (hreads : ∀ a, spec.kind.readBytes (raw a) = .ok (value a)) :
    o.readVariable? env = (x.map value).map fun v => (key, .ok v) := by
  unfold OptionSpec.readVariable?
  rw [heffect]
  dsimp only
  rw [hname, Option.bind_some, hset]
  cases x with
  | none => rfl
  | some a => rw [Option.map_some, Option.map_some, hreads, Option.map_some, Option.map_some]

theorem Grammar.Inherits.reads {value? : κ → Option Value} (h : g.Inherits env value?) :
    g.Reads env := by
  intro o ho key read hread
  rw [h o ho] at hread
  obtain ⟨key', -, hkey⟩ := Option.bind_eq_some_iff.mp hread
  obtain ⟨v, -, hv⟩ := Option.map_eq_some_iff.mp hkey
  exact ⟨v, (Prod.mk.inj hv).2.symm⟩

/-- The setting of a key is what its variable is read as. -/
theorem Grammar.Inherits.lookup [DecidableEq κ] {value? : κ → Option Value}
    (h : g.Inherits env value?) (k : κ) :
    (g.inherited env).lookup k = if k ∈ g.valueKeys then value? k else none := by
  have hinherited : g.inherited env =
      g.valueKeys.filterMap fun key => (value? key).map fun v => (key, v) := by
    unfold Grammar.inherited Grammar.valueKeys
    rw [← List.filterMap_eq_flatMap_toList, List.filterMap_filterMap]
    refine List.filterMap_congr fun o ho => ?_
    rw [OptionSpec.inherited?, h o ho]
    cases o.valueKey? with
    | none => rfl
    | some key =>
      rw [Option.bind_some, Option.bind_some]
      cases value? key with
      | none => rfl
      | some v => rfl
  rw [hinherited, lookup_filterMap]

end Reading

variable {κ : Type} [DecidableEq κ] {g : Grammar κ} {env : Environment} {s : Settings κ}

/-! ### One argument after the other -/

/-- An option that has not been given is added. -/
theorem add_of_new {option : String} {key : κ} {v : Value} (hnew : s.lookup key = none) :
    s.add option key (.ok v) = .ok (s ++ [(key, v)]) := by
  unfold Settings.add
  rw [hnew]
  rfl

theorem finish_named {a : Bytes} {name : String} {value? : Option Bytes} {o : OptionSpec κ}
    {p p' : Progress κ} (ha : Argument.ofBytes a = .named name value?)
    (hnamed : g.named? name = some o) (hoption : p.option o value? = .ok p') (rest : List Bytes) :
    Progress.finish g p (a :: rest) = Progress.finish g p' rest := by
  rw [Progress.finish.eq_def]
  simp only [ha, hnamed, hoption]
  rfl

/-- An option that is given adds its setting. -/
theorem option_given {x : Given κ} {o : OptionSpec κ} {read : Except ValueFault Value}
    (hread : read = .ok x.value) (hnew : s.lookup x.key = none) :
    (do return ⟨← s.add o.display x.key read, none⟩ : Except EarlyEnd (Progress κ)) =
      .ok ⟨s ++ [x.setting], none⟩ := by
  rw [hread, add_of_new hnew]
  rfl

/-- An argument adds its setting. -/
theorem finish_argument (hg : g.IsFree) {x : Given κ} (hx : x.Fits g)
    (hnew : s.lookup x.key = none) (rest : List Bytes) :
    Progress.finish g ⟨s, none⟩ (x.argument :: rest) =
      Progress.finish g ⟨s ++ [x.setting], none⟩ rest := by
  obtain ⟨o, hnamed, hoption⟩ : ∃ o, g.named? x.name = some o ∧
      Progress.option ⟨s, none⟩ o x.raw? = .ok ⟨s ++ [x.setting], none⟩ := by
    cases hx with
    | flag named effect =>
      refine ⟨_, named, ?_⟩
      simp only [Progress.option, effect]
      exact option_given rfl hnew
    | value named effect reads =>
      refine ⟨_, named, ?_⟩
      simp only [Progress.option, effect]
      exact option_given reads hnew
  have hname : IsName x.name := by
    rw [← name_of_named? hnamed]
    exact hg.named o (List.mem_of_find?_eq_some hnamed)
  exact finish_named (ofBytes_argument hname) hnamed hoption rest

/-- Arguments for different options add their settings, in the order of the arguments. -/
theorem finish_arguments (hg : g.IsFree) {xs : List (Given κ)} (hfits : ∀ x ∈ xs, x.Fits g)
    (hkeys : (xs.map (·.key)).Nodup) (hnew : ∀ x ∈ xs, s.lookup x.key = none) :
    Progress.finish g ⟨s, none⟩ (xs.map (·.argument)) = .ok (s ++ xs.map (·.setting)) := by
  induction xs generalizing s with
  | nil => rw [List.map_nil, List.map_nil, List.append_nil, Progress.finish, Progress.settle]
  | cons x xs ih =>
    obtain ⟨hx, hxs⟩ := List.forall_mem_cons.mp hfits
    obtain ⟨hnewx, hnewxs⟩ := List.forall_mem_cons.mp hnew
    obtain ⟨hother, hkeys⟩ := List.nodup_cons.mp hkeys
    -- the options behind this one are still new after it
    have hlater : ∀ y ∈ xs, (s ++ [x.setting]).lookup y.key = none := by
      intro y hy
      have hne : y.key ≠ x.key := by
        intro heq
        exact hother (List.mem_map.mpr ⟨y, hy, heq⟩)
      rw [List.lookup_append, hnewxs y hy, Option.none_or, Given.setting, List.lookup_cons,
        beq_false_of_ne hne]
      rfl
    rw [List.map_cons, List.map_cons, finish_argument hg hx hnewx, ih hxs hkeys hlater,
      List.append_assoc, List.singleton_append]

/-! ### What is not given -/

/-- The variable of an option adds its setting, unless the option has been given. -/
theorem addVariable_lookup {o : OptionSpec κ}
    (hreads : ∀ key read, o.readVariable? env = some (key, read) → ∃ v, read = .ok v) :
    ∃ s', s.addVariable env o = .ok s' ∧
      ∀ k, s'.lookup k = (s.lookup k).or ((o.inherited? env).toList.lookup k) := by
  have hkept (h : o.inherited? env = none) (k : κ) :
      s.lookup k = (s.lookup k).or ((o.inherited? env).toList.lookup k) := by
    rw [h]
    exact Option.or_none.symm
  unfold Settings.addVariable
  cases heffect : o.effect with
  | value key spec =>
    dsimp only
    cases hraw : spec.fallback?.bind (env.lookup ·) with
    | none =>
      refine ⟨s, ?_, hkept ?_⟩
      · cases (s.lookup key).isSome with
        | false => rfl
        | true => rfl
      · simp only [OptionSpec.inherited?, OptionSpec.readVariable?, heffect, hraw, Option.map_none,
          Option.bind_none]
    | some raw =>
      have hvariable : o.readVariable? env = some (key, spec.kind.readBytes raw) := by
        simp only [OptionSpec.readVariable?, heffect, hraw, Option.map_some]
      obtain ⟨v, hv⟩ := hreads key _ hvariable
      have hinherited : o.inherited? env = some (key, v) := by
        rw [OptionSpec.inherited?, hvariable, hv]
        rfl
      cases hgiven : s.lookup key with
      | none =>
        refine ⟨s ++ [(key, v)], ?_, fun k => ?_⟩
        · change s.add o.display key (spec.kind.readBytes raw) = _
          rw [hv]
          exact add_of_new hgiven
        · rw [hinherited, List.lookup_append]
          rfl
      | some w =>
        refine ⟨s, rfl, fun k => ?_⟩
        rw [hinherited]
        by_cases hk : k = key
        · rw [hk, hgiven, Option.some_or]
        · simp [List.lookup_cons, beq_false_of_ne hk]
  | flag _ | help | version =>
    refine ⟨s, rfl, hkept ?_⟩
    simp only [OptionSpec.inherited?, OptionSpec.readVariable?, heffect, Option.bind_none]

theorem addVariables_lookup {options : List (OptionSpec κ)}
    (hreads : ∀ o ∈ options, ∀ key read, o.readVariable? env = some (key, read) → ∃ v, read = .ok v) :
    ∃ s', options.foldlM (Settings.addVariable env) s = .ok s' ∧
      ∀ k, s'.lookup k =
        (s.lookup k).or ((options.flatMap fun o => (o.inherited? env).toList).lookup k) := by
  induction options generalizing s with
  | nil => exact ⟨s, rfl, fun k => (Option.or_none).symm⟩
  | cons o options ih =>
    obtain ⟨hfirst, hrest⟩ := List.forall_mem_cons.mp hreads
    obtain ⟨s₁, hadd, hs₁⟩ := addVariable_lookup (s := s) hfirst
    obtain ⟨s₂, hadds, hs₂⟩ := ih (s := s₁) hrest
    refine ⟨s₂, ?_, fun k => ?_⟩
    · rw [List.foldlM_cons, hadd]
      exact hadds
    · rw [hs₂, hs₁, List.flatMap_cons, List.lookup_append, Option.or_assoc]

/-- Options without standing values add nothing. -/
theorem addDefaults_of_free {options : List (OptionSpec κ)}
    (hfree : ∀ o ∈ options, o.isFree = true) : options.foldl Settings.addDefault s = s := by
  induction options with
  | nil => rfl
  | cons o options ih =>
    obtain ⟨ho, hrest⟩ := List.forall_mem_cons.mp hfree
    have hsame : s.addDefault o = s := by
      unfold Settings.addDefault
      cases heffect : o.effect with
      | value key spec =>
        dsimp only
        rw [(of_isFree ho heffect).1]
        cases (s.lookup key).isSome with
        | false => rfl
        | true => rfl
      | flag _ | help | version => rfl
    rw [List.foldl_cons, hsame]
    exact ih hrest

theorem checkRequired_of_free (hg : g.IsFree) : s.checkRequired g = .ok () := by
  have hlacks : g.options.filter s.lacks = [] := by
    refine List.filter_eq_nil_iff.mpr fun o ho => ?_
    unfold Settings.lacks
    cases heffect : o.effect with
    | value key spec =>
      dsimp only
      rw [(of_isFree (hg.free o ho) heffect).2, Bool.false_and]
      exact Bool.false_ne_true
    | flag _ | help | version => exact Bool.false_ne_true
  unfold Settings.checkRequired
  rw [hlacks]

/-- What an option is set to is what is given, whatever the order of the arguments, and else what
its variable says. -/
theorem parse_given (hg : g.IsFree) {xs ys : List (Given κ)} (hperm : ys.Perm xs)
    (hfits : ∀ x ∈ xs, x.Fits g) (hkeys : (xs.map (·.key)).Nodup) (hreads : g.Reads env) :
    ∃ s, g.parse env (ys.map (·.argument)) = .ok s ∧
      ∀ k, s.lookup k = ((xs.map (·.setting)).lookup k).or ((g.inherited env).lookup k) := by
  have hfinish : Progress.finish g ⟨[], none⟩ (ys.map (·.argument)) =
      .ok ([] ++ ys.map (·.setting)) :=
    finish_arguments hg (fun y hy => hfits y (hperm.mem_iff.mp hy))
      ((hperm.map _).nodup_iff.mpr hkeys) fun _ _ => rfl
  obtain ⟨s, hadds, hs⟩ := addVariables_lookup (s := ys.map (·.setting)) hreads
  have hnames : ((xs.map (·.setting)).map (·.1)).Nodup := by
    rw [List.map_map]
    exact hkeys
  refine ⟨s, ?_, fun k => ?_⟩
  · unfold Grammar.parse
    rw [hfinish, List.nil_append]
    change (g.options.foldlM (Settings.addVariable env) (ys.map (·.setting)) >>= _) = _
    rw [hadds]
    change ((g.options.foldl Settings.addDefault s).checkRequired g >>= fun _ => _) = _
    rw [addDefaults_of_free hg.free, checkRequired_of_free hg]
    rfl
  · rw [hs, lookup_perm (hperm.map (·.setting)).symm hnames]
    rfl

end LatencyHarness.CommandLine
