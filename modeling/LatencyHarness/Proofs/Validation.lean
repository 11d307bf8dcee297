import LatencyHarness.Proofs.PatternSweep

/-! What a configuration has to meet, and that the checks on it look for just that.

The requirements are checked one after the other, and the first that is not met is reported. A plan
can be made of a configuration if it meets all of them, and then nothing that a plan is made of can
fail. -/
namespace LatencyHarness

open Text

variable {σ : Type} {c : Config}

/-- A text with a character that is not blank. -/
def HasText (s : String) : Prop := ∃ x ∈ s.toList, isBlank x = false

/-- A condition on a configuration. -/
inductive Requirement where
  | unprivilegedPort (role : Role)
  /-- no service that is started earlier has the port -/
  | ownPort (role : Role)
  | marker (role : Role)
  | timeout (role : Role)
  | program (role : Role)
  | clientProgram
  /-- the text of a pattern is well formed -/
  | pattern (text : String)

namespace Requirement

def Holds (c : Config) : Requirement → Prop
  | unprivilegedPort role => 1024 ≤ (c.service role).port.toNat
  | ownPort role =>
    ∀ earlier : Role, earlier.rank < role.rank → (c.service earlier).port ≠ (c.service role).port
  | marker role => HasText (c.service role).marker
  | timeout role => 0 < (c.service role).startupTimeout
  | program role => HasText (c.service role).launch.program
  | clientProgram => HasText c.client.program
  | pattern text => ∃ p, Pattern.ofString? text = some p

/-- What is reported of a requirement that is not met. -/
def error [Pattern.Wording] (c : Config) : Requirement → ConfigError
  | unprivilegedPort role => .privilegedPort (c.service role).port
  | ownPort role => .duplicatePort (c.service role).port
  | marker role => .emptyMarker role
  | timeout role => .zeroTimeout role
  | program role => .emptyProgram role.name
  | clientProgram => .emptyProgram "client"
  | pattern text => .invalidPattern text (Pattern.Wording.reason text)

/-- The requirements on the service of a role. -/
def ofService (role : Role) : List Requirement :=
  [unprivilegedPort role, ownPort role, marker role, timeout role, program role]

end Requirement

namespace Config

/-- All requirements in the order of the checks: those on the services in start order, that on the
client, and those on the patterns, the ones for escalating last. -/
def requirements (c : Config) : List Requirement :=
  Role.startOrder.flatMap Requirement.ofService ++ .clientProgram ::
    (c.sweepPatterns.map .pattern ++ c.escalationPatterns.map .pattern)

/-- A configuration that can be run. -/
structure IsSound (c : Config) : Prop where
  unprivileged : ∀ role, 1024 ≤ (c.service role).port.toNat
  distinct : c.server2.port ≠ c.server1.port
  marked : ∀ role, HasText (c.service role).marker
  patient : ∀ role, 0 < (c.service role).startupTimeout
  launchable : ∀ role, HasText (c.service role).launch.program
  client : HasText c.client.program
  sweepable : ∀ text ∈ c.sweepPatterns, ∃ p, Pattern.ofString? text = some p
  escalable : ∀ text ∈ c.escalationPatterns, ∃ p, Pattern.ofString? text = some p

theorem IsSound.holds_ofService (h : c.IsSound) (role : Role) :
    ∀ q ∈ Requirement.ofService role, q.Holds c := by
  have hown : (Requirement.ownPort role).Holds c := by
    intro earlier hearlier
    -- only the second service has one before it
    cases role with
    | server2 => exact absurd hearlier (Nat.not_lt_zero _)
    | server1 =>
      cases earlier with
      | server2 => exact h.distinct
      | server1 => exact absurd hearlier (Nat.lt_irrefl _)
  simp only [Requirement.ofService, List.forall_mem_cons, List.not_mem_nil, false_implies,
    implies_true, and_true]
  exact ⟨h.unprivileged role, hown, h.marked role, h.patient role, h.launchable role⟩

/-- A configuration can be run if it meets all requirements. -/
theorem isSound_iff : c.IsSound ↔ ∀ q ∈ c.requirements, q.Holds c := by
  constructor
  · intro h q hq
    rcases List.mem_append.mp hq with hservice | hrest
    · obtain ⟨role, -, hq⟩ := List.mem_flatMap.mp hservice
      exact h.holds_ofService role q hq
    · rcases List.mem_cons.mp hrest with rfl | hpattern
      · exact h.client
      · rcases List.mem_append.mp hpattern with hsweep | hescalation
        · obtain ⟨text, htext, rfl⟩ := List.mem_map.mp hsweep
          exact h.sweepable text htext
        · obtain ⟨text, htext, rfl⟩ := List.mem_map.mp hescalation
          exact h.escalable text htext
  · intro h
    have hservice (role : Role) (q : Requirement) (hq : q ∈ Requirement.ofService role) :
        q.Holds c :=
      h q (List.mem_append_left _ (List.mem_flatMap.mpr ⟨role, role.mem_startOrder, hq⟩))
    have hrest (q : Requirement) (hq : q ∈ Requirement.clientProgram ::
        (c.sweepPatterns.map .pattern ++ c.escalationPatterns.map .pattern)) : q.Holds c :=
      h q (List.mem_append_right _ hq)
    have hpattern (text : String) (htext : text ∈ c.sweepPatterns ∨ text ∈ c.escalationPatterns) :
        (Requirement.pattern text).Holds c := by
      refine hrest _ (List.mem_cons_of_mem _ ?_)
      rw [List.mem_append, List.mem_map, List.mem_map]
      exact htext.imp (fun ht => ⟨text, ht, rfl⟩) fun ht => ⟨text, ht, rfl⟩
    exact {
      unprivileged := fun role => hservice role _ List.mem_cons_self
      distinct := hservice .server1 (.ownPort .server1) (by simp [Requirement.ofService]) .server2
        (by decide)
      marked := fun role => hservice role (.marker role) (by simp [Requirement.ofService])
      patient := fun role => hservice role (.timeout role) (by simp [Requirement.ofService])
      launchable := fun role => hservice role (.program role) (by simp [Requirement.ofService])
      client := hrest _ List.mem_cons_self
      sweepable := fun text ht => hpattern text (.inl ht)
      escalable := fun text ht => hpattern text (.inr ht) }

end Config

theorem Config.isBlank_eq_false {s : String} : isBlank s = false ↔ HasText s := by
  unfold isBlank isBlankText HasText
  simp

section Checks

variable [Pattern.Wording]

/-! ### One check after the other -/

/-- What is found of some requirements that are checked in order, up to the first that is not met. -/
inductive Checks (c : Config) : List Requirement → Except ConfigError Unit → Prop where
  | done : Checks c [] (.ok ())
  | met {q : Requirement} {qs : List Requirement} {x : Except ConfigError Unit} (holds : q.Holds c)
    (rest : Checks c qs x) : Checks c (q :: qs) x
  | broken {q : Requirement} {qs : List Requirement} (fails : ¬ q.Holds c) :
    Checks c (q :: qs) (.error (q.error c))

namespace Checks

variable {qs rs : List Requirement} {x y : Except ConfigError Unit} {e : ConfigError}

theorem append (hx : Checks c qs x) (hy : Checks c rs y) :
    Checks c (qs ++ rs) (x >>= fun _ => y) := by
  induction hx with
  | done => exact hy
  | met holds _ ih => exact .met holds ih
  | broken fails => exact .broken fails

theorem eq_ok_iff (hx : Checks c qs x) : x = .ok () ↔ ∀ q ∈ qs, q.Holds c := by
  induction hx with
  | done => simp
  | met holds _ ih =>
    rw [ih, List.forall_mem_cons]
    exact ⟨fun h => ⟨holds, h⟩, fun h => h.2⟩
  | broken fails => exact ⟨nofun, fun h => absurd (h _ List.mem_cons_self) fails⟩

/-- There is one outcome. -/
theorem unique (hx : Checks c qs x) (hy : Checks c qs y) : x = y := by
  induction hx with
  | done =>
    cases hy
    rfl
  | met holds _ ih =>
    cases hy with
    | met _ rest => exact ih rest
    | broken fails => exact absurd holds fails
  | broken fails =>
    cases hy with
    | met holds _ => exact absurd holds fails
    | broken _ => rfl

theorem of_broken {met rest : List Requirement} {broken : Requirement}
    (hmet : ∀ q ∈ met, q.Holds c) (hbroken : ¬ broken.Holds c) :
    Checks c (met ++ broken :: rest) (.error (broken.error c)) := by
  induction met with
  | nil => exact .broken hbroken
  | cons q met ih =>
    obtain ⟨hq, hmet⟩ := List.forall_mem_cons.mp hmet
    exact .met hq (ih hmet)

/-- A requirement is reported just when it is not met and all before it are. -/
theorem eq_error_iff (hx : Checks c qs x) : x = .error e ↔ ∃ met broken rest,
    qs = met ++ broken :: rest ∧ (∀ q ∈ met, q.Holds c) ∧ ¬ broken.Holds c ∧
      e = broken.error c := by
  constructor
  · intro he
    induction hx with
    | done => exact absurd he nofun
    | met holds _ ih =>
      obtain ⟨met, broken, rest, hqs, hmet, hbroken⟩ := ih he
      exact ⟨_ :: met, broken, rest, congrArg _ hqs, List.forall_mem_cons.mpr ⟨holds, hmet⟩, hbroken⟩
    | @broken q qs fails =>
      exact ⟨[], q, qs, rfl, List.forall_mem_nil _, fails, (Except.error.inj he).symm⟩
  · rintro ⟨met, broken, rest, rfl, hmet, hbroken, rfl⟩
    exact hx.unique (of_broken hmet hbroken)

end Checks

/-! ### The checks on a configuration -/

namespace Config

/-- The checks on a service, with the ports of the services before it. -/
theorem checkService_checks {taken : List Port} {role : Role}
    (htaken : ∀ port, port ∈ taken ↔
      ∃ earlier : Role, earlier.rank < role.rank ∧ (c.service earlier).port = port) :
    Checks c (Requirement.ofService role) (checkService taken role (c.service role)) := by
  have hport : ¬ (c.service role).port < 1024 ↔ (Requirement.unprivilegedPort role).Holds c := by
    rw [UInt16.lt_iff_toNat_lt]
    exact Nat.not_lt
  have hown : ¬ (taken.contains (c.service role).port = true) ↔
      (Requirement.ownPort role).Holds c := by
    rw [List.contains_iff_mem, htaken]
    exact ⟨fun h earlier hrank heq => h ⟨earlier, hrank, heq⟩,
      fun h ⟨earlier, hrank, heq⟩ => h earlier hrank heq⟩
  have htext (s : String) : ¬ isBlank s = true ↔ HasText s := by
    rw [Bool.not_eq_true, isBlank_eq_false]
  have htimeout : ¬ (c.service role).startupTimeout = 0 ↔ (Requirement.timeout role).Holds c :=
    Nat.pos_iff_ne_zero.symm
  unfold checkService
  -- one branch for each requirement, in order
  split
  · next h => exact .broken fun hmet => hport.mpr hmet h
  · next h =>
    refine .met (hport.mp h) ?_
    split
    · next h => exact .broken fun hmet => hown.mpr hmet h
    · next h =>
      refine .met (hown.mp h) ?_
      split
      · next h => exact .broken fun hmet => (htext _).mpr hmet h
      · next h =>
        refine .met ((htext _).mp h) ?_
        split
        · next h => exact .broken fun hmet => htimeout.mpr hmet h
        · next h =>
          refine .met (htimeout.mp h) ?_
          split
          · next h => exact .broken fun hmet => (htext _).mpr hmet h
          · next h => exact .met ((htext _).mp h) .done

theorem compile_cons (text : String) (texts : List String) :
    compile (text :: texts) =
      match Pattern.ofString? text with
      | none => .error (.invalidPattern text (Pattern.Wording.reason text))
      | some p => (compile texts).map (p :: ·) := by
  unfold compile
  rw [Pattern.compile]
  cases Pattern.ofString? text with
  | none => rfl
  | some p =>
    cases Pattern.compile texts with
    | ok ps => rfl
    | error e => rfl

theorem compile_checks (c : Config) (texts : List String) :
    Checks c (texts.map .pattern) ((compile texts).map fun _ => ()) := by
  induction texts with
  | nil => exact .done
  | cons text texts ih =>
    rw [List.map_cons, compile_cons]
    cases htext : Pattern.ofString? text with
    | none =>
      refine .broken (q := .pattern text) ?_
      rintro ⟨p, hp⟩
      exact absurd (htext.symm.trans hp) nofun
    | some p =>
      refine .met ⟨p, htext⟩ ?_
      have hmap : ((compile texts).map (p :: ·)).map (fun _ => ()) =
          (compile texts).map fun _ => () := by
        cases compile texts with
        | ok ps => rfl
        | error e => rfl
      exact hmap.symm ▸ ih

/-- The check on the client. -/
def checkClient (c : Config) : Except ConfigError Unit :=
  if isBlank c.client.program then .error (.emptyProgram "client") else .ok ()

theorem checkClient_checks (c : Config) : Checks c [.clientProgram] c.checkClient := by
  unfold checkClient
  split
  · next h =>
    refine .broken (q := .clientProgram) fun hmet => ?_
    exact absurd h (by rw [isBlank_eq_false.mpr hmet]; exact Bool.false_ne_true)
  · next h => exact .met (isBlank_eq_false.mp (Bool.eq_false_of_not_eq_true h)) .done

/-- A configuration is checked part by part. -/
theorem validate_eq (c : Config) : c.validate = (do
    checkService [] .server2 c.server2
    checkService [c.server2.port] .server1 c.server1
    c.checkClient
    (compile c.sweepPatterns).map fun _ => ()
    (compile c.escalationPatterns).map fun _ => ()) := by
  unfold validate checkClient escalation sweep
  cases checkService [] .server2 c.server2 with
  | error e => rfl
  | ok _ =>
    cases checkService [c.server2.port] .server1 c.server1 with
    | error e => rfl
    | ok _ =>
      split
      · rfl
      · cases compile c.sweepPatterns with
        | error e => rfl
        | ok patterns =>
          cases compile c.escalationPatterns with
          | error e => rfl
          | ok more => rfl

/-- The checks on a configuration are those on its requirements. -/
theorem validate_checks (c : Config) : Checks c c.requirements c.validate := by
  have hserver2 : Checks c (Requirement.ofService .server2)
      (checkService [] .server2 c.server2) :=
    checkService_checks fun port => by simp [Role.rank]
  have hserver1 : Checks c (Requirement.ofService .server1)
      (checkService [c.server2.port] .server1 c.server1) := by
    refine checkService_checks fun port => ?_
    rw [List.mem_singleton]
    constructor
    · exact fun h => ⟨.server2, by decide, h.symm⟩
    · rintro ⟨earlier, hrank, rfl⟩
      cases earlier with
      | server2 => rfl
      | server1 => exact absurd hrank (Nat.lt_irrefl _)
  have hpatterns := (compile_checks c c.sweepPatterns).append
    (compile_checks c c.escalationPatterns)
  have hparts : c.requirements = Requirement.ofService .server2 ++
      (Requirement.ofService .server1 ++ ([.clientProgram] ++
        (c.sweepPatterns.map .pattern ++ c.escalationPatterns.map .pattern))) := by
    simp [requirements, Role.startOrder]
  rw [validate_eq, hparts]
  exact hserver2.append (hserver1.append ((checkClient_checks c).append hpatterns))

/-- The patterns of a configuration that has passed the checks can be had. -/
theorem patterns_of_validate (h : c.validate = .ok ()) : ∃ patterns more,
    c.sweep = .ok patterns ∧ compile c.escalationPatterns = .ok more ∧
      c.escalation = .ok (patterns ++ more) := by
  have hmet := c.validate_checks.eq_ok_iff.mp h
  have hcompiles (texts : List String)
      (htexts : ∀ text ∈ texts, Requirement.pattern text ∈ c.requirements) :
      ∃ patterns, compile texts = .ok patterns := by
    have hall : ∀ q ∈ texts.map Requirement.pattern, q.Holds c := by
      intro q hq
      obtain ⟨text, htext, rfl⟩ := List.mem_map.mp hq
      exact hmet _ (htexts text htext)
    have hok := (compile_checks c texts).eq_ok_iff.mpr hall
    cases hcompile : compile texts with
    | ok patterns => exact ⟨patterns, rfl⟩
    | error e =>
      rw [hcompile] at hok
      exact absurd hok nofun
  obtain ⟨patterns, hpatterns⟩ := hcompiles c.sweepPatterns fun text htext => by
    simp [requirements, htext]
  obtain ⟨more, hmore⟩ := hcompiles c.escalationPatterns fun text htext => by
    simp [requirements, htext]
  refine ⟨patterns, more, hpatterns, hmore, ?_⟩
  unfold escalation sweep
  rw [hpatterns, hmore]
  rfl

end Config

/-! ### Plans -/

/-- What a supervisor goes by under a configuration with these patterns. -/
def Config.supervision (c : Config) (r : Reclaimer σ) (patterns : List Pattern) : Supervision σ :=
  ⟨c.workingDir, c.ports, patterns, c.pollInterval, c.teardown, r⟩

/-- Whatever is made of the patterns of a configuration comes about, and agrees. -/
structure Compiles (c : Config) (r : Reclaimer σ) (patterns more : List Pattern) : Prop where
  sweep : c.sweep = .ok patterns
  further : Config.compile c.escalationPatterns = .ok more
  escalation : c.escalation = .ok (patterns ++ more)
  supervision : Supervision.ofConfig c r = .ok (c.supervision r patterns)
  plan : Plan.ofConfig c r = .ok ⟨c, patterns, patterns ++ more, c.supervision r patterns⟩

theorem compiles_of_validate (r : Reclaimer σ) (h : c.validate = .ok ()) :
    ∃ patterns more, Compiles c r patterns more := by
  obtain ⟨patterns, more, hsweep, hmore, hescalation⟩ := Config.patterns_of_validate h
  have hsupervision : Supervision.ofConfig c r = .ok (c.supervision r patterns) := by
    unfold Supervision.ofConfig
    rw [hsweep]
    rfl
  have hplan : Plan.ofConfig c r =
      .ok ⟨c, patterns, patterns ++ more, c.supervision r patterns⟩ := by
    unfold Plan.ofConfig
    rw [h, hsweep, hescalation, hsupervision]
    rfl
  exact ⟨patterns, more, hsweep, hmore, hescalation, hsupervision, hplan⟩

theorem Plan.ofConfig_of_error {e : ConfigError} (r : Reclaimer σ) (h : c.validate = .error e) :
    ofConfig c r = .error (.configuration e.message) := by
  unfold ofConfig
  rw [h]
  rfl

/-- A configuration passes the checks if and only if it can be run; otherwise the first requirement
that it does not meet is reported, in the order of the checks. A plan can be made of it if and only if
it passes, and if it does not, the failure is the text of what is reported. Where it passes, nothing
that a plan is made of can fail: not the patterns of the sweep, nor those for escalating, nor what
the supervisor goes by. -/
theorem Config.validation_is_a_complete_gate (c : Config) (r : Reclaimer σ) :
    (c.validate = .ok () ↔ c.IsSound) ∧
    (∀ e, c.validate = .error e ↔ ∃ met broken rest, c.requirements = met ++ broken :: rest ∧
      (∀ q ∈ met, q.Holds c) ∧ ¬ broken.Holds c ∧ e = broken.error c) ∧
    ((∃ p, Plan.ofConfig c r = .ok p) ↔ c.validate = .ok ()) ∧
    (∀ failure, Plan.ofConfig c r = .error failure ↔
      ∃ e, c.validate = .error e ∧ failure = .configuration e.message) ∧
    (c.validate = .ok () → ∃ patterns more, Compiles c r patterns more) := by
  have hchecks := c.validate_checks
  refine ⟨hchecks.eq_ok_iff.trans isSound_iff.symm, fun e => hchecks.eq_error_iff, ?_,
    fun failure => ?_, compiles_of_validate r⟩
  · constructor
    · intro ⟨p, hp⟩
      cases hvalid : c.validate with
      | ok _ => rfl
      | error e => exact absurd (hp.symm.trans (Plan.ofConfig_of_error r hvalid)) nofun
    · intro hvalid
      obtain ⟨patterns, more, h⟩ := compiles_of_validate r hvalid
      exact ⟨_, h.plan⟩
  · constructor
    · intro hfailure
      cases hvalid : c.validate with
      | ok _ =>
        obtain ⟨patterns, more, h⟩ := compiles_of_validate r hvalid
        exact absurd (hfailure.symm.trans h.plan) nofun
      | error e =>
        have hreported := hfailure.symm.trans (Plan.ofConfig_of_error r hvalid)
        exact ⟨e, rfl, Except.error.inj hreported⟩
    · intro ⟨e, hinvalid, hfailure⟩
      rw [hfailure]
      exact Plan.ofConfig_of_error r hinvalid

end Checks

/-- Of a blank marker and a port that is used twice, the marker is found first: the port is looked at
on the turn of the second service. -/
example : ({ Config.withDefaults (.ofString "/w") with
    server2.marker := " ", server1.port := 3004 } : Config).validate =
      .error (.emptyMarker .server2) := by
  decide

end LatencyHarness
