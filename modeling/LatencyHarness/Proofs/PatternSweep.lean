import LatencyHarness.Proofs.Attempts
import LatencyHarness.Proofs.Ending
import LatencyHarness.Simulation.Captive

/-! What a sweep by pattern finds and kills.

It is after the processes whose command line matches some pattern, apart from threads and from the
harness itself. In which order the process table lists them makes no difference, and patterns put
behind the others only add to what is found. So the sweep of an escalation finds whatever one by the
patterns of the configuration alone would have found, and kills it if it can be killed. -/
namespace LatencyHarness

variable {σ : Type} [Host σ]

/-! ### The targets of a process table -/

namespace Probe

open scoped List

/-- A process that a sweep by some patterns is after, with the pattern that it is reported under:
of those that match, the first. -/
structure Sweeps (me : Pid) (patterns : List Pattern) (p : ProcessEntry) (m : Pattern) : Prop where
  whole : p.isThread = false
  other : p.pid ≠ me
  shown : p.commandLine ≠ ""
  first : patterns.find? (·.isMatch p.commandLine) = some m

/-- The target that such a process is. -/
def matched (p : ProcessEntry) (m : Pattern) : Target := ⟨p.pid, s!"matches /{m.text}/"⟩

variable {me : Pid} {patterns patterns' more : List Pattern} {p : ProcessEntry} {m : Pattern}
  {table table' : List ProcessEntry} {t : Target}

theorem patternTarget?_eq_some :
    patternTarget? me patterns p = some t ↔ ∃ m, Sweeps me patterns p m ∧ t = matched p m := by
  have hguard : (p.isThread || p.pid == me || p.commandLine.isEmpty) = true ↔
      ¬(p.isThread = false ∧ p.pid ≠ me ∧ p.commandLine ≠ "") := by
    simp only [Bool.or_eq_true, beq_iff_eq, String.isEmpty_iff, not_and_or, ne_eq, not_not,
      Bool.not_eq_false, or_assoc]
  unfold patternTarget?
  rw [Option.ite_none_left_eq_some, hguard, not_not, Option.map_eq_some_iff]
  constructor
  · rintro ⟨⟨hwhole, hother, hshown⟩, m, hfirst, rfl⟩
    exact ⟨m, ⟨hwhole, hother, hshown, hfirst⟩, rfl⟩
  · rintro ⟨m, hm, rfl⟩
    exact ⟨⟨hm.whole, hm.other, hm.shown⟩, m, hm.first, rfl⟩

theorem patternTargets_perm_filterMap : (patternTargets me patterns table).Perm
    (table.filterMap (patternTarget? me patterns)) := List.mergeSort_perm _ _

/-- The targets are the processes that the sweep is after, each with its first pattern. -/
theorem mem_patternTargets : t ∈ patternTargets me patterns table ↔
    ∃ p ∈ table, ∃ m, Sweeps me patterns p m ∧ t = matched p m := by
  rw [patternTargets_perm_filterMap.mem_iff, List.mem_filterMap]
  simp only [patternTarget?_eq_some]

/-- The processes that are found are those that some pattern matches. -/
theorem mem_pids {pid : Pid} : pid ∈ (patternTargets me patterns table).map (·.pid) ↔
    ∃ p ∈ table, p.pid = pid ∧ p.isThread = false ∧ p.pid ≠ me ∧ p.commandLine ≠ "" ∧
      ∃ m ∈ patterns, m.isMatch p.commandLine = true := by
  rw [List.mem_map]
  constructor
  · rintro ⟨t, ht, rfl⟩
    obtain ⟨p, hp, m, hm, rfl⟩ := mem_patternTargets.mp ht
    have hmatch : m.isMatch p.commandLine = true := by simpa using List.find?_some hm.first
    exact ⟨p, hp, rfl, hm.whole, hm.other, hm.shown, m, List.mem_of_find?_eq_some hm.first, hmatch⟩
  · rintro ⟨p, hp, rfl, hwhole, hother, hshown, hm⟩
    obtain ⟨m, hfirst⟩ := Option.isSome_iff_exists.mp (List.find?_isSome.mpr hm)
    exact ⟨matched p m, mem_patternTargets.mpr
      ⟨p, hp, m, ⟨hwhole, hother, hshown, hfirst⟩, rfl⟩, rfl⟩

/-- No process is found twice, if the table has it once. -/
theorem patternTargets_nodup (h : (table.map (·.pid)).Nodup) :
    ((patternTargets me patterns table).map (·.pid)).Nodup := by
  have hfound (l : List ProcessEntry) :
      ((l.filterMap (patternTarget? me patterns)).map (·.pid)).Sublist (l.map (·.pid)) := by
    induction l with
    | nil => exact .slnil
    | cons p l ih =>
      rw [List.filterMap_cons]
      cases htarget : patternTarget? me patterns p with
      | none => exact ih.cons p.pid
      | some t =>
        obtain ⟨m, -, rfl⟩ := patternTarget?_eq_some.mp htarget
        exact ih.cons_cons p.pid
  exact ((patternTargets_perm_filterMap.map _).nodup_iff).mpr ((hfound table).nodup h)

theorem patternTargets_increase (h : (table.map (·.pid)).Nodup) :
    (patternTargets me patterns table).Pairwise (·.pid < ·.pid) := by
  have htrans : ∀ a b c : Target, decide (a.pid ≤ b.pid) = true → decide (b.pid ≤ c.pid) = true →
      decide (a.pid ≤ c.pid) = true := by
    intro a b c hab hbc
    exact decide_eq_true (UInt32.le_trans (of_decide_eq_true hab) (of_decide_eq_true hbc))
  have htotal : ∀ a b : Target, (decide (a.pid ≤ b.pid) || decide (b.pid ≤ a.pid)) = true := by
    intro a b
    simpa using UInt32.le_total a.pid b.pid
  have hsorted : (patternTargets me patterns table).Pairwise fun a b =>
      decide (a.pid ≤ b.pid) = true := List.pairwise_mergeSort htrans htotal _
  have hdistinct : (patternTargets me patterns table).Pairwise (·.pid ≠ ·.pid) :=
    List.pairwise_map.mp (patternTargets_nodup h)
  -- sorted, and with no id twice, the ids increase strictly
  refine hsorted.imp₂ (fun a b hle hne => ?_) hdistinct
  exact UInt32.lt_of_le_of_ne (of_decide_eq_true hle) hne

/-- In whatever order the table lists the processes, the targets are the same. -/
theorem patternTargets_congr (htable : table'.Perm table) (h : (table.map (·.pid)).Nodup) :
    patternTargets me patterns table' = patternTargets me patterns table := by
  have h' : (table'.map (·.pid)).Nodup := (htable.map _).nodup_iff.mpr h
  have hperm : patternTargets me patterns table' ~ patternTargets me patterns table :=
    calc patternTargets me patterns table'
      _ ~ table'.filterMap (patternTarget? me patterns) := patternTargets_perm_filterMap
      _ ~ table.filterMap (patternTarget? me patterns) := htable.filterMap _
      _ ~ patternTargets me patterns table := patternTargets_perm_filterMap.symm
  -- two lists of the same targets, both in the order of the ids
  refine hperm.eq_of_pairwise (fun a b _ _ hab hba => ?_) (patternTargets_increase h')
    (patternTargets_increase h)
  exact absurd (UInt32.lt_trans hab hba) (UInt32.lt_irrefl _)

/-- In whatever order the patterns stand, the same processes are found. -/
theorem pids_congr (hpatterns : patterns'.Perm patterns) (h : (table.map (·.pid)).Nodup) :
    (patternTargets me patterns' table).map (·.pid) =
      (patternTargets me patterns table).map (·.pid) := by
  have hperm : ((patternTargets me patterns' table).map (·.pid)).Perm
      ((patternTargets me patterns table).map (·.pid)) := by
    refine (List.perm_ext_iff_of_nodup (patternTargets_nodup h) (patternTargets_nodup h)).mpr
      fun pid => ?_
    simp only [mem_pids, hpatterns.mem_iff]
  refine hperm.eq_of_pairwise (fun a b _ _ hab hba => ?_)
    (List.pairwise_map.mpr (patternTargets_increase h))
    (List.pairwise_map.mpr (patternTargets_increase h))
  exact absurd (UInt32.lt_trans hab hba) (UInt32.lt_irrefl _)

/-- Patterns behind the others only add targets. -/
theorem patternTargets_subset_append :
    patternTargets me patterns table ⊆ patternTargets me (patterns ++ more) table := by
  intro t ht
  obtain ⟨p, hp, m, hm, rfl⟩ := mem_patternTargets.mp ht
  have hfirst : (patterns ++ more).find? (·.isMatch p.commandLine) = some m := by
    rw [List.find?_append, hm.first, Option.some_or]
  exact mem_patternTargets.mpr ⟨p, hp, m, ⟨hm.whole, hm.other, hm.shown, hfirst⟩, rfl⟩

end Probe

theorem Config.escalation_append [Pattern.Wording] {c : Config} {escalation : List Pattern}
    (h : c.escalation = .ok escalation) :
    ∃ patterns more, c.sweep = .ok patterns ∧ compile c.escalationPatterns = .ok more ∧
      escalation = patterns ++ more := by
  obtain ⟨patterns, hsweep, hrest⟩ := Running.except_bind_ok h
  obtain ⟨more, hmore, hall⟩ := Running.except_bind_ok hrest
  exact ⟨patterns, more, hsweep, hmore, (Except.ok.inj hall).symm⟩

/-- What a sweep by some patterns would find now. -/
def Session.matching (s : Session σ) (patterns : List Pattern) : List Target :=
  Probe.patternTargets (Host.selfPid s.host) patterns (Host.processes s.host)

/-! ### Processes that can be killed -/

/-- The actions that do not signal a process. -/
def Action.spares (pid : Pid) : Action → Prop
  | signal _ r => r ≠ .process pid
  | _ => True

theorem Action.spares_of_sendsNothing {pid : Pid} (a : Action) (h : a.sendsNothing = true) :
    a.spares pid := by
  cases a with
  | signal _ _ => exact absurd h nofun
  | _ => trivial

namespace Session

variable {s s' : Session σ} {pid : Pid} {x : Attempt} {xs : List Attempt}

/-- A process that can be killed. Its id is the number of one, and as long as it has not been
signalled itself the kill signal gets to it, whatever else is done. -/
structure Killable (s : Session σ) (pid : Pid) : Prop where
  representable : pid.toNat ≤ maxOsPid
  reached : ∀ u, s.Reaches (Action.spares pid) u → u.answer .kill (.process pid) = .ok ()

theorem Killable.reaches (h : s.Killable pid) (hs : s.Reaches (Action.spares pid) s') :
    s'.Killable pid :=
  ⟨h.representable, fun u hu => h.reached u (hs.trans hu)⟩

/-- On the way from one session to the other a process is sent the kill signal, and gets it. -/
def Kills (s : Session σ) (pid : Pid) (s' : Session σ) : Prop :=
  ∃ u, s.Precedes u ∧ u.answer .kill (.process pid) = .ok () ∧
    (u.sent .kill (.process pid)).Precedes s'

theorem Kills.widen {t t' : Session σ} (h : s.Kills pid s') (ht : t.Precedes s)
    (ht' : s'.Precedes t') : t.Kills pid t' := by
  obtain ⟨u, hu, hanswer, hsent⟩ := h
  exact ⟨u, ht.trans hu, hanswer, hsent.trans ht'⟩

theorem Attempts.precedes (h : s.Attempts xs s') : s.Precedes s' :=
  h.reaches (fun _ _ => trivial) fun _ _ _ htry => htry.precedes

theorem Tries.spares (h : s.Tries x s') (hother : x.target.pid ≠ pid) :
    s.Reaches (Action.spares pid) s' := by
  cases h with
  | refused _ => exact .refl s
  | @sent t _ =>
    have hnoted : s.Reaches (Action.spares pid)
        ((Action.note (.sent .kill (.process t.pid))).apply s) := .step s trivial
    exact hnoted.tail (a := .signal .kill (.process t.pid)) fun h => hother (Recipient.process.inj h)

/-- What is sent to a process that can be killed is delivered. -/
theorem Tries.delivers (h : s.Tries x s') (hk : s.Killable x.target.pid) :
    x.fate = .delivered ∧ s.Kills x.target.pid s' := by
  cases h with
  | refused hbig => exact absurd hk.representable (Nat.not_le_of_lt hbig)
  | sent _ =>
    have hanswer := hk.reached s (.refl s)
    exact ⟨congrArg Fate.ofAnswer hanswer, s, .refl s, hanswer, .refl _⟩

/-- Of several attempts, each on another process, one on a process that can be killed kills it. -/
theorem Attempts.delivers (h : s.Attempts xs s') (hnodup : (xs.map (·.target.pid)).Nodup)
    (hx : x ∈ xs) (hk : s.Killable x.target.pid) :
    x.fate = .delivered ∧ s.Kills x.target.pid s' := by
  -- until its own attempt nobody signals the process, so it can still be killed then
  induction h with
  | done _ => exact absurd hx nofun
  | @next _ _ _ _ y ys hwait htry hrest ih =>
    obtain ⟨hnew, hnodup'⟩ := List.nodup_cons.mp hnodup
    have hk' := hk.reaches (hwait.mono fun a ha => a.spares_of_sendsNothing ha)
    rcases List.mem_cons.mp hx with rfl | hlater
    · obtain ⟨hfate, hkills⟩ := htry.delivers hk'
      exact ⟨hfate, hkills.widen hwait.precedes (Attempts.precedes hrest)⟩
    · -- its own attempt comes later
      have hother : y.target.pid ≠ x.target.pid := fun heq =>
        hnew (List.mem_map.mpr ⟨x, hlater, heq.symm⟩)
      obtain ⟨hfate, hkills⟩ := ih hnodup' hlater (hk'.reaches (htry.spares hother))
      exact ⟨hfate, hkills.widen (hwait.precedes.trans htry.precedes) (.refl _)⟩

end Session

/-! ### Sweeps -/

/-- Between two sessions each process that some patterns find in the first, that is not protected
and that can be killed, is killed and reported. -/
def Session.KillsMatching (s : Session σ) (patterns : List Pattern) (report : ReclaimReport)
    (s' : Session σ) : Prop :=
  ∀ t ∈ s.matching patterns, ¬(t.pid ≤ 1 ∨ t.pid = Host.selfPid s.host) → s.Killable t.pid →
    (∃ x ∈ report.killed, x.pid = t.pid) ∧ s.Kills t.pid s'

namespace Reclaimer

variable {r : Reclaimer σ} {s : Session σ}

/-- What a sweep reports is what it finds, as far as it is due and has been delivered. -/
theorem sweep_accounts (hσ : Host.KeepsPid σ) (hr : r.sweeper = .pattern)
    (patterns : List Pattern) (s : Session σ) :
    Ends (r.sweep patterns) s
      (Accounts (Target.due (Host.selfPid s.host) (s.matching patterns)) s) (fun _ _ => True) := by
  unfold sweep
  rw [hr, ← Target.dueAfter_nil]
  exact killTargets_accounts hσ r.pacing.killPause _ [] (s.matching patterns) s

/-- A sweep kills what matches its patterns, is not protected and can be killed. -/
theorem sweep_kills (hσ : Host.KeepsPid σ) (hr : r.sweeper = .pattern)
    (patterns : List Pattern) (s : Session σ) :
    Ends (r.sweep patterns) s (s.KillsMatching patterns) (fun _ _ => True) := by
  refine (sweep_accounts hσ hr patterns s).weaken fun report s' h t ht hspared hk => ?_
  obtain ⟨xs, hdue, hxs, htells⟩ := h
  -- of the targets with this process the first is due, and is attempted
  have hnamed : ((s.matching patterns).find? (·.pid == t.pid)).isSome :=
    List.find?_isSome.mpr ⟨t, ht, beq_self_eq_true t.pid⟩
  obtain ⟨first, hfirst⟩ := Option.isSome_iff_exists.mp hnamed
  have hpid : first.pid = t.pid := by simpa using List.find?_some hfirst
  have hmem : first ∈ xs.map (·.target) := by
    rw [hdue, Target.mem_due, hpid]
    exact ⟨hfirst, hspared⟩
  obtain ⟨x, hx, rfl⟩ := List.mem_map.mp hmem
  have hnodup : (xs.map (·.target.pid)).Nodup := by
    have hpids : xs.map (·.target.pid) = (xs.map (·.target)).map (·.pid) := List.map_map.symm
    rw [hpids, hdue]
    exact Target.due_nodup
  rw [← hpid] at hk ⊢
  obtain ⟨hfate, hkills⟩ := hxs.delivers hnodup hx hk
  refine ⟨⟨x.target, ?_, rfl⟩, hkills⟩
  rw [htells.killed]
  exact List.mem_map_of_mem (List.mem_filter.mpr ⟨hx, decide_eq_true hfate⟩)

end Reclaimer

/-- A sweep by pattern is exact. The probe finds the processes of the table that are no threads, not
the harness and have a command line which some pattern matches, each once, in the order of their
ids and under the first pattern that matches. Neither the order of the table nor that of the
patterns changes which processes are found, and patterns put behind the others only add targets. So
whatever the configuration is, the patterns of an escalation find all that those of a sweep find,
and the sweep of the escalation kills each of these that is not protected and can be killed. -/
theorem Probe.pattern_sweep_is_exact [Pattern.Wording] (hσ : Host.KeepsPid σ) {s : Session σ}
    (htable : ((Host.processes s.host).map (·.pid)).Nodup) :
    (∀ q : Request, (pattern : Probe σ).discover q s = .ok (.ok (s.matching q.patterns)) s) ∧
      (∀ patterns t, t ∈ s.matching patterns ↔ ∃ p ∈ Host.processes s.host, ∃ m,
        Sweeps (Host.selfPid s.host) patterns p m ∧ t = matched p m) ∧
      (∀ patterns pid, pid ∈ (s.matching patterns).map (·.pid) ↔
        ∃ p ∈ Host.processes s.host, p.pid = pid ∧ p.isThread = false ∧
          p.pid ≠ Host.selfPid s.host ∧ p.commandLine ≠ "" ∧
          ∃ m ∈ patterns, m.isMatch p.commandLine = true) ∧
      (∀ patterns, ((s.matching patterns).map (·.pid)).Pairwise (· < ·)) ∧
      (∀ (patterns : List Pattern) (t : Session σ), Host.selfPid t.host = Host.selfPid s.host →
        (Host.processes t.host).Perm (Host.processes s.host) →
          t.matching patterns = s.matching patterns) ∧
      (∀ patterns patterns' : List Pattern, patterns'.Perm patterns →
        (s.matching patterns').map (·.pid) = (s.matching patterns).map (·.pid)) ∧
      (∀ patterns more, s.matching patterns ⊆ s.matching (patterns ++ more)) ∧
      ∀ (c : Config) (escalation : List Pattern), c.escalation = .ok escalation →
        ∃ patterns, c.sweep = .ok patterns ∧
          (∀ t : Session σ, t.matching patterns ⊆ t.matching escalation) ∧
          ∀ (r : Reclaimer σ) (ports : List Port) (t : Session σ), r.sweeper = .pattern →
            (∀ report t', r.escalate ports escalation t = .ok report t' → ∃ a u b,
              r.sweep escalation ((Action.note (.escalating ports)).apply t) = .ok a u ∧
              report = a.merge b ∧
              ((Action.note (.escalating ports)).apply t).KillsMatching patterns a u) ∧
            (r.IsSteady → ∀ halt t', r.escalate ports escalation t = .error halt t' →
              halt = .interrupted ∧ t.interruptible = true) := by
  refine ⟨fun q => rfl, fun patterns t => mem_patternTargets, fun patterns pid => mem_pids,
    fun patterns => List.pairwise_map.mpr (patternTargets_increase htable),
    fun patterns t hme hperm => ?_, fun patterns patterns' hperm => pids_congr hperm htable,
    fun patterns more => patternTargets_subset_append, fun c escalation hescalation => ?_⟩
  · unfold Session.matching
    rw [hme]
    exact patternTargets_congr hperm htable
  · obtain ⟨patterns, more, hsweep, -, rfl⟩ := Config.escalation_append hescalation
    refine ⟨patterns, hsweep, fun t => patternTargets_subset_append,
      fun r ports t hr => ⟨fun report t' hrun => ?_, fun hsteady halt t' hrun => ?_⟩⟩
    · obtain ⟨a, u, _, b, hswept, -, -, hmerge⟩ := (r.escalate_splits ports _ t).of_ok hrun
      have hkills := (Reclaimer.sweep_kills hσ hr (patterns ++ more) _).of_ok hswept
      exact ⟨a, u, b, hswept, hmerge, fun x hx => hkills x (patternTargets_subset_append hx)⟩
    · exact ((hsteady.escalate ports _).halts (.self _ t)).of_error hrun

namespace Simulation.Population

/-- A service and what runs it, the harness, a thread, and a process without a command line. -/
def hunted : Session Population :=
  Session.start ⟨[⟨105, false, ["bin/server2", "--port", "3004"]⟩,
    ⟨101, false, ["just", "server2"]⟩, ⟨home, false, ["harness", "server2"]⟩,
    ⟨107, true, ["bin/server2"]⟩, ⟨106, false, []⟩]⟩ .absent

def hunt : Config :=
  { Config.withDefaults (.ofString "/w") with
    sweepPatterns := ["server2"], escalationPatterns := ["just"] }

def huntPatterns : List Pattern := [Captive.literal "server2", Captive.literal "just"]

theorem hunt_escalation : hunt.escalation = .ok huntPatterns := rfl

theorem hunt_sweep : hunt.sweep = .ok [Captive.literal "server2"] := rfl

theorem isAlive_strike {p : Population} {pid other : Pid} (hother : other ≠ pid)
    (halive : p.isAlive pid = true) : (p.strike other).2.isAlive pid = true := by
  unfold strike
  split
  · exact halive
  · split
    · exact halive
    · obtain ⟨row, hrow, hpid⟩ := List.any_eq_true.mp halive
      obtain rfl := eq_of_beq hpid
      exact List.any_eq_true.mpr
        ⟨row, List.mem_filter.mpr ⟨hrow, bne_iff_ne.mpr (Ne.symm hother)⟩, hpid⟩

/-- In a population who is alive can be killed, but for the one who is out of reach. -/
theorem killable_of_living {s : Session Population} {pid : Pid}
    (hpid : pid.toNat ≤ maxOsPid) (halive : s.host.isAlive pid = true) (hreach : pid ≠ foreign) :
    s.Killable pid := by
  refine ⟨hpid, fun u hu => ?_⟩
  have hliving : u.host.isAlive pid = true := by
    refine hu.keeps (P := fun t => t.host.isAlive pid = true) (fun t a ha ht => ?_) halive
    cases a with
    | signal sig r =>
      cases r with
      | group _ => exact ht
      | process other =>
        have hother : other ≠ pid := fun h => ha (h ▸ rfl)
        exact isAlive_strike hother ht
    | _ => exact ht
  change (u.host.strike pid).1 = .ok ()
  unfold strike
  rw [hliving, if_neg (by decide), if_neg hreach]

theorem just_matches : ⟨101, "matches /server2/"⟩ ∈ hunted.matching [Captive.literal "server2"] := by
  refine Probe.mem_patternTargets.mpr ⟨⟨101, false, ["just", "server2"]⟩, by decide,
    Captive.literal "server2", ⟨rfl, by decide, by decide, ?_⟩, rfl⟩
  have hmatch : (Captive.literal "server2").isMatch "just server2" = true := by decide +kernel
  exact List.find?_cons_of_pos hmatch

end Simulation.Population

/-- What runs the service is found by the sweep's patterns, and killed by the sweep of an
escalation. -/
theorem Probe.pattern_sweep_is_exact_in_population :
    ((Host.processes Simulation.Population.hunted.host).map (·.pid)).Nodup ∧
      Simulation.Population.hunt.escalation = .ok Simulation.Population.huntPatterns ∧
      ∃ report s', (Reclaimer.standard {}).escalate [3004] Simulation.Population.huntPatterns
        Simulation.Population.hunted = .ok report s' ∧ ∃ x ∈ report.killed, x.pid = 101 := by
  have hkeeps : Host.KeepsPid Simulation.Population := fun _ _ => rfl
  have htable : ((Host.processes Simulation.Population.hunted.host).map (·.pid)).Nodup := by decide
  have hescalation := Simulation.Population.hunt_escalation
  refine ⟨htable, hescalation, ?_⟩
  -- the session is kept as a variable, so that nothing is run here
  obtain ⟨s, hs⟩ : ∃ s, s = Simulation.Population.hunted := ⟨_, rfl⟩
  have hfound : ⟨101, "matches /server2/"⟩ ∈ s.matching [Simulation.Captive.literal "server2"] :=
    hs ▸ Simulation.Population.just_matches
  have hkillable : s.Killable 101 :=
    Simulation.Population.killable_of_living (by decide) (hs ▸ by decide) (by decide)
  have hcut : ¬ s.interruptible = true := hs ▸ Bool.false_ne_true
  rw [← hs] at htable ⊢
  obtain ⟨-, -, -, -, -, -, -, hall⟩ := pattern_sweep_is_exact hkeeps htable
  obtain ⟨patterns, hsweep, -, hkills⟩ := hall _ _ hescalation
  obtain rfl : [Simulation.Captive.literal "server2"] = patterns := by
    rw [Simulation.Population.hunt_sweep] at hsweep
    exact Except.ok.inj hsweep
  obtain ⟨hends, hhalts⟩ := hkills (.standard {}) [3004] s rfl
  cases hrun : (Reclaimer.standard {}).escalate [3004] Simulation.Population.huntPatterns s with
  | error halt s' => exact absurd (hhalts (Reclaimer.standard_isSteady {}) halt s' hrun).2 hcut
  | ok report s' =>
    obtain ⟨a, u, b, -, rfl, hmatching⟩ := hends report s' hrun
    have hspared : ¬((101 : Pid) ≤ 1 ∨ (101 : Pid) = Simulation.Population.home) := by decide
    have hnoted : s.Reaches (Action.spares 101) ((Action.note (.escalating [3004])).apply s) :=
      .step s trivial
    obtain ⟨⟨x, hx, hpid⟩, -⟩ := hmatching _ hfound hspared (hkillable.reaches hnoted)
    exact ⟨_, s', rfl, x, List.mem_append_left _ hx, hpid⟩

end LatencyHarness
