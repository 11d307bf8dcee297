import LatencyHarness.Proofs.Conduct
import LatencyHarness.Proofs.Queries
import LatencyHarness.Proofs.Ending

/-! What a preflight goes by.

A port is free if the tool that lists its holders runs and shows none, or if the tool does not run
and the port can be bound. The preflight checks all ports after a pass over the probes, up to the
first that is held; if there is one, it escalates, and then checks each port by itself. What is found
last decides, whatever has come and gone in between. -/
namespace LatencyHarness

variable {σ : Type} [Host σ]

namespace Action

/-- What is done to tell which ports are free, and to say what has been found. -/
def isChecking : Action → Bool
  | note (.portHeld _) | note (.tryingBind _) | note (.ownerUnknown _) => true
  | note (.portStillHeld _ _) | note .portsFree => true
  | a => a.isAsking

theorem isChecking_of_isAsking {a : Action} (h : a.isAsking = true) : a.isChecking = true := by
  unfold isChecking
  split <;> first | rfl | exact h

theorem isChecking_of_isOfPorts {e : Event} (h : e.isOfPorts = true) :
    (note e).isChecking = true := by
  cases e <;> first | rfl | exact absurd h nofun

end Action

/-! ### One port -/

namespace Session

/-- A port is found free: the tool that was asked in the first session shows no holder, or it has
not run and the port can be bound in the second one. -/
def FindsFree (s : Session σ) (tool : String) (port : Port) (s' : Session σ) : Prop :=
  (∃ c, s.told tool port = some (.ok c) ∧ ∀ pid, ¬c.Shows pid) ∨
    (¬Ran (s.told tool port) ∧ Host.bindable port s'.host = true)

/-- From one session to the other a port is checked, with this result. -/
structure Checks (s : Session σ) (r : Reclaimer σ) (port : Port) (free : Bool) (s' : Session σ) :
    Prop where
  run : r.isFree port s = .ok free s'
  found : free = true ↔ s.FindsFree r.socketTool port s'
  reaches : s.Reaches (Action.isChecking ·) s'

/-- From one session to the other some ports are checked, one right after the other, each with its
result. -/
def ChecksAll (s : Session σ) (r : Reclaimer σ) : List (Port × Bool) → Session σ → Prop
  | [], s' => s' = s
  | (port, free) :: checks, s' => ∃ t, s.Checks r port free t ∧ t.ChecksAll r checks s'

variable {r : Reclaimer σ} {s t u : Session σ}

theorem Checks.unique {port : Port} {free free' : Bool} (h : s.Checks r port free t)
    (h' : s.Checks r port free' u) : free = free' ∧ t = u := by
  have hrun := h.run.symm.trans h'.run
  exact ⟨(EStateM.Result.ok.inj hrun).1, (EStateM.Result.ok.inj hrun).2⟩

/-- Where the ports of some checks are the first ones of others, so are the results. -/
theorem ChecksAll.agrees {xs ys : List (Port × Bool)} (hx : s.ChecksAll r xs t)
    (hy : s.ChecksAll r ys u) (hports : ys.map (·.1) <+: xs.map (·.1)) : ys <+: xs := by
  induction ys generalizing s xs with
  | nil => exact List.nil_prefix
  | cons y ys ih =>
    cases xs with
    | nil => simp at hports
    | cons x xs =>
      obtain ⟨port, free⟩ := x
      obtain ⟨port', free'⟩ := y
      rw [List.map_cons, List.map_cons, List.cons_prefix_cons] at hports
      obtain ⟨hport, hrest⟩ := hports
      obtain rfl : port' = port := hport
      obtain ⟨v, hv, hx⟩ := hx
      obtain ⟨v', hv', hy⟩ := hy
      obtain ⟨rfl, rfl⟩ := hv.unique hv'
      exact List.cons_prefix_cons.mpr ⟨rfl, ih hx hy hrest⟩

theorem ChecksAll.unique {xs : List (Port × Bool)} (h : s.ChecksAll r xs t)
    (h' : s.ChecksAll r xs u) : t = u := by
  induction xs generalizing s with
  | nil => exact Eq.trans h (Eq.symm h')
  | cons x xs ih =>
    obtain ⟨v, hv, h⟩ := h
    obtain ⟨v', hv', h'⟩ := h'
    obtain rfl := (hv.unique hv').2
    exact ih h h'

end Session

namespace Reclaimer

variable {r : Reclaimer σ} {s : Session σ}

theorem within_coversPorts : CoversPorts fun α (t : Task σ α) => t.Within (Action.isChecking ·) where
  toIsClosed := Task.Within.isClosed
  capture _ := Task.within_capture
    (fun _ ha => Action.isChecking_of_isAsking (Action.isAsking_of_isWaiting ha)) (fun _ _ => rfl) _ _
  note _ _ _ := Task.within_emit (A := (Action.isChecking ·)) rfl
  bindable _ := Task.within_ask _
  notePort he := Task.within_emit (Action.isChecking_of_isOfPorts he)

theorem isFree_finds (r : Reclaimer σ) (port : Port) (s : Session σ) :
    Ends (r.isFree port) s (fun free s' => free = true ↔ s.FindsFree r.socketTool port s')
      (fun _ _ => True) := by
  refine (Probe.portOwners_tells r.socketTool port s).bind fun owners t howners => ?_
  match owners with
  | .ok [] =>
    obtain ⟨c, hc, hshown⟩ := howners
    have hnone : ∀ pid, ¬c.Shows pid := fun pid h => List.not_mem_nil ((hshown pid).mpr h)
    exact iff_of_true rfl (.inl ⟨c, hc, hnone⟩)
  | .ok (owner :: owners) =>
    obtain ⟨c, hc, hshown⟩ := howners
    refine Task.ends_emit_bind (iff_of_false Bool.false_ne_true ?_)
    rintro (⟨c', hc', hnone⟩ | ⟨hfailed, -⟩)
    · obtain rfl : c = c' := by simpa [hc] using hc'
      exact hnone owner ((hshown owner).mp List.mem_cons_self)
    · exact hfailed ⟨c, hc⟩
  | .error e =>
    -- the tool has not run, so that an attempt to bind decides
    have hfailed : ¬Ran (s.told r.socketTool port) := fun hran =>
      absurd ((Probe.failure?_eq_none r.socketTool).mpr hran ▸ howners) nofun
    refine Task.ends_emit_bind ⟨fun hbound => .inr ⟨hfailed, hbound⟩, ?_⟩
    rintro (⟨c, hc, -⟩ | ⟨-, hbound⟩)
    · exact (hfailed ⟨c, hc⟩).elim
    · exact hbound

theorem isFree_checks (r : Reclaimer σ) (port : Port) (s : Session σ) :
    Ends (r.isFree port) s (fun free s' => s.Checks r port free s') (fun _ _ => True) := by
  have hrun := (Ends.self (r.isFree port) s).and
    ((r.isFree_finds port s).and (within_coversPorts.isFree r port s))
  exact hrun.weaken fun _ _ ⟨hrun, hfound, hreach⟩ => ⟨hrun, hfound, hreach⟩

/-! ### All ports -/

/-- The ports that have been found held. -/
def held (checks : List (Port × Bool)) : List Port := (checks.filter (!·.2)).map (·.1)

/-- Ports are checked up to the first that is held. -/
theorem areFree_checks (r : Reclaimer σ) (ports : List Port) (s : Session σ) :
    Ends (r.areFree ports) s
      (fun free s' =>
        (free = true ∧ s.ChecksAll r (ports.map (·, true)) s') ∨
        (free = false ∧ ∃ front port rest, ports = front ++ port :: rest ∧
          s.ChecksAll r (front.map (·, true) ++ [(port, false)]) s'))
      (fun _ _ => True) := by
  induction ports generalizing s with
  | nil => exact .inl ⟨rfl, rfl⟩
  | cons port ports ih =>
    refine (r.isFree_checks port s).bind fun free t hcheck => ?_
    cases free with
    | false => exact .inr ⟨rfl, [], port, ports, rfl, t, hcheck, rfl⟩
    | true =>
      refine (ih t).weaken fun free s' hrest => ?_
      rcases hrest with ⟨hfree, hchecks⟩ | ⟨hfree, front, port', rest, hports, hchecks⟩
      · exact .inl ⟨hfree, t, hcheck, hchecks⟩
      · exact .inr ⟨hfree, port :: front, port', rest, hports ▸ rfl, t, hcheck, hchecks⟩

/-- Each port is checked, and those that are held are listed in order. -/
theorem busyPorts_checks (r : Reclaimer σ) (ports : List Port) (s : Session σ) :
    Ends (Running.busyPorts r ports) s
      (fun busy s' => ∃ checks, checks.map (·.1) = ports ∧ s.ChecksAll r checks s' ∧
        busy = held checks)
      (fun _ _ => True) := by
  induction ports generalizing s with
  | nil => exact ⟨[], rfl, rfl, rfl⟩
  | cons port ports ih =>
    have hone : Ends (r.areFree [port]) s (fun free t => s.Checks r port free t)
        (fun _ _ => True) := by
      refine (r.isFree_checks port s).bind fun free t hcheck => ?_
      cases free with
      | false => exact hcheck
      | true => exact hcheck
    refine hone.bind fun free t hcheck => (ih t).bind fun busy s' ⟨checks, hports, hchecks, hbusy⟩ => ?_
    refine ⟨(port, free) :: checks, by rw [List.map_cons, hports], ⟨t, hcheck, hchecks⟩, ?_⟩
    cases free with
    | false => exact congrArg (port :: ·) hbusy
    | true => exact hbusy

/-- How a preflight comes to its answer.

After a pass over the probes all ports are free, each when it is checked. Or one of them is held, and
then there is one escalation, after which every port is checked again; the answer is that all is
well, or it names the ports that are held. In neither case is anything done after the last check but
to say so. -/
inductive Settles (r : Reclaimer σ) (ports : List Port) (patterns escalation : List Pattern)
    (s : Session σ) : Except HarnessError Unit → Session σ → Prop
  | atOnce {report : ReclaimReport} {a b s' : Session σ}
      (pass : r.reclaim ports patterns
        ((Action.note (.line s!"🧹 Cleaning up ports {portsText ports}...")).apply s) = .ok report a)
      (checks : a.ChecksAll r (ports.map (·, true)) b) (rest : b.Reaches (Action.isChecking ·) s') :
      Settles r ports patterns escalation s (.ok ()) s'
  | escalated {report report' : ReclaimReport} {front after : List Port} {port : Port}
      {checks : List (Port × Bool)} {a b c d s' : Session σ}
      (pass : r.reclaim ports patterns
        ((Action.note (.line s!"🧹 Cleaning up ports {portsText ports}...")).apply s) = .ok report a)
      (order : ports = front ++ port :: after)
      (first : a.ChecksAll r (front.map (·, true) ++ [(port, false)]) b)
      (escalate : r.escalate ports escalation
        ((Action.note (.line "⚠️  Ports still in use, forcing cleanup...")).apply b) = .ok report' c)
      (all : checks.map (·.1) = ports) (again : c.ChecksAll r checks d)
      (rest : d.Reaches (Action.isChecking ·) s') :
      Settles r ports patterns escalation s
        (if held checks = [] then .ok () else .error (.portConflict (held checks))) s'

/-- Checks that end at a port that is held are not the first ones of checks that go on. -/
theorem held_ends {front front' : List Port} {port port' : Port}
    (h : front.map (·, true) ++ [(port, false)] <+: front'.map (·, true) ++ [(port', false)]) :
    front.map (·, true) ++ [(port, false)] = front'.map (·, true) ++ [(port', false)] := by
  obtain ⟨rest, hrest⟩ := h
  rcases rest.eq_nil_or_concat with rfl | ⟨rest, last, rfl⟩
  · rw [← hrest, List.append_nil]
  · -- what is held would be among the ports that are free
    rw [List.concat_eq_append, ← List.append_assoc] at hrest
    have hfront := (List.append_inj' hrest rfl).1
    have hmem : (port, false) ∈ front'.map (·, true) := by
      rw [← hfront]
      simp
    obtain ⟨q, -, hq⟩ := List.mem_map.mp hmem
    exact absurd (congrArg Prod.snd hq) nofun

/-- A preflight has one answer. -/
theorem Settles.unique {ports : List Port} {patterns escalation : List Pattern}
    {answer answer' : Except HarnessError Unit} {s' s'' : Session σ}
    (h : Settles r ports patterns escalation s answer s')
    (h' : Settles r ports patterns escalation s answer' s'') : answer = answer' := by
  -- all ports cannot be free when they are checked if one of the first ones is held
  have hfree {a b b' : Session σ} {front after : List Port} {port : Port}
      (hall : a.ChecksAll r (ports.map (·, true)) b) (horder : ports = front ++ port :: after)
      (hheld : a.ChecksAll r (front.map (·, true) ++ [(port, false)]) b') : False := by
    have hfirst := hall.agrees hheld (by simp [horder, Function.comp_def])
    have hmem : (port, false) ∈ ports.map (·, true) := hfirst.subset (by simp)
    obtain ⟨q, -, hq⟩ := List.mem_map.mp hmem
    exact absurd (congrArg Prod.snd hq) nofun
  cases h with
  | atOnce pass checks _ =>
    cases h' with
    | atOnce _ _ _ => rfl
    | escalated pass' order first _ _ _ _ =>
      obtain rfl := (EStateM.Result.ok.inj (pass.symm.trans pass')).2
      exact (hfree checks order first).elim
  | @escalated _ _ front after port checks a b c d _ pass order first escalate all again _ =>
    cases h' with
    | atOnce pass' checks' _ =>
      obtain rfl := (EStateM.Result.ok.inj (pass.symm.trans pass')).2
      exact (hfree checks' order first).elim
    | @escalated _ _ front' after' port' checks' a' b' c' d' _ pass' order' first' escalate' all'
        again' _ =>
      obtain rfl := (EStateM.Result.ok.inj (pass.symm.trans pass')).2
      -- both lists of first checks stop at the first port that is held
      have hports (f g : List Port) (q : Port) (hq : ports = f ++ q :: g) :
          (f.map (·, true) ++ [(q, false)]).map (·.1) <+: ports := by
        rw [hq]
        exact ⟨g, by simp [Function.comp_def]⟩
      have hsame : front.map (·, true) ++ [(port, false)] =
          front'.map (·, true) ++ [(port', false)] := by
        rcases List.prefix_or_prefix_of_prefix (hports _ _ _ order) (hports _ _ _ order') with
          hp | hp
        · exact held_ends (first'.agrees first hp)
        · exact (held_ends (first.agrees first' hp)).symm
      rw [hsame] at first
      obtain rfl := first.unique first'
      obtain rfl := (EStateM.Result.ok.inj (escalate.symm.trans escalate')).2
      have hchecks := again.agrees again' (by rw [all, all'])
      have hlength : checks'.length = checks.length := by
        simpa using congrArg List.length (all'.trans all.symm)
      rw [hchecks.eq_of_length hlength]

theorem preflight_settles (p : Plan σ) (s : Session σ) :
    Ends (Running.preflight p) s
      (Settles p.reclaimer p.config.ports p.patterns p.escalationPatterns s) (fun _ _ => True) := by
  have hfree (t : Session σ) : t.Reaches (Action.isChecking ·) ((Action.note .portsFree).apply t) :=
    .step t rfl
  refine Task.ends_emit_bind ?_
  refine (Ends.ok_self (p.reclaimer.reclaim p.config.ports p.patterns) _).bind fun _ a hpass => ?_
  refine (p.reclaimer.areFree_checks p.config.ports a).bind fun free b hchecks => ?_
  rcases hchecks with ⟨rfl, hchecks⟩ | ⟨rfl, front, port, after, hports, hchecks⟩
  · exact Task.ends_emit_bind (.atOnce hpass hchecks (hfree b))
  · refine Task.ends_emit_bind ?_
    refine (Ends.ok_self (p.reclaimer.escalate p.config.ports p.escalationPatterns) _).bind
      fun _ c hescalated => ?_
    refine (p.reclaimer.busyPorts_checks p.config.ports c).bind
      fun busy d ⟨checks, hall, hagain, hbusy⟩ => ?_
    have hsettles {s' : Session σ} (hs' : d.Reaches (Action.isChecking ·) s') :
        Settles p.reclaimer p.config.ports p.patterns p.escalationPatterns s
          (if held checks = [] then .ok () else .error (.portConflict (held checks))) s' :=
      .escalated hpass hports hchecks hescalated hall hagain hs'
    rw [← hbusy] at hsettles
    cases busy with
    | nil => exact Task.ends_emit_bind (hsettles (hfree d))
    | cons port' ports' =>
      -- the holders are looked up and named
      have hholders := within_coversPorts.bindings p.reclaimer (port' :: ports')
      have hnamed (holders : List PortBinding) :=
        Task.Within.isClosed.forIn (C := fun α (t : Task σ α) => t.Within (Action.isChecking ·))
          (fun (b : PortBinding) (_ : PUnit) =>
            (Task.within_emit (A := (Action.isChecking ·)) (e := .portStillHeld b.port b.owner)
              rfl).bind fun _ => .pure (ForInStep.yield PUnit.unit)) holders PUnit.unit
      refine (hholders d).forget.bind fun holders e he => ?_
      exact (hnamed holders e).forget.bind fun _ s' hs' => hsettles (he.trans hs')

/-! ### Ports that stay as they are -/

/-- While ports are only checked, what is found of them stays the same. -/
def IsStill (r : Reclaimer σ) (s : Session σ) : Prop :=
  ∀ t, s.Reaches (Action.isChecking ·) t → ∀ port,
    t.told r.socketTool port = s.told r.socketTool port ∧
      Host.bindable port t.host = Host.bindable port s.host

variable {t t' : Session σ}

theorem IsStill.findsFree_iff (h : r.IsStill s) (ht : s.Reaches (Action.isChecking ·) t)
    (ht' : s.Reaches (Action.isChecking ·) t') (port : Port) :
    t.FindsFree r.socketTool port t' ↔ s.FindsFree r.socketTool port s := by
  unfold Session.FindsFree
  rw [(h t ht port).1, (h t' ht' port).2]

/-- What is found of a port, if that stays the same. -/
def Shows (r : Reclaimer σ) (s : Session σ) (free : Port → Bool) : Prop :=
  ∀ port, free port = true ↔ s.FindsFree r.socketTool port s

variable {free : Port → Bool}

theorem IsStill.isFree_eq (h : r.IsStill s) (hfree : r.Shows s free)
    (ht : s.Reaches (Action.isChecking ·) t) (port : Port) :
    Ends (r.isFree port) t
      (fun b t' => b = free port ∧ s.Reaches (Action.isChecking ·) t') (fun _ _ => True) := by
  refine (r.isFree_checks port t).weaken fun b t' hcheck => ?_
  have hreach := ht.trans hcheck.reaches
  refine ⟨Bool.eq_iff_iff.mpr ?_, hreach⟩
  rw [hcheck.found, hfree, h.findsFree_iff ht hreach]

theorem IsStill.areFree_eq (h : r.IsStill s) (hfree : r.Shows s free)
    (ht : s.Reaches (Action.isChecking ·) t) (ports : List Port) :
    Ends (r.areFree ports) t
      (fun b t' => b = ports.all free ∧ s.Reaches (Action.isChecking ·) t') (fun _ _ => True) := by
  induction ports generalizing t with
  | nil => exact ⟨rfl, ht⟩
  | cons port ports ih =>
    refine (h.isFree_eq hfree ht port).bind fun b u ⟨hb, hu⟩ => ?_
    cases b with
    | false => exact ⟨by rw [List.all_cons, ← hb, Bool.false_and], hu⟩
    | true =>
      refine (ih hu).weaken fun b' t' ⟨hb', ht'⟩ => ⟨?_, ht'⟩
      rw [hb', List.all_cons, ← hb, Bool.true_and]

theorem IsStill.busyPorts_eq (h : r.IsStill s) (hfree : r.Shows s free)
    (ht : s.Reaches (Action.isChecking ·) t) (ports : List Port) :
    Ends (Running.busyPorts r ports) t
      (fun busy t' => busy = ports.filter (!free ·) ∧ s.Reaches (Action.isChecking ·) t')
      (fun _ _ => True) := by
  induction ports generalizing t with
  | nil => exact ⟨rfl, ht⟩
  | cons port ports ih =>
    refine (h.areFree_eq hfree ht [port]).bind fun b u ⟨hb, hu⟩ => ?_
    refine (ih hu).bind fun busy t' ⟨hbusy, ht'⟩ => ?_
    have hport : free port = b := by simpa using hb.symm
    cases b with
    | false => exact ⟨by rw [List.filter_cons, hport, hbusy]; rfl, ht'⟩
    | true => exact ⟨by rw [List.filter_cons, hport, hbusy]; rfl, ht'⟩

end Reclaimer

namespace Running

omit [Host σ] in
/-- The patterns that a plan kills by are those of its configuration. -/
theorem ofConfig_patterns [Pattern.Wording] {c : Config} {r : Reclaimer σ} {p : Plan σ}
    (hp : Plan.ofConfig c r = .ok p) :
    c.sweep = .ok p.patterns ∧ c.escalation = .ok p.escalationPatterns := by
  obtain ⟨_, -, hparts⟩ := except_bind_ok (except_mapError_ok hp)
  obtain ⟨patterns, hpatterns, hparts⟩ := except_bind_ok hparts
  obtain ⟨escalation, hescalation, hparts⟩ := except_bind_ok hparts
  obtain ⟨v, -, hplan⟩ := except_bind_ok hparts
  rw [← Except.ok.inj hplan]
  exact ⟨hpatterns, hescalation⟩

/-- The last check of the ports decides what a preflight answers.

There is one pass over the probes, for both ports and by the patterns of the sweep. If all ports are
free when they are checked then, the preflight is done, and has not escalated. If one is held, there
is one escalation, by its own patterns, and each port is checked once more; all is well if each of
them is free then, and if not the answer names those that are held, in order. Where the ports stay as
they are it makes no difference whether they are checked together or one by one. -/
theorem preflight_goes_by_last_check [Pattern.Wording] {c : Config} {r : Reclaimer σ} {p : Plan σ}
    (hp : Plan.ofConfig c r = .ok p) (s : Session σ) :
    (∃ patterns escalation, c.sweep = .ok patterns ∧ c.escalation = .ok escalation ∧
        ∀ answer s', preflight p s = .ok answer s' →
          r.Settles [c.server1.port, c.server2.port] patterns escalation s answer s') ∧
      (r.IsSteady → ∀ halt s', preflight p s = .error halt s' →
        halt = .interrupted ∧ s.interruptible = true) ∧
      (r.IsStill s → ∃ free : Port → Bool, r.Shows s free ∧
        ∀ t, s.Reaches (Action.isChecking ·) t →
          (∀ port, Ends (r.areFree [port]) t (fun b _ => b = free port)
            fun e _ => e = .interrupted ∧ t.interruptible = true) ∧
          (∀ ports, Ends (r.areFree ports) t (fun b _ => b = ports.all free)
            fun e _ => e = .interrupted ∧ t.interruptible = true) ∧
          ∀ ports, Ends (busyPorts r ports) t (fun busy _ => busy = ports.filter (!free ·))
            fun e _ => e = .interrupted ∧ t.interruptible = true) := by
  obtain ⟨hsweep, hescalation⟩ := ofConfig_patterns hp
  obtain ⟨hconfig, hreclaimer, -⟩ := ofConfig_ok hp
  have hr : p.reclaimer = r := hreclaimer
  refine ⟨⟨p.patterns, p.escalationPatterns, hsweep, hescalation, fun answer s' hrun => ?_⟩,
    fun hsteady halt s' hrun => ?_, fun hstill => ?_⟩
  · have hsettles := (Reclaimer.preflight_settles p s).of_ok hrun
    rw [hr, hconfig] at hsettles
    exact hsettles
  · have hsteady' : p.reclaimer.IsSteady := by rwa [hr]
    exact ((steady_preflight hsteady').halts (.self _ s)).of_error hrun
  · classical
    let free (port : Port) : Bool := decide (s.FindsFree r.socketTool port s)
    have hfree : r.Shows s free := fun port => decide_eq_true_iff
    have hall {t : Session σ} (ht : s.Reaches (Action.isChecking ·) t) (ports : List Port) :
        Ends (r.areFree ports) t (fun b _ => b = ports.all free)
          fun e _ => e = .interrupted ∧ t.interruptible = true :=
      (Reclaimer.steady_coversPorts.areFree r ports).halts
        ((hstill.areFree_eq hfree ht ports).weaken fun _ _ h => h.1)
    refine ⟨free, hfree, fun t ht => ⟨fun port => ?_, hall ht, fun ports => ?_⟩⟩
    · exact (hall ht [port]).mono (fun b _ h => by simpa using h) fun _ _ h => h
    · exact (steady_busyPorts r ports).halts
        ((hstill.busyPorts_eq hfree ht ports).weaken fun _ _ h => h.1)

end Running

namespace Simulation.Toolbox

/-- The harness itself holds the second port; for the first one the tool does not finish. -/
def ownPort : List (List String × Except SystemError Captured) :=
  [(["-ti", ":3004"], printed "2\n")]

def plan : Plan (Toolbox ownPort) :=
  ⟨Bench.config, [], [], ⟨Bench.config.workingDir, Bench.config.ports, [],
    Bench.config.pollInterval, Bench.config.teardown, .standard Bench.config.reclaim⟩⟩

def start : Session (Toolbox ownPort) := Session.start ⟨⟩ .absent

theorem preflight_conflicts : Ends (Running.preflight plan) start
    (fun answer _ => answer = .error (.portConflict [3004])) (fun _ _ => False) := by
  decide +kernel

theorem isStill : plan.reclaimer.IsStill start := fun _ _ _ => ⟨rfl, rfl⟩

end Simulation.Toolbox

namespace Running

open Simulation

/-- The first port is free, as it can be bound; the harness is not killed, and so the second is held
to the last. -/
theorem preflight_goes_by_last_check_of_own_port :
    ∃ s', preflight Toolbox.plan Toolbox.start = .ok (.error (.portConflict [3004])) s' ∧
      Toolbox.plan.reclaimer.Settles [3002, 3004] [] [] Toolbox.start
        (.error (.portConflict [3004])) s' ∧
      ∃ free : Port → Bool, free 3002 = true ∧ free 3004 = false ∧
        Ends (Toolbox.plan.reclaimer.areFree [3002, 3004]) Toolbox.start
          (fun b _ => b = [3002, 3004].all free) (fun _ _ => False) := by
  have hp : Plan.ofConfig Bench.config Toolbox.plan.reclaimer = .ok Toolbox.plan := rfl
  have h := preflight_goes_by_last_check hp Toolbox.start
  obtain ⟨answer, s', hrun, hanswer⟩ := Toolbox.preflight_conflicts.exists_ok
  obtain ⟨patterns, escalation, hsweep, hescalation, hsettles⟩ := h.1
  obtain rfl : [] = patterns := Except.ok.inj hsweep
  obtain rfl : [] = escalation := Except.ok.inj hescalation
  subst hanswer
  obtain ⟨free, hfree, hchecks⟩ := h.2.2 Toolbox.isStill
  refine ⟨s', hrun, hsettles _ s' hrun, free, ?_, ?_, ?_⟩
  · refine (hfree 3002).mpr (.inr ⟨?_, rfl⟩)
    rintro ⟨c, hc⟩
    exact absurd hc nofun
  · refine Bool.eq_false_iff.mpr fun hfound => ?_
    rcases (hfree 3004).mp hfound with ⟨c, hc, hnone⟩ | ⟨hfailed, -⟩
    · have hprinted : some (Toolbox.printed "2\n") = some (.ok c) := hc
      cases hprinted
      exact hnone 2 (by decide +kernel)
    · exact hfailed ⟨_, rfl⟩
  · exact ((hchecks _ (.refl _)).2.1 [3002, 3004]).mono (fun _ _ h => h) fun _ _ h =>
      absurd h.2 Bool.false_ne_true

end Running

end LatencyHarness
