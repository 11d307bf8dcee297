import LatencyHarness.Proofs.Calm
import LatencyHarness.Proofs.Conduct
import LatencyHarness.Simulation.Population
import Mathlib.Order.BooleanAlgebra.Set

/-! Whatever the order of the probes, the same processes are killed.

Every probe finds those of its processes that are still alive, so a process that an earlier probe
has led to is not found again. What dies in a pass is what some probe has looked for, if it is
alive, not protected and can be signalled. A probe that cannot run changes nothing. -/
namespace LatencyHarness

variable {σ : Type} [Host σ]

/-! ### Processes that come and go -/

/-- The actions that no process is started or ended by. -/
def Action.isQuiet : Action → Bool
  | note _ => true
  | a => a.isWaiting

theorem Action.isQuiet_of_isWaiting {a : Action} (h : a.isWaiting = true) : a.isQuiet = true := by
  unfold isQuiet
  split
  · rfl
  · exact h

/-- A host whose living processes are `alive`. They change only by being killed, one at a time,
which succeeds but for those that are out of reach. -/
structure Host.IsPopulated (σ : Type) [Host σ] (alive : σ → Set Pid) (barred : Set Pid) : Prop where
  quiet : ∀ (h : σ) (a : Action), a.isQuiet = true → alive (a.onHost h) = alive h
  kill : ∀ (h : σ) (pid : Pid), pid ∈ alive h → pid ∉ barred →
    (Host.signal .kill (.process pid) h).1 = .ok () ∧
      alive (Host.signal .kill (.process pid) h).2 = alive h \ {pid}
  spare : ∀ (h : σ) (pid : Pid), pid ∈ alive h → pid ∈ barred →
    (∃ e, (Host.signal .kill (.process pid) h).1 = .error e) ∧
      alive (Host.signal .kill (.process pid) h).2 = alive h
  self : ∀ (h : σ) (a : Action), Host.selfPid (a.onHost h) = Host.selfPid h

variable {alive : σ → Set Pid} {barred : Set Pid}

/-- A session in which the harness goes by an id, may be interrupted or not, and in which these
processes are alive. -/
structure Session.Census (s : Session σ) (alive : σ → Set Pid) (me : Pid) (cut : Bool)
    (living : Set Pid) : Prop where
  living : alive s.host = living
  self : Host.selfPid s.host = me
  cut : s.interruptible = cut

/-- The processes that are not protected and can be signalled. -/
def mortals (me : Pid) (barred : Set Pid) : Set Pid :=
  {pid | 1 < pid ∧ pid ≠ me ∧ pid ∉ barred ∧ pid.toNat ≤ maxOsPid}

/-- The processes that a report names. -/
def ReclaimReport.pids (r : ReclaimReport) : Set Pid := {pid | ∃ t ∈ r.killed, t.pid = pid}

/-- A task that has a fixed answer where some processes are alive, and that kills some of them,
unless it is interrupted. -/
def Task.Strikes {α : Type} (t : Task σ α) (alive : σ → Set Pid) (me : Pid) (cut : Bool)
    (living : Set Pid) (a : α) (doomed : Set Pid) : Prop :=
  ∀ s : Session σ, s.Census alive me cut living →
    Ends t s (fun r s' => r = a ∧ s'.Census alive me cut (living \ doomed)) (fun _ _ => cut = true)

namespace Task

variable {α β : Type} {t : Task σ α} {f : α → Task σ β} {a : α} {b : β} {me : Pid} {cut : Bool}
  {living doomed doomed' : Set Pid}

theorem Strikes.pure (a : α) : (Pure.pure a : Task σ α).Strikes alive me cut living a ∅ := by
  intro s hs
  rw [Set.sdiff_empty]
  exact ⟨rfl, hs⟩

theorem Strikes.bind (ht : t.Strikes alive me cut living a doomed)
    (hf : (f a).Strikes alive me cut (living \ doomed) b doomed') :
    (t >>= f).Strikes alive me cut living b (doomed ∪ doomed') := by
  intro s hs
  refine (ht s hs).bind fun r s' ⟨hr, hs'⟩ => ?_
  subst hr
  have h := hf s' hs'
  rw [Set.sdiff_sdiff] at h
  exact h

/-- What kills nobody may have any of some answers. -/
theorem Strikes.after {P : α → Prop}
    (ht : ∀ s : Session σ, s.Census alive me cut living →
      Ends t s (fun r s' => P r ∧ s'.Census alive me cut living) (fun _ _ => cut = true))
    (hf : ∀ r, P r → (f r).Strikes alive me cut living b doomed) :
    (t >>= f).Strikes alive me cut living b doomed := fun s hs =>
  (ht s hs).bind fun r s' ⟨hr, hs'⟩ => hf r hr s' hs'

theorem Strikes.then (ht : t.Strikes alive me cut living a ∅)
    (hf : (f a).Strikes alive me cut living b doomed) :
    (t >>= f).Strikes alive me cut living b doomed := by
  refine Strikes.after (P := fun r => r = a) (fun s hs => ?_) fun r hr => hr ▸ hf
  have h := ht s hs
  rw [Set.sdiff_empty] at h
  exact h

theorem Strikes.last (ht : t.Strikes alive me cut living a doomed)
    (hf : (f a).Strikes alive me cut (living \ doomed) b ∅) :
    (t >>= f).Strikes alive me cut living b doomed := by
  have h := ht.bind hf
  rw [Set.union_empty] at h
  exact h

/-! ### Tasks that kill nobody -/

theorem Within.strikes (hhost : Host.IsPopulated σ alive barred) {t : Task σ Unit}
    (ht : t.Within (Action.isQuiet ·)) (hsteady : t.Steady) :
    t.Strikes alive me cut living () ∅ := by
  intro s hs
  rw [Set.sdiff_empty]
  -- the steps that are taken leave the living alone, and the halts are interruptions
  refine ((ht s).and (hsteady s)).mono (fun _ s' ⟨hreach, hsame⟩ => ?_) fun _ _ ⟨_, hhalt⟩ => ?_
  · have hcount : alive s'.host = living ∧ Host.selfPid s'.host = me := by
      refine hreach.keeps (P := fun t => alive t.host = living ∧ Host.selfPid t.host = me)
        (fun u a ha hu => ?_) ⟨hs.living, hs.self⟩
      have halive := (hhost.quiet u.host a ha).trans hu.1
      have hself := (hhost.self u.host a).trans hu.2
      cases a <;> exact ⟨halive, hself⟩
    exact ⟨rfl, hcount.1, hcount.2, hsame.trans hs.cut⟩
  · exact hs.cut.symm.trans (hhalt.resolve_right id).2

theorem strikes_emit (hhost : Host.IsPopulated σ alive barred) (e : Event) :
    (emit e : Task σ Unit).Strikes alive me cut living () ∅ :=
  (within_emit (A := (Action.isQuiet ·)) rfl).strikes hhost (haltsBy_emit e)

theorem strikes_sleep (hhost : Host.IsPopulated σ alive barred) (d : Millis) :
    (sleep d : Task σ Unit).Strikes alive me cut living () ∅ :=
  (within_sleep (fun _ => Action.isQuiet_of_isWaiting) d).strikes hhost (steady_sleep d)

theorem strikes_isProtected (pid : Pid) :
    (isProtected pid : Task σ Bool).Strikes alive me cut living (pid ≤ 1 || pid == me) ∅ := by
  intro s hs
  rw [Set.sdiff_empty]
  refine ⟨?_, hs⟩
  rw [← hs.self]

/-! ### Kills -/

/-- The session after a signal. -/
theorem census_signal (hhost : Host.IsPopulated σ alive barred) {s : Session σ} {pid : Pid}
    (hs : s.Census alive me cut living)
    (halive : alive (Host.signal .kill (.process pid) s.host).2 = living \ doomed) :
    ((Action.signal .kill (.process pid)).apply s).Census alive me cut (living \ doomed) :=
  ⟨halive, (hhost.self s.host (.signal .kill (.process pid))).trans hs.self, hs.cut⟩

theorem mortal_unprotected {pid : Pid} (h : pid ∈ mortals me barred) :
    (pid ≤ 1 || pid == me) = false := by
  obtain ⟨hone, hme, -, -⟩ := h
  simp [hme, hone]

/-- A process that is alive, unprotected and within reach is killed. -/
theorem strikes_forceKill (hhost : Host.IsPopulated σ alive barred) {pid : Pid}
    (hliving : pid ∈ living) (hmortal : pid ∈ mortals me barred) :
    (forceKill pid : Task σ _).Strikes alive me cut living (.ok true) {pid} := by
  have hopen := mortal_unprotected hmortal
  obtain ⟨-, -, hbarred, hpid⟩ := hmortal
  have hsignal : (perform (Host.signal .kill (.process pid)) : Task σ _).Strikes alive me cut living
      (.ok ()) {pid} := by
    intro s hs
    obtain ⟨hok, halive⟩ := hhost.kill s.host pid (hs.living ▸ hliving) hbarred
    exact ⟨hok, census_signal hhost hs (hs.living ▸ halive)⟩
  have hsend : (send .kill (.process pid) : Task σ _).Strikes alive me cut living (.ok ()) {pid} :=
    (strikes_emit hhost _).then hsignal
  have hosPid : ¬ (osPid? pid).isNone = true := by
    unfold osPid?
    rw [if_pos hpid]
    exact Bool.false_ne_true
  unfold forceKill
  -- neither check holds the signal back
  refine (strikes_isProtected pid).then ?_
  rw [hopen, if_neg Bool.false_ne_true, if_neg hosPid]
  exact hsend.last (.pure _)

/-- A process that is out of reach is not killed. -/
theorem forceKill_spares (hhost : Host.IsPopulated σ alive barred) {pid : Pid}
    (hliving : pid ∈ living) (hmortal : pid ∉ mortals me barred)
    (hopen : (pid ≤ 1 || pid == me) = false) (s : Session σ) (hs : s.Census alive me cut living) :
    Ends (forceKill pid : Task σ _) s (fun r s' => r ≠ .ok true ∧ s'.Census alive me cut living)
      (fun _ _ => cut = true) := by
  have hprotected : Ends (isProtected pid : Task σ Bool) s (fun b s' => b = false ∧ s' = s)
      (fun _ _ => cut = true) := by
    refine ⟨?_, rfl⟩
    rw [← hopen, ← hs.self]
  have hsignal (hbarred : pid ∈ barred) (u : Session σ) (hu : u.Census alive me cut living) :
      Ends (perform (Host.signal .kill (.process pid)) : Task σ _) u
        (fun r s' => (∃ e, r = .error e) ∧ s'.Census alive me cut living)
        (fun _ _ => cut = true) := by
    obtain ⟨herror, halive⟩ := hhost.spare u.host pid (hu.living ▸ hliving) hbarred
    have hself := (hhost.self u.host (.signal .kill (.process pid))).trans hu.self
    exact ⟨herror, halive.trans hu.living, hself, hu.cut⟩
  have hsend (hbarred : pid ∈ barred) :
      Ends (send .kill (.process pid) : Task σ _) s
        (fun r s' => (∃ e, r = .error e) ∧ s'.Census alive me cut living)
        (fun _ _ => cut = true) := by
    refine (strikes_emit hhost _ s hs).bind fun _ s₁ ⟨_, hs₁⟩ => ?_
    rw [Set.sdiff_empty] at hs₁
    exact hsignal hbarred s₁ hs₁
  unfold forceKill
  refine hprotected.bind fun b s₁ ⟨hb, hs₁⟩ => ?_
  subst hb hs₁
  rw [if_neg Bool.false_ne_true]
  split
  · exact ⟨nofun, hs⟩
  · -- an id that the host knows can only be out of reach, and then the signal fails
    next hosPid =>
    have hpid : pid.toNat ≤ maxOsPid := by
      by_contra hlarge
      unfold osPid? at hosPid
      rw [if_neg hlarge] at hosPid
      exact hosPid rfl
    have hbarred : pid ∈ barred := by
      by_contra hreach
      simp only [Bool.or_eq_false_iff, decide_eq_false_iff_not, beq_eq_false_iff_ne,
        UInt32.not_le] at hopen
      exact hmortal ⟨hopen.1, hopen.2, hreach, hpid⟩
    refine (hsend hbarred).bind fun r s₂ ⟨⟨e, he⟩, hs₂⟩ => ?_
    subst he
    split
    · next heq => exact absurd heq nofun
    · exact ⟨nofun, hs₂⟩
    · exact ⟨nofun, hs₂⟩

end Task

/-! ### A pass over the probes -/

namespace Reclaimer

variable {me : Pid} {living : Set Pid}

theorem pids_empty : ReclaimReport.empty.pids = ∅ := by
  ext pid
  simp [ReclaimReport.pids, ReclaimReport.empty]

theorem pids_singleton (t : Target) : (ReclaimReport.mk true [t]).pids = {t.pid} := by
  ext pid
  simp [ReclaimReport.pids, eq_comm]

theorem pids_merge (a b : ReclaimReport) : (a.merge b).pids = a.pids ∪ b.pids := by
  ext pid
  simp only [ReclaimReport.pids, ReclaimReport.merge, List.mem_append, Set.mem_union,
    Set.mem_ofPred_eq]
  constructor
  · rintro ⟨t, ha | hb, ht⟩
    · exact .inl ⟨t, ha, ht⟩
    · exact .inr ⟨t, hb, ht⟩
  · rintro (⟨t, ha, ht⟩ | ⟨t, hb, ht⟩)
    · exact ⟨t, .inl ha, ht⟩
    · exact ⟨t, .inr hb, ht⟩

/-- The processes that a probe's targets lead to, if some have been seen before. -/
def hits (me : Pid) (barred : Set Pid) (seen : List Pid) (ts : List Target) : Set Pid :=
  {pid ∈ mortals me barred | pid ∉ seen ∧ ∃ t ∈ ts, t.pid = pid}

theorem hits_cons_of_passed {seen : List Pid} {t : Target} (ts : List Target)
    (h : t.pid ∈ seen ∨ t.pid ∉ mortals me barred) :
    hits me barred seen (t :: ts) = hits me barred (t.pid :: seen) ts := by
  ext pid
  simp only [hits, Set.mem_ofPred_eq, List.mem_cons, exists_eq_or_imp, not_or]
  constructor
  · rintro ⟨hmortal, hnew, ht | ht⟩
    · subst ht
      exact absurd (h.resolve_left hnew) (not_not_intro hmortal)
    · refine ⟨hmortal, ⟨fun heq => ?_, hnew⟩, ht⟩
      subst heq
      exact absurd (h.resolve_left hnew) (not_not_intro hmortal)
  · rintro ⟨hmortal, ⟨_, hnew⟩, ht⟩
    exact ⟨hmortal, hnew, .inr ht⟩

theorem hits_cons_of_struck {seen : List Pid} {t : Target} (ts : List Target)
    (hnew : t.pid ∉ seen) (hmortal : t.pid ∈ mortals me barred) :
    hits me barred seen (t :: ts) = {t.pid} ∪ hits me barred (t.pid :: seen) ts := by
  ext pid
  simp only [hits, Set.mem_ofPred_eq, Set.mem_union, Set.mem_singleton_iff, List.mem_cons,
    exists_eq_or_imp, not_or]
  constructor
  · rintro ⟨hpid, hunseen, ht | ht⟩
    · exact .inl ht.symm
    · by_cases heq : pid = t.pid
      · exact .inl heq
      · exact .inr ⟨hpid, ⟨heq, hunseen⟩, ht⟩
  · rintro (rfl | ⟨hpid, ⟨_, hunseen⟩, ht⟩)
    · exact ⟨hmortal, hnew, .inl rfl⟩
    · exact ⟨hpid, hunseen, .inr ht⟩

/-- The targets that have not been seen before are killed if they can be. The report depends on the
targets only. -/
theorem killTargets_strikes (hhost : Host.IsPopulated σ alive barred) (me : Pid) (cut : Bool)
    (pause : Millis) (probe : String) (seen : List Pid) (ts : List Target) (living : Set Pid)
    (hts : ∀ t ∈ ts, t.pid ∉ seen → t.pid ∈ living) :
    ∃ report : ReclaimReport,
      (killTargets pause probe seen ts : Task σ _).Strikes alive me cut living report report.pids ∧
      report.pids = hits me barred seen ts := by
  -- those that are seen later have not been killed before
  induction ts generalizing seen living with
  | nil =>
    refine ⟨.empty, ?_, ?_⟩
    · rw [pids_empty]
      exact .pure _
    · rw [pids_empty]
      ext pid
      simp [hits]
  | cons t ts ih =>
    have hrest : ∀ t' ∈ ts, t'.pid ∉ t.pid :: seen → t'.pid ∈ living := fun t' ht' hnew =>
      hts t' (List.mem_cons_of_mem t ht') fun hseen => hnew (List.mem_cons_of_mem _ hseen)
    obtain ⟨report, hstrikes, hpids⟩ := ih (t.pid :: seen) living hrest
    by_cases hpass : (seen.contains t.pid || (t.pid ≤ 1 || t.pid == me)) = true
    · -- a target that has been seen, or is protected, is passed over
      have hpassed : t.pid ∈ seen ∨ t.pid ∉ mortals me barred := by
        rcases Bool.or_eq_true _ _ ▸ hpass with hseen | hprotected
        · exact .inl (List.contains_iff_mem.mp hseen)
        · refine .inr fun hmortal => ?_
          rw [Task.mortal_unprotected hmortal] at hprotected
          exact Bool.false_ne_true hprotected
      refine ⟨report, (Task.strikes_isProtected t.pid).then ?_, ?_⟩
      · rw [if_pos hpass]
        exact hstrikes
      · rw [hpids, hits_cons_of_passed ts hpassed]
    · obtain ⟨hseen, hopen⟩ := Bool.or_eq_false_iff.mp (Bool.not_eq_true _ ▸ hpass)
      have hnew : t.pid ∉ seen := fun hmem =>
        Bool.false_ne_true (hseen.symm.trans (List.contains_iff_mem.mpr hmem))
      have hliving : t.pid ∈ living := hts t List.mem_cons_self hnew
      by_cases hmortal : t.pid ∈ mortals me barred
      · -- the target is killed, and none of the others is the same process
        have hleft : ∀ t' ∈ ts, t'.pid ∉ t.pid :: seen → t'.pid ∈ living \ {t.pid} :=
          fun t' ht' hnew' => ⟨hrest t' ht' hnew', fun heq => hnew' (heq ▸ List.mem_cons_self)⟩
        obtain ⟨others, hothers, hothersPids⟩ := ih (t.pid :: seen) (living \ {t.pid}) hleft
        have hmerged : (ReclaimReport.merge ⟨true, [t]⟩ others).pids = {t.pid} ∪ others.pids := by
          rw [pids_merge, pids_singleton]
        refine ⟨.merge ⟨true, [t]⟩ others, ?_, ?_⟩
        · rw [hmerged]
          refine (Task.strikes_isProtected t.pid).then ?_
          rw [if_neg hpass]
          refine (Task.strikes_forceKill hhost hliving hmortal).bind ?_
          refine (Task.strikes_emit hhost _).then ((Task.strikes_sleep hhost pause).then ?_)
          exact hothers.last (.pure _)
        · rw [hmerged, hothersPids, hits_cons_of_struck ts hnew hmortal]
      · refine ⟨report, (Task.strikes_isProtected t.pid).then ?_, ?_⟩
        · rw [if_neg hpass]
          refine .after (fun s hs => Task.forceKill_spares hhost hliving hmortal hopen s hs)
            fun r hr => ?_
          cases r with
          | error _ => exact (Task.strikes_emit hhost _).then hstrikes
          | ok delivered =>
            cases delivered with
            | true => exact absurd rfl hr
            | false => exact (Task.strikes_emit hhost _).then hstrikes
        · rw [hpids, hits_cons_of_passed ts (.inr hmortal)]

end Reclaimer

namespace Probe

/-- A probe that finds those of some processes that are alive. It kills nobody, and its answer
depends on who is alive. -/
def Finds (p : Probe σ) (alive : σ → Set Pid) (q : Request) (wanted : Set Pid) : Prop :=
  ∀ (me : Pid) (cut : Bool) (living : Set Pid), ∃ ts : List Target,
    (p.discover q).Strikes alive me cut living (.ok ts) ∅ ∧
      {pid | ∃ t ∈ ts, t.pid = pid} = wanted ∩ living

/-- A probe that cannot run. -/
def Fails (p : Probe σ) (alive : σ → Set Pid) (q : Request) : Prop :=
  ∀ (me : Pid) (cut : Bool) (living : Set Pid) (s : Session σ), s.Census alive me cut living →
    Ends (p.discover q) s (fun r s' => (∃ e, r = .error e) ∧ s'.Census alive me cut living)
      (fun _ _ => cut = true)

end Probe

namespace Reclaimer

/-- The reclaimer with other probes. -/
def withProbes (r : Reclaimer σ) (ps : List (Probe σ)) : Reclaimer σ := { r with probes := ps }

/-- A list of probes, and the list with some probes more that cannot run. -/
inductive Padded (alive : σ → Set Pid) (q : Request) :
    List (Probe σ) → List (Probe σ) → Prop where
  | nil : Padded alive q [] []
  | keep (p : Probe σ) {ps qs : List (Probe σ)} (h : Padded alive q ps qs) :
    Padded alive q (p :: ps) (p :: qs)
  | insert {p : Probe σ} {ps qs : List (Probe σ)} (hp : p.Fails alive q)
    (h : Padded alive q ps qs) : Padded alive q ps (p :: qs)

/-- The processes that die in a pass: those that are alive and mortal and that some probe wants. -/
def due (me : Pid) (barred living : Set Pid) (wanted : Probe σ → Set Pid) (ps : List (Probe σ)) :
    Set Pid :=
  {pid | pid ∈ living ∧ pid ∈ mortals me barred ∧ ∃ p ∈ ps, pid ∈ wanted p}

variable {q : Request} {wanted : Probe σ → Set Pid} {ps qs : List (Probe σ)}

theorem Padded.refl (ps : List (Probe σ)) : Padded alive q ps ps := by
  induction ps with
  | nil => exact .nil
  | cons p ps ih => exact .keep p ih

theorem runProbe_strikes (hhost : Host.IsPopulated σ alive barred) (me : Pid) (cut : Bool)
    (pacing : ReclaimPacing) {p : Probe σ} {wanted : Set Pid} (hp : p.Finds alive q wanted)
    (living : Set Pid) :
    ∃ report : ReclaimReport,
      (runProbe pacing p q).Strikes alive me cut living report report.pids ∧
      report.pids = {pid | pid ∈ living ∧ pid ∈ mortals me barred ∧ pid ∈ wanted} := by
  obtain ⟨ts, hdiscover, hts⟩ := hp me cut living
  have hfound (t : Target) (ht : t ∈ ts) (_ : t.pid ∉ ([] : List Pid)) : t.pid ∈ living := by
    have hmem : t.pid ∈ wanted ∩ living := hts ▸ ⟨t, ht, rfl⟩
    exact hmem.2
  obtain ⟨report, hstrikes, hpids⟩ :=
    killTargets_strikes hhost me cut pacing.killPause p.name [] ts living hfound
  refine ⟨report, hdiscover.then hstrikes, ?_⟩
  rw [hpids]
  ext pid
  have hmem : (∃ t ∈ ts, t.pid = pid) ↔ pid ∈ wanted ∧ pid ∈ living :=
    Set.ext_iff.mp hts pid
  simp only [hits, Set.mem_ofPred_eq, hmem, List.not_mem_nil, not_false_eq_true, true_and]
  constructor
  · rintro ⟨hmortal, hwanted, hliving⟩
    exact ⟨hliving, hmortal, hwanted⟩
  · rintro ⟨hliving, hmortal, hwanted⟩
    exact ⟨hmortal, hwanted, hliving⟩

/-- A probe that cannot run leaves the pass to the others. -/
theorem runProbes_insert (hhost : Host.IsPopulated σ alive barred) {me : Pid} {cut : Bool}
    {living doomed : Set Pid}
    {pacing : ReclaimPacing} {p : Probe σ} (hp : p.Fails alive q) {report : ReclaimReport}
    (h : (runProbes pacing q qs).Strikes alive me cut living report doomed) :
    (runProbes pacing q (p :: qs)).Strikes alive me cut living report doomed := by
  have hprobe : (runProbe pacing p q).Strikes alive me cut living .empty ∅ := by
    refine .after (hp me cut living) fun r ⟨e, he⟩ => ?_
    subst he
    exact (Task.strikes_emit hhost _).then (.pure _)
  have hmerge : ReclaimReport.empty.merge report = report := rfl
  exact hprobe.then (hmerge ▸ h.last (.pure _))

/-- A pass over the probes kills what is due, whether or not there are probes in between that cannot
run. -/
theorem runProbes_strikes (hhost : Host.IsPopulated σ alive barred) (me : Pid) (cut : Bool)
    (pacing : ReclaimPacing) (hps : ∀ p ∈ ps, p.Finds alive q (wanted p)) (living : Set Pid) :
    ∃ report : ReclaimReport,
      (∀ qs, Padded alive q ps qs →
        (runProbes pacing q qs).Strikes alive me cut living report report.pids) ∧
      report.pids = due me barred living wanted ps := by
  -- the later probes find what the first one has left alive
  induction ps generalizing living with
  | nil =>
    refine ⟨.empty, fun qs hqs => ?_, ?_⟩
    · rw [pids_empty]
      generalize hnil : ([] : List (Probe σ)) = ps at hqs
      induction hqs with
      | nil => exact .pure _
      | keep p h ih => exact absurd hnil nofun
      | insert hp h ih => exact runProbes_insert hhost hp (ih hnil)
    · rw [pids_empty]
      ext pid
      simp [due]
  | cons p ps ih =>
    obtain ⟨first, hfirst, hfirstPids⟩ :=
      runProbe_strikes hhost me cut pacing (hps p List.mem_cons_self) living
    obtain ⟨others, hothers, hothersPids⟩ :=
      ih (fun p' hp' => hps p' (List.mem_cons_of_mem p hp')) (living \ first.pids)
    refine ⟨first.merge others, fun qs hqs => ?_, ?_⟩
    · generalize hcons : p :: ps = all at hqs
      induction hqs with
      | nil => exact absurd hcons nofun
      | keep p' h ih' =>
        obtain ⟨rfl, rfl⟩ := List.cons.inj hcons
        rw [pids_merge]
        exact hfirst.bind ((hothers _ h).last (.pure _))
      | insert hp h ih' => exact runProbes_insert hhost hp (ih' hcons)
    · rw [pids_merge, hothersPids, hfirstPids]
      ext pid
      simp only [due, Set.mem_union, Set.mem_ofPred_eq, Set.mem_sdiff, List.mem_cons,
        exists_eq_or_imp]
      constructor
      · rintro (⟨hliving, hmortal, hwanted⟩ | ⟨⟨hliving, _⟩, hmortal, hwanted⟩)
        · exact ⟨hliving, hmortal, .inl hwanted⟩
        · exact ⟨hliving, hmortal, .inr hwanted⟩
      · rintro ⟨hliving, hmortal, hwanted⟩
        by_cases hfirst : pid ∈ wanted p
        · exact .inl ⟨hliving, hmortal, hfirst⟩
        · exact .inr ⟨⟨hliving, fun h => hfirst h.2.2⟩, hmortal, hwanted.resolve_left hfirst⟩

theorem reclaim_strikes (hhost : Host.IsPopulated σ alive barred) {r : Reclaimer σ}
    {ports : List Port} {patterns : List Pattern} {me : Pid} {cut : Bool}
    {living doomed : Set Pid}
    {report : ReclaimReport} (h : (runProbes r.pacing ⟨ports, patterns⟩ r.probes).Strikes
      alive me cut living report doomed) :
    (r.reclaim ports patterns).Strikes alive me cut living report doomed := by
  unfold reclaim
  refine h.last ?_
  split
  · exact (Task.strikes_emit hhost _).then ((Task.strikes_sleep hhost _).then (.pure _))
  · exact .pure _

/-- One report stands for all passes over some probes with others in between that cannot run. -/
theorem reclaim_kills_due (hhost : Host.IsPopulated σ alive barred) (r : Reclaimer σ)
    {ports : List Port} {patterns : List Pattern}
    (hfinds : ∀ p ∈ ps, p.Finds alive ⟨ports, patterns⟩ (wanted p)) (s : Session σ) :
    ∃ report : ReclaimReport,
      report.pids = due (Host.selfPid s.host) barred (alive s.host) wanted ps ∧
      ∀ qs, Padded alive ⟨ports, patterns⟩ ps qs →
        Ends ((r.withProbes qs).reclaim ports patterns) s
          (fun report' s' => report' = report ∧ alive s'.host = alive s.host \ report.pids)
          (fun _ _ => s.interruptible = true) := by
  obtain ⟨report, hstrikes, hpids⟩ := runProbes_strikes hhost (Host.selfPid s.host)
    s.interruptible r.pacing hfinds (alive s.host)
  refine ⟨report, hpids, fun qs hqs => ?_⟩
  have hreclaim := reclaim_strikes hhost (r := r.withProbes qs) (hstrikes qs hqs)
  exact (hreclaim s ⟨rfl, rfl, rfl⟩).mono (fun _ _ ⟨hreport, hs'⟩ => ⟨hreport, hs'.living⟩)
    fun _ _ h => h

omit [Host σ] in
theorem due_perm (h : ps.Perm qs) (me : Pid) (living : Set Pid) :
    due me barred living wanted ps = due me barred living wanted qs := by
  ext pid
  simp only [due, Set.mem_ofPred_eq, h.mem_iff]

/-- The order of the probes does not matter for what dies. In every order a pass, unless it is
interrupted, kills the processes that some probe looks for and that are alive, not protected and
within reach; the report names just these. Probes that cannot run, wherever they are put in, change
neither what dies nor the report. -/
theorem probe_order_does_not_matter (hhost : Host.IsPopulated σ alive barred) {r : Reclaimer σ}
    {ports : List Port} {patterns : List Pattern}
    (hfinds : ∀ p ∈ r.probes, p.Finds alive ⟨ports, patterns⟩ (wanted p)) (s : Session σ) :
    (∀ ps, ps.Perm r.probes →
      Ends ((r.withProbes ps).reclaim ports patterns) s
        (fun report s' =>
          report.pids = due (Host.selfPid s.host) barred (alive s.host) wanted r.probes ∧
          alive s'.host =
            alive s.host \ due (Host.selfPid s.host) barred (alive s.host) wanted r.probes)
        (fun _ _ => s.interruptible = true)) ∧
    ∃ report : ReclaimReport,
      report.pids = due (Host.selfPid s.host) barred (alive s.host) wanted r.probes ∧
      ∀ qs, Padded alive ⟨ports, patterns⟩ r.probes qs →
        Ends ((r.withProbes qs).reclaim ports patterns) s
          (fun report' s' => report' = report ∧ alive s'.host = alive s.host \ report.pids)
          (fun _ _ => s.interruptible = true) := by
  constructor
  · intro ps hperm
    have hps : ∀ p ∈ ps, p.Finds alive ⟨ports, patterns⟩ (wanted p) := fun p hp =>
      hfinds p (hperm.mem_iff.mp hp)
    obtain ⟨report, hpids, hruns⟩ := reclaim_kills_due hhost r hps s
    rw [due_perm hperm] at hpids
    refine (hruns ps (.refl ps)).mono (fun _ s' ⟨hreport, halive⟩ => ?_) fun _ _ h => h
    rw [hreport, ← hpids]
    exact ⟨rfl, halive⟩
  · exact reclaim_kills_due hhost r hfinds s

end Reclaimer

namespace Simulation.Population

/-- The ids of the living. -/
def livingPids (p : Population) : Set Pid := {pid | p.isAlive pid = true}

theorem isAlive_of_ids (ids : List Pid) (pid : Pid) :
    (Population.mk (ids.map fun pid => ⟨pid, false, []⟩)).isAlive pid = true ↔ pid ∈ ids := by
  simp [isAlive]

/-- On a population, processes end by signals only, and all but one can be signalled. -/
theorem isPopulated : Host.IsPopulated Population livingPids {foreign} where
  quiet h a ha := by
    cases a with
    | signal s r => exact absurd ha nofun
    | spawn dir l => exact absurd ha nofun
    | _ => rfl
  kill h pid halive hreach := by
    have hpid : h.isAlive pid = true := halive
    have hstrike : h.strike pid = (.ok (), ⟨h.living.filter (·.pid != pid)⟩) := by
      unfold strike
      rw [hpid, if_neg (by decide), if_neg (show ¬ pid = foreign from hreach)]
    refine ⟨congrArg Prod.fst hstrike, ?_⟩
    change livingPids (h.strike pid).2 = _
    rw [hstrike]
    ext other
    simp only [livingPids, isAlive, Set.mem_ofPred_eq, Set.mem_sdiff, Set.mem_singleton_iff,
      List.any_eq_true, List.mem_filter, beq_iff_eq, bne_iff_ne]
    constructor
    · rintro ⟨p, ⟨hp, hne⟩, rfl⟩
      exact ⟨⟨p, hp, rfl⟩, hne⟩
    · rintro ⟨⟨p, hp, rfl⟩, hne⟩
      exact ⟨p, ⟨hp, hne⟩, rfl⟩
  spare h pid halive hbarred := by
    have hpid : h.isAlive pid = true := halive
    have hstrike : h.strike pid = (.error (.errno 1), h) := by
      unfold strike
      rw [hpid, if_neg (by decide), if_pos (show pid = foreign from hbarred)]
    exact ⟨⟨_, congrArg Prod.fst hstrike⟩, congrArg livingPids (congrArg Prod.snd hstrike)⟩
  self h a := rfl

open Classical in
theorem finder_finds (name : String) (pids : List Pid) (q : Request) :
    (finder name pids).Finds livingPids q {pid | pid ∈ pids} := by
  intro me cut living
  refine ⟨(pids.filter (· ∈ living)).map fun pid => ⟨pid, name⟩, fun s hs => ?_, ?_⟩
  · rw [Set.sdiff_empty]
    refine ⟨?_, hs⟩
    have hfilter : pids.filter s.host.isAlive = pids.filter (· ∈ living) := by
      refine List.filter_congr fun pid _ => ?_
      rw [← hs.living]
      rw [Bool.eq_iff_iff, decide_eq_true_iff]
      exact Iff.rfl
    change Except.ok ((pids.filter s.host.isAlive).map _) = _
    rw [hfilter]
  · ext pid
    simp

theorem broken_fails (name : String) (q : Request) : (broken name).Fails livingPids q :=
  fun _ _ _ _ hs => ⟨⟨_, rfl⟩, hs⟩

/-- Six processes: the first one, the harness, three others, and one of someone else. -/
def crowd : Session Population :=
  Session.start ⟨[1, home, 101, 102, 103, foreign].map fun pid => ⟨pid, false, []⟩⟩ .absent

def byPort : List Pid := [1, 101, 102]
def byName : List Pid := [home, 102, 103, foreign]

def reclaimer : Reclaimer Population :=
  ⟨[finder "port" byPort, finder "name" byName], finder "name" byName, "lsof", {}⟩

/-- What the probes of the population look for. -/
def wanted (p : Probe Population) : Set Pid :=
  if p.name = "port" then {pid | pid ∈ byPort} else {pid | pid ∈ byName}

theorem reclaimer_finds : ∀ p ∈ reclaimer.probes, p.Finds livingPids ⟨[], []⟩ (wanted p) := by
  intro p hp
  simp only [reclaimer, List.mem_cons, List.not_mem_nil, or_false] at hp
  rcases hp with rfl | rfl
  · exact finder_finds "port" byPort _
  · exact finder_finds "name" byName _

/-- What dies of the crowd: not the first process, not the harness, and not what is out of reach. -/
theorem crowd_due : Reclaimer.due home {foreign} (livingPids crowd.host) wanted reclaimer.probes =
    {101, 102, 103} := by
  have hliving (pid : Pid) :
      pid ∈ livingPids crowd.host ↔ pid ∈ [1, home, 101, 102, 103, foreign] :=
    isAlive_of_ids _ pid
  ext pid
  simp only [Reclaimer.due, mortals, hliving, Set.mem_ofPred_eq, Set.mem_insert_iff,
    Set.mem_singleton_iff]
  constructor
  · rintro ⟨hmem, ⟨hone, hhome, hforeign, -⟩, -⟩
    simp only [List.mem_cons, List.not_mem_nil, or_false] at hmem
    rcases hmem with rfl | rfl | rfl | rfl | rfl | rfl
    · exact absurd hone (by decide)
    · exact absurd rfl hhome
    · exact .inl rfl
    · exact .inr (.inl rfl)
    · exact .inr (.inr rfl)
    · exact absurd rfl hforeign
  · have hport : finder "port" byPort ∈ reclaimer.probes := List.mem_cons_self
    have hname : finder "name" byName ∈ reclaimer.probes :=
      List.mem_cons_of_mem _ List.mem_cons_self
    have hwantedPort : wanted (finder "port" byPort) = {pid | pid ∈ byPort} := if_pos rfl
    have hwantedName : wanted (finder "name" byName) = {pid | pid ∈ byName} :=
      if_neg (show ¬ "name" = "port" by decide)
    rintro (rfl | rfl | rfl)
    · exact ⟨by decide, by decide, _, hport, hwantedPort ▸ (by decide : (101 : Pid) ∈ byPort)⟩
    · exact ⟨by decide, by decide, _, hport, hwantedPort ▸ (by decide : (102 : Pid) ∈ byPort)⟩
    · exact ⟨by decide, by decide, _, hname, hwantedName ▸ (by decide : (103 : Pid) ∈ byName)⟩

end Simulation.Population

namespace Reclaimer

open Simulation.Population

/-- In either order of the probes, and with one that cannot run between them, the same three
processes die. -/
theorem probe_order_does_not_matter_in_population :
    (∃ report s', (reclaimer.withProbes reclaimer.probes.reverse).reclaim [] [] crowd =
      .ok report s' ∧ report.pids = {101, 102, 103}) ∧
    (∃ report s₁ s₂,
      (reclaimer.withProbes reclaimer.probes).reclaim [] [] crowd = .ok report s₁ ∧
      (reclaimer.withProbes [finder "port" byPort, broken "table", finder "name" byName]).reclaim
        [] [] crowd = .ok report s₂) := by
  -- the session is kept as a variable, so that nothing is run here
  obtain ⟨s, hs⟩ : ∃ s, s = crowd := ⟨crowd, rfl⟩
  have hcut : ¬ s.interruptible = true := hs ▸ Bool.false_ne_true
  have hdue : due (Host.selfPid s.host) {foreign} (livingPids s.host) wanted reclaimer.probes =
      {101, 102, 103} := hs ▸ crowd_due
  rw [← hs]
  have h := probe_order_does_not_matter isPopulated reclaimer_finds s
  constructor
  · have hreversed := h.1 _ (List.reverse_perm _)
    obtain ⟨report, s', hrun, hpids, -⟩ :=
      (hreversed.mono (fun _ _ h => h) fun _ _ he => hcut he).exists_ok
    exact ⟨report, s', hrun, hpids.trans hdue⟩
  · obtain ⟨report, -, hruns⟩ := h.2
    have hpadded : Padded livingPids ⟨[], []⟩ reclaimer.probes
        [finder "port" byPort, broken "table", finder "name" byName] :=
      .keep _ (.insert (broken_fails "table" _) (.keep _ .nil))
    obtain ⟨_, s₁, hrun₁, rfl, -⟩ :=
      ((hruns _ (.refl _)).mono (fun _ _ h => h) fun _ _ he => hcut he).exists_ok
    obtain ⟨_, s₂, hrun₂, rfl, -⟩ :=
      ((hruns _ hpadded).mono (fun _ _ h => h) fun _ _ he => hcut he).exists_ok
    exact ⟨_, s₁, s₂, hrun₁, hrun₂⟩

end Reclaimer

end LatencyHarness
