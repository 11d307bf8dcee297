import LatencyHarness.Proofs.Kills
import LatencyHarness.Proofs.ProbeOrder
import LatencyHarness.Proofs.Series

/-! What a reclamation reports.

A probe that has run leads to one attempt for each process that it has named and that is not
protected, in the order in which they are first named. An attempt is delivered, finds its process
gone, or fails; the report lists the targets of those that were delivered, in the order of the
attempts, and nothing else. -/
namespace LatencyHarness

variable {σ : Type} [Host σ]

/-! ### Attempts -/

/-- What has become of an attempt to kill a process. -/
inductive Fate where
  | delivered
  | gone
  | failed
  deriving DecidableEq, Repr

/-- What the answer to the kill signal tells of the attempt. -/
def Fate.ofAnswer : Except SystemError Unit → Fate
  | .ok () => delivered
  | .error (.errno 3) => gone
  | .error _ => failed

/-- What is made of the answer. -/
def Fate.ofResult : Except SystemError Bool → Fate
  | .ok true => delivered
  | .ok false => gone
  | .error _ => failed

structure Attempt where
  target : Target
  fate : Fate
  deriving DecidableEq, Repr

/-- The targets that have been killed. -/
def Attempt.delivered (xs : List Attempt) : List Target :=
  (xs.filter (·.fate = .delivered)).map (·.target)

/-- A report that tells of some attempts which have been delivered, and that says if there are
any. -/
structure ReclaimReport.Tells (report : ReclaimReport) (xs : List Attempt) : Prop where
  killed : report.killed = Attempt.delivered xs
  anyKilled : report.anyKilled = true ↔ report.killed ≠ []

namespace ReclaimReport.Tells

variable {a b : ReclaimReport} {xs ys : List Attempt} {x : Attempt}

theorem empty : ReclaimReport.empty.Tells [] := ⟨rfl, by simp [ReclaimReport.empty]⟩

theorem one (t : Target) : (ReclaimReport.mk true [t]).Tells [⟨t, .delivered⟩] := ⟨rfl, by simp⟩

theorem merge (ha : a.Tells xs) (hb : b.Tells ys) : (a.merge b).Tells (xs ++ ys) where
  killed := by
    simp only [ReclaimReport.merge, Attempt.delivered, List.filter_append, List.map_append]
    rw [ha.killed, hb.killed]
    rfl
  anyKilled := by
    -- the two flags, and the two lists, are looked at one by one
    simp only [ReclaimReport.merge, Bool.or_eq_true, ha.anyKilled, hb.anyKilled, ne_eq,
      List.append_eq_nil_iff, not_and_or]

theorem cons_of_ne (hx : x.fate ≠ .delivered) (ha : a.Tells xs) : a.Tells (x :: xs) where
  killed := by
    have hskip : Attempt.delivered (x :: xs) = Attempt.delivered xs := by
      simp [Attempt.delivered, hx]
    rw [hskip, ha.killed]
  anyKilled := ha.anyKilled

end ReclaimReport.Tells

namespace Session

/-- From one session to the other an attempt is made: the kill signal is sent, unless the id is no
number of a process. -/
inductive Tries : Session σ → Attempt → Session σ → Prop
  | sent {s : Session σ} {t : Target} (h : t.pid.toNat ≤ maxOsPid) :
      Tries s ⟨t, .ofAnswer (s.answer .kill (.process t.pid))⟩ (s.sent .kill (.process t.pid))
  | refused {s : Session σ} {t : Target} (h : maxOsPid < t.pid.toNat) : Tries s ⟨t, .failed⟩ s

theorem Tries.precedes {s s' : Session σ} {x : Attempt} (h : s.Tries x s') : s.Precedes s' := by
  cases h with
  | sent _ => exact (s.reaches_sent _ _).precedes
  | refused _ => exact .refl s

/-- Between two sessions these attempts are made, and apart from them no signal is sent. -/
abbrev Attempts (s : Session σ) (xs : List Attempt) (s' : Session σ) : Prop :=
  Series (Action.sendsNothing ·) Tries s xs s'

end Session

/-! ### The targets that are due -/

namespace Target

/-- Of the targets with one process the first. -/
def firsts : List Target → List Target
  | [] => []
  | t :: ts => t :: (firsts ts).filter (·.pid ≠ t.pid)

/-- The targets that are to be killed: the first one for each process that is not protected. -/
def due (me : Pid) (ts : List Target) : List Target :=
  (firsts ts).filter fun t => ¬(t.pid ≤ 1 ∨ t.pid = me)

variable {me : Pid} {seen : List Pid} {t : Target} {ts : List Target}

theorem mem_firsts : t ∈ firsts ts ↔ ts.find? (·.pid == t.pid) = some t := by
  induction ts with
  | nil => simp [firsts]
  | cons x xs ih =>
    by_cases heq : x.pid = t.pid
    · -- the first target with this process stands in front
      simp [firsts, heq, eq_comm]
    · have hne : t ≠ x := fun h => heq (h ▸ rfl)
      simp [firsts, heq, hne, ih, Ne.symm heq]

/-- What is due is due once. -/
theorem due_nodup : ((due me ts).map (·.pid)).Nodup := by
  have hfirsts : ((firsts ts).map (·.pid)).Nodup := by
    induction ts with
    | nil => exact .nil
    | cons x xs ih =>
      refine List.nodup_cons.mpr ⟨?_, ih.sublist (List.filter_sublist.map _)⟩
      simp
  exact hfirsts.sublist (List.filter_sublist.map _)

/-- What is due is the first target with a process that is not protected. -/
theorem mem_due : t ∈ due me ts ↔
    ts.find? (·.pid == t.pid) = some t ∧ ¬(t.pid ≤ 1 ∨ t.pid = me) := by
  simp [due, mem_firsts]

/-- What is due of some targets, apart from those that have been seen. -/
def dueAfter (seen : List Pid) (me : Pid) (ts : List Target) : List Target :=
  (due me ts).filter (·.pid ∉ seen)

theorem dueAfter_nil : dueAfter [] me ts = due me ts := by simp [dueAfter]

theorem dueAfter_cons : dueAfter seen me (t :: ts) =
    (if t.pid ∈ seen ∨ (t.pid ≤ 1 ∨ t.pid = me) then [] else [t]) ++
      dueAfter (t.pid :: seen) me ts := by
  let left (x : Target) : Bool := ¬(x.pid ∈ seen ∨ (x.pid ≤ 1 ∨ x.pid = me))
  have hall (l : List Target) : (l.filter fun x => ¬(x.pid ≤ 1 ∨ x.pid = me)).filter
      (·.pid ∉ seen) = l.filter left := by
    rw [List.filter_filter]
    refine List.filter_congr fun x _ => ?_
    simp only [left, not_or, Bool.decide_and]
  -- the others with the same process are left out on both sides
  have hrest : ((firsts ts).filter (·.pid ≠ t.pid)).filter left =
      dueAfter (t.pid :: seen) me ts := by
    unfold dueAfter due
    rw [List.filter_filter, List.filter_filter]
    refine List.filter_congr fun x _ => ?_
    simp only [left, List.mem_cons, not_or, Bool.decide_and]
    grind
  change List.filter _ (List.filter _ (t :: (firsts ts).filter (·.pid ≠ t.pid))) = _
  rw [hall]
  by_cases hpass : t.pid ∈ seen ∨ (t.pid ≤ 1 ∨ t.pid = me)
  · have hout : ¬left t = true := fun h => of_decide_eq_true h hpass
    rw [if_pos hpass, List.filter_cons_of_neg hout, hrest, List.nil_append]
  · have hin : left t = true := decide_eq_true hpass
    rw [if_neg hpass, List.filter_cons_of_pos hin, hrest, List.singleton_append]

end Target

namespace Reclaimer

section Targets

variable {me : Pid} {pause : Millis} {probe : String} {seen : List Pid} {t : Target}
  {ts due : List Target} {report : ReclaimReport} {s s' u : Session σ}

/-- Between two sessions the targets that are due have been attempted, and the report tells of
it. -/
def Accounts (due : List Target) (s : Session σ) (report : ReclaimReport) (s' : Session σ) : Prop :=
  ∃ xs, xs.map (·.target) = due ∧ s.Attempts xs s' ∧ report.Tells xs

theorem Accounts.before (h : s.Reaches (Action.sendsNothing ·) u)
    (hu : Accounts due u report s') : Accounts due s report s' := by
  obtain ⟨xs, hdue, hxs, htells⟩ := hu
  exact ⟨xs, hdue, hxs.before h, htells⟩

theorem Accounts.cons_delivered (h : s.Tries ⟨t, .delivered⟩ u) (hu : Accounts due u report s') :
    Accounts (t :: due) s (.merge ⟨true, [t]⟩ report) s' := by
  obtain ⟨xs, rfl, hxs, htells⟩ := hu
  exact ⟨⟨t, .delivered⟩ :: xs, rfl, .cons h hxs, .merge (.one t) htells⟩

theorem Accounts.cons_other {fate : Fate} (h : s.Tries ⟨t, fate⟩ u) (hfate : fate ≠ .delivered)
    (hu : Accounts due u report s') : Accounts (t :: due) s report s' := by
  obtain ⟨xs, rfl, hxs, htells⟩ := hu
  exact ⟨⟨t, fate⟩ :: xs, rfl, .cons h hxs, .cons_of_ne hfate htells⟩

end Targets

end Reclaimer

/-- To kill a process that is not protected is to make an attempt, and what comes of it is told. -/
theorem Task.forceKill_tries (t : Target) {s : Session σ}
    (hspared : ¬(t.pid ≤ 1 ∨ t.pid = Host.selfPid s.host)) :
    Ends (forceKill t.pid : Task σ _) s (fun r s' => s.Tries ⟨t, .ofResult r⟩ s')
      (fun _ _ => False) := by
  have hguard : (decide (t.pid ≤ 1) || t.pid == Host.selfPid s.host) = false := by
    simpa [not_or] using hspared
  have hasked : Ends (isProtected t.pid : Task σ Bool) s (fun b s' => b = false ∧ s' = s)
      (fun _ _ => False) := ⟨hguard, rfl⟩
  refine hasked.bind ?_
  rintro b s₁ ⟨rfl, rfl⟩
  change Ends (if (osPid? t.pid).isNone then _ else _) s₁ _ _
  split
  · next hnone =>
    have hbig := (isNone_osPid? t.pid).mp hnone
    exact .refused (by unfold maxOsPid; omega)
  · next hsome =>
    have hsmall : t.pid.toNat ≤ maxOsPid := by
      have hlt := Nat.lt_of_not_le fun h => hsome ((isNone_osPid? t.pid).mpr h)
      unfold maxOsPid
      omega
    have hsent := Session.Tries.sent (s := s₁) hsmall
    refine ends_answer_bind ?_
    -- each answer tells of the fate that its result tells of
    split
    · next h => exact (h ▸ hsent : s₁.Tries ⟨t, .delivered⟩ _)
    · next h => exact (h ▸ hsent : s₁.Tries ⟨t, .gone⟩ _)
    · next e hother h =>
      have hfailed : Fate.ofAnswer (.error e) = .failed := by
        unfold Fate.ofAnswer
        split
        · next heq => cases heq
        · next heq => exact (hother (Except.error.inj heq)).elim
        · rfl
      rw [h, hfailed] at hsent
      exact hsent

namespace Reclaimer

variable {pause : Millis} {probe : String} {seen : List Pid} {t : Target} {ts : List Target}
  {s : Session σ}

/-- The targets of a probe are attempted as far as they are due. -/
theorem killTargets_accounts (hσ : Host.KeepsPid σ) (pause : Millis) (probe : String)
    (seen : List Pid) (ts : List Target) (s : Session σ) :
    Ends (killTargets pause probe seen ts : Task σ _) s
      (Accounts (Target.dueAfter seen (Host.selfPid s.host) ts) s) (fun _ _ => True) := by
  -- on the targets; what has been seen grows, and the harness keeps its id
  induction ts generalizing seen s with
  | nil => exact ⟨[], rfl, .refl s, .empty⟩
  | cons t ts ih =>
    rw [Target.dueAfter_cons]
    change Ends (if (seen.contains t.pid || (decide (t.pid ≤ 1) || t.pid == Host.selfPid s.host)) = true
      then _ else _) s _ _
    by_cases hpass : t.pid ∈ seen ∨ (t.pid ≤ 1 ∨ t.pid = Host.selfPid s.host)
    · -- a target that has been seen, or that is protected, is passed over
      rw [if_pos hpass, if_pos (by simpa using hpass), List.nil_append]
      exact ih (t.pid :: seen) s
    · rw [if_neg hpass, if_neg (by simpa using hpass), List.singleton_append]
      have hspared : ¬(t.pid ≤ 1 ∨ t.pid = Host.selfPid s.host) := fun h => hpass (.inr h)
      refine (Task.forceKill_tries t hspared).of_total.bind fun r u hu => ?_
      have hrest {v : Session σ} (hv : u.Reaches (Action.sendsNothing ·) v) :
          Ends (killTargets pause probe (t.pid :: seen) ts : Task σ _) v
            (Accounts (Target.dueAfter (t.pid :: seen) (Host.selfPid s.host) ts) u)
            (fun _ _ => True) := by
        have hown : Host.selfPid v.host = Host.selfPid s.host :=
          (hu.precedes.trans hv.precedes).selfPid_eq hσ
        rw [← hown]
        exact (ih (t.pid :: seen) v).weaken fun _ _ h => h.before hv
      cases r with
      | error e =>
        have hnoted := hrest (.step u (a := .note (.killFailed t.pid)) rfl)
        exact Task.ends_emit_bind (hnoted.weaken fun _ _ h => h.cons_other hu nofun)
      | ok delivered =>
        cases delivered with
        | false =>
          have hnoted := hrest (.step u (a := .note (.alreadyGone t.pid)) rfl)
          exact Task.ends_emit_bind (hnoted.weaken fun _ _ h => h.cons_other hu nofun)
        | true =>
          have hpause : (do Task.emit (.killed probe t)
                            Task.sleep pause : Task σ Unit).Within (Action.sendsNothing ·) :=
            (Task.within_emit (A := (Action.sendsNothing ·)) rfl).bind fun _ =>
              Task.within_sleep (fun _ => Action.sendsNothing_of_isWaiting) pause
          refine (hpause u).forget.bind fun _ v hv => ?_
          exact (hrest hv).bind fun _ _ h => h.cons_delivered hu

end Reclaimer

/-! ### Turns -/

/-- The turn of a probe: what it has been asked and has found, and what has been attempted then. -/
structure Turn (σ : Type) where
  question : Probe σ × Request
  found : Except SystemError (List Target)
  attempts : List Attempt

/-- What is to be killed in a turn. A probe that cannot run leads to nothing. -/
def Turn.due (me : Pid) (x : Turn σ) : List Target :=
  match x.found with
  | .ok ts => Target.due me ts
  | .error _ => []

namespace Session

variable {s s' t : Session σ} {a b report : ReclaimReport} {qs qs' : List (Probe σ × Request)}

/-- From one session to the other a probe has its turn: it is asked, and what is due is attempted
once each, in order. -/
def Takes (s : Session σ) (x : Turn σ) (s' : Session σ) : Prop :=
  ∃ u, x.question.1.discover x.question.2 s = .ok x.found u ∧
    x.attempts.map (·.target) = x.due (Host.selfPid u.host) ∧ u.Attempts x.attempts s'

/-- Between two sessions some questions are put to probes, one after the other, and the report tells
of all attempts that they have led to. No other signal is sent by anyone but the probes. -/
def Reports (s : Session σ) (qs : List (Probe σ × Request)) (report : ReclaimReport)
    (s' : Session σ) : Prop :=
  ∃ xs : List (Turn σ), xs.map (·.question) = qs ∧
    Series (Action.sendsNothing ·) Takes s xs s' ∧ report.Tells (xs.flatMap (·.attempts))

namespace Reports

theorem empty (s : Session σ) : s.Reports [] .empty s := ⟨[], rfl, .refl s, .empty⟩

theorem before (h : s.Reaches (Action.sendsNothing ·) t) (ht : t.Reports qs report s') :
    s.Reports qs report s' := by
  obtain ⟨xs, hqs, hxs, htells⟩ := ht
  exact ⟨xs, hqs, hxs.before h, htells⟩

theorem after (hs : s.Reports qs report t) (h : t.Reaches (Action.sendsNothing ·) s') :
    s.Reports qs report s' := by
  obtain ⟨xs, hqs, hxs, htells⟩ := hs
  exact ⟨xs, hqs, hxs.after h, htells⟩

theorem merge (ha : s.Reports qs a t) (hb : t.Reports qs' b s') :
    s.Reports (qs ++ qs') (a.merge b) s' := by
  obtain ⟨xs, rfl, hxs, ha⟩ := ha
  obtain ⟨ys, rfl, hys, hb⟩ := hb
  refine ⟨xs ++ ys, List.map_append, hxs.append hys, ?_⟩
  rw [List.flatMap_append]
  exact ha.merge hb

end Reports

end Session

namespace Reclaimer

variable {r : Reclaimer σ}

theorem runProbe_reports (hσ : Host.KeepsPid σ) (pacing : ReclaimPacing) (p : Probe σ) (q : Request)
    (s : Session σ) :
    Ends (runProbe pacing p q) s (s.Reports [(p, q)]) (fun _ _ => True) := by
  have htold {found : Except SystemError (List Target)} {u s' : Session σ} {report : ReclaimReport}
      (hfound : p.discover q s = .ok found u)
      (h : Accounts (Turn.due (Host.selfPid u.host) ⟨(p, q), found, []⟩) u report s') :
      s.Reports [(p, q)] report s' := by
    obtain ⟨xs, hdue, hxs, htells⟩ := h
    have hturn : s.Takes ⟨(p, q), found, xs⟩ s' := ⟨u, hfound, hdue, hxs⟩
    exact ⟨[⟨(p, q), found, xs⟩], rfl, .one hturn, by simpa using htells⟩
  refine (Ends.ok_self (p.discover q) s).bind fun found u hfound => ?_
  match found with
  | .ok ts =>
    have hkilled := killTargets_accounts hσ pacing.killPause p.name [] ts u
    rw [Target.dueAfter_nil] at hkilled
    exact hkilled.weaken fun _ _ h => htold hfound h
  | .error e =>
    have hnoted : u.Attempts [] ((Action.note (.probeUnavailable p.name)).apply u) :=
      .done (.step u rfl)
    exact Task.ends_emit_bind (htold hfound ⟨[], rfl, hnoted, .empty⟩)

theorem runProbes_reports (hσ : Host.KeepsPid σ) (pacing : ReclaimPacing) (q : Request)
    (ps : List (Probe σ)) (s : Session σ) :
    Ends (runProbes pacing q ps) s (s.Reports (ps.map (·, q))) (fun _ _ => True) := by
  induction ps generalizing s with
  | nil => exact .empty s
  | cons p ps ih =>
    refine (runProbe_reports hσ pacing p q s).bind fun a t ha => ?_
    exact (ih t).bind fun b s' hb => ha.merge hb

theorem reclaim_reports (hσ : Host.KeepsPid σ) (r : Reclaimer σ) (ports : List Port)
    (patterns : List Pattern) (s : Session σ) :
    Ends (r.reclaim ports patterns) s (s.Reports (r.probes.map (·, ⟨ports, patterns⟩)))
      (fun _ _ => True) := by
  refine (runProbes_reports hσ r.pacing ⟨ports, patterns⟩ r.probes s).bind fun report t ht => ?_
  split
  · -- sockets are given time to settle if anything has been killed
    have hsettled : t.Reaches (Action.sendsNothing ·)
        ((Action.note (.settling report.killed.length)).apply t) := .step t rfl
    have hpause : (Task.sleep r.pacing.settleDelay : Task σ Unit).Within (Action.sendsNothing ·) :=
      Task.within_sleep (fun _ => Action.sendsNothing_of_isWaiting) _
    refine Task.ends_emit_bind ((hpause _).forget.bind fun _ s' hs' => ?_)
    exact ht.after (hsettled.trans hs')
  · exact ht

/-- An escalation is a sweep, a pause and a pass. -/
theorem escalate_splits (r : Reclaimer σ) (ports : List Port) (patterns : List Pattern)
    (s : Session σ) :
    Ends (r.escalate ports patterns) s
      (fun report s' => ∃ a s₁ s₂ b,
        r.sweep patterns ((Action.note (.escalating ports)).apply s) = .ok a s₁ ∧
        Task.sleep r.pacing.escalationPause s₁ = .ok () s₂ ∧
        r.reclaim ports patterns s₂ = .ok b s' ∧ report = a.merge b)
      (fun _ _ => True) := by
  refine Task.ends_emit_bind ?_
  refine (Ends.ok_self (r.sweep patterns) _).bind fun a s₁ ha => ?_
  refine (Ends.ok_self (Task.sleep r.pacing.escalationPause) s₁).bind fun _ s₂ hpause => ?_
  refine (Ends.ok_self (r.reclaim ports patterns) s₂).bind fun b s' hb => ?_
  exact ⟨a, s₁, s₂, b, ha, hpause, hb, rfl⟩

end Reclaimer

namespace Reclamation

theorem run_reports (hσ : Host.KeepsPid σ) (r : Reclaimer σ) (x : Reclamation) (s : Session σ) :
    Ends (x.run r) s (s.Reports (x.questions r)) (fun _ _ => True) := by
  cases x with
  | pass ports patterns => exact r.reclaim_reports hσ ports patterns s
  | sweep patterns => exact Reclaimer.runProbe_reports hσ r.pacing r.sweeper ⟨[], patterns⟩ s
  | escalation ports patterns =>
    have hnoted : s.Reaches (Action.sendsNothing ·)
        ((Action.note (.escalating ports)).apply s) := .step s rfl
    have hpause : (Task.sleep r.pacing.escalationPause : Task σ Unit).Within
        (Action.sendsNothing ·) :=
      Task.within_sleep (fun _ => Action.sendsNothing_of_isWaiting) _
    refine Task.ends_emit_bind ?_
    have hswept := Reclaimer.runProbe_reports hσ r.pacing r.sweeper ⟨[], patterns⟩
      ((Action.note (.escalating ports)).apply s)
    refine hswept.bind fun a s₁ ha => (hpause s₁).forget.bind fun _ s₂ hs₂ => ?_
    refine (r.reclaim_reports hσ ports patterns s₂).bind fun b s' hb => ?_
    exact (ha.before hnoted).merge (hb.before hs₂)

theorem steady_run {r : Reclaimer σ} (hr : r.IsSteady) (x : Reclamation) : (x.run r).Steady := by
  cases x with
  | pass ports patterns => exact hr.reclaim ports patterns
  | sweep patterns => exact Reclaimer.steady_covers.runProbe r.pacing (hr.sweeper _)
  | escalation ports patterns => exact hr.escalate ports patterns

/-- A reclamation tells exactly what it has killed. Its probes are asked one after the other; each
that can run leads to one attempt for every process that it has named and that is not protected, in
the order in which they are first named. The report lists the targets of the attempts that were
delivered, in order, and says that anything was killed if there are any. An escalation reports what
its sweep has reported and then what its pass has. Nothing but a request for shutdown keeps the
report from being given, if nothing else halts the probes. -/
theorem report_is_exact (hσ : Host.KeepsPid σ) (r : Reclaimer σ) (s : Session σ) :
    (∀ (x : Reclamation) report s', x.run r s = .ok report s' →
        s.Reports (x.questions r) report s') ∧
      (∀ ports patterns report s', r.escalate ports patterns s = .ok report s' →
        ∃ a s₁ s₂ b, r.sweep patterns ((Action.note (.escalating ports)).apply s) = .ok a s₁ ∧
          Task.sleep r.pacing.escalationPause s₁ = .ok () s₂ ∧
          r.reclaim ports patterns s₂ = .ok b s' ∧ report = a.merge b) ∧
      (r.IsSteady → ∀ (x : Reclamation) halt s', x.run r s = .error halt s' →
        halt = .interrupted ∧ s.interruptible = true) := by
  refine ⟨fun x report s' hrun => ?_, fun ports patterns report s' hrun => ?_,
    fun hr x halt s' hrun => ?_⟩
  · exact (x.run_reports hσ r s).of_ok hrun
  · exact (r.escalate_splits ports patterns s).of_ok hrun
  · exact ((steady_run hr x).halts (.self _ s)).of_error hrun

end Reclamation

namespace Simulation.Population

/-- A probe that names the same targets each time. -/
def lister (name : String) (targets : List Target) : Probe Population where
  name := name
  discover _ := return .ok targets

/-- Two ports that one process holds, the harness, a process that is gone, one that may not be
signalled, and an id that is no number of a process. -/
def holders : List Target :=
  [⟨101, "holds port 3001"⟩, ⟨home, "holds port 3001"⟩, ⟨105, "holds port 3002"⟩,
    ⟨101, "holds port 3002"⟩, ⟨foreign, "holds port 3002"⟩, ⟨0xffffffff, "holds port 3002"⟩,
    ⟨103, "holds port 3002"⟩]

def listing : Reclaimer Population :=
  ⟨[broken "table", lister "sockets" holders], lister "names" [⟨102, "matches"⟩, ⟨102, "again"⟩],
    "lsof", {}⟩

theorem escalation_reports : Ends ((Reclamation.escalation [3001, 3002] []).run listing) crowd
    (fun report _ => report = ⟨true, [⟨102, "matches"⟩, ⟨101, "holds port 3001"⟩,
      ⟨103, "holds port 3002"⟩]⟩)
    (fun _ _ => False) := by
  decide +kernel

end Simulation.Population

/-- In an escalation on a population three processes are killed: one by the sweep, and two by a
pass in which one probe cannot run, another names a process twice, and three attempts fail. -/
theorem Reclamation.report_is_exact_in_population :
    ∃ report s', (Reclamation.escalation [3001, 3002] []).run Simulation.Population.listing
        Simulation.Population.crowd = .ok report s' ∧
      report.killed = [⟨102, "matches"⟩, ⟨101, "holds port 3001"⟩, ⟨103, "holds port 3002"⟩] ∧
      Simulation.Population.crowd.Reports
        ((Reclamation.escalation [3001, 3002] []).questions Simulation.Population.listing)
        report s' := by
  have hkeeps : Host.KeepsPid Simulation.Population := fun _ _ => rfl
  have h := Reclamation.report_is_exact hkeeps Simulation.Population.listing
    Simulation.Population.crowd
  obtain ⟨report, s', hrun, hreport⟩ := Simulation.Population.escalation_reports.exists_ok
  exact ⟨report, s', hrun, congrArg ReclaimReport.killed hreport, h.1 _ report s' hrun⟩

end LatencyHarness
