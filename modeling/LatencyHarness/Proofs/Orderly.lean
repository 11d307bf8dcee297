import LatencyHarness.Client
import LatencyHarness.Preconditions
import LatencyHarness.Proofs.Steps
import LatencyHarness.Readiness.Watch
import LatencyHarness.Reclaim

/-! The tasks of a run are orderly: reading, the wait for a marker, the ending of processes, the
freeing of ports and the checks before the first launch. None of them passes a milestone of the
run, except that the preflight says when the ports are free. -/
namespace LatencyHarness

variable {σ : Type} [Host σ]

/-! ### Reading, and the wait for a marker -/

theorem Reading.orderly_covers (pid : Pid) : Covers pid fun α (t : Task σ α) => t.Orderly where
  toIsClosed := Task.Orderly.isClosed
  now := (Task.smooth_ask _).orderly
  patience := (Task.smooth_ask _).orderly
  look r := (Task.smooth_lookOnce pid r).orderly
  await _ := Task.orderly_await _ _
  exhausted := .throw nofun

theorem Watch.smooth_coversEcho : CoversEcho fun α (t : Task σ α) => t.Smooth where
  toIsClosed := Task.Smooth.isClosed
  print := Task.smooth_print
  undecodable := Task.smooth_emit rfl

theorem Watch.orderly_covers (pid : Pid) : Covers pid fun α (t : Task σ α) => t.Orderly where
  toCovers := Reading.orderly_covers pid
  print _ := (Task.smooth_print _).orderly
  undecodable := (Task.smooth_emit rfl).orderly
  exitStatus? := (Task.smooth_ask _).orderly
  statusUnknown := (Task.smooth_emit rfl).orderly
  sleep d := Task.orderly_sleep d

/-- Of all observations only that of a dead process says how it ended. -/
theorem Observation.eq_dead_of_verdict {marker : List Char} {o : Observation}
    {status : WaitStatus} (h : o.verdict marker = some (.processExited status)) :
    o = .dead status := by
  unfold verdict at h
  split at h
  · simp at h
  · simpa using h
  · simp at h
  · -- a line that was read tells of readiness, if of anything
    split at h
    · split at h <;> simp at h
    · simp at h

namespace Watch

theorem orderly_deadline (w : Watch) : (w.deadline : Task σ _).Orderly :=
  (Task.smooth_ask _).orderly.bind fun _ => .ite (.pure _) (.throw nofun)

theorem smooth_echo (w : Watch) (o : Observation) : (w.echo o : Task σ Unit).Smooth :=
  smooth_coversEcho.echo w o

theorem orderly_run (w : Watch) (pid : Pid) (r : LineReader) : (w.run pid r : Task σ _).Orderly :=
  (orderly_covers pid).run w w.orderly_deadline r

theorem readLine_learns (pid : Pid) (wait : Millis) (r : LineReader) (s : Session σ) :
    Ends (readLine pid wait r : Task σ _) s
      (fun x s' => ∀ status, x.2 = .dead status → s'.HasLearnt pid status) (fun _ _ => True) := by
  refine (((orderly_covers pid).line wait r).ends s).bind fun x s' _ => ?_
  intro status hdead
  simp at hdead

/-- A round reports a process as dead only with the status that the host gives. -/
theorem observe_learns (pid : Pid) (deadline : Instant) (r : LineReader) (s : Session σ) :
    Ends (observe pid deadline r : Task σ _) s
      (fun x s' => ∀ status, x.2 = .dead status → s'.HasLearnt pid status) (fun _ _ => True) := by
  refine Task.ends_ask_bind ?_
  split
  · intro status hdead
    simp at hdead
  · refine Task.ends_ask_bind ?_
    split
    · next status' hstatus =>
      intro status hdead
      obtain rfl : status' = status := Observation.dead.inj hdead
      exact ⟨s, hstatus, .refl s⟩
    · exact readLine_learns pid _ r s
    · exact ((Task.smooth_emit rfl).orderly.ends s).bind fun _ t _ => readLine_learns pid _ r t

theorem rounds_learns (w : Watch) (pid : Pid) (deadline : Instant) (fuel : Nat) (r : LineReader)
    (s : Session σ) : Ends (w.rounds pid deadline fuel r : Task σ _) s
      (fun x s' => ∀ status, x.2 = .processExited status → s'.HasLearnt pid status)
      (fun _ _ => True) := by
  -- a round either decides, by what it has observed, or leaves it to the next one
  induction fuel generalizing r s with
  | zero => trivial
  | succ fuel ih =>
    refine (observe_learns pid deadline r s).bind fun (r, o) s₁ h₁ => ?_
    refine ((smooth_echo w o).orderly.ends s₁).bind fun _ s₂ h₂ => ?_
    have hnext : Ends (do
        if pauses o then Task.sleep (min w.pollInterval (deadline - (← Task.ask Host.now)))
        w.rounds pid deadline fuel r : Task σ _) s₂
        (fun x s' => ∀ status, x.2 = .processExited status → s'.HasLearnt pid status)
        (fun _ _ => True) := by
      split
      · refine Task.ends_ask_bind ?_
        exact ((Task.orderly_sleep _).ends s₂).bind fun _ t _ => ih r t
      · exact ih r s₂
    split
    · -- the round decides, and only a dead process makes it decide for an end
      next outcome hv =>
      intro status houtcome
      obtain rfl : outcome = .processExited status := houtcome
      exact (h₁ status (Observation.eq_dead_of_verdict hv)).later h₂.reaches.later
    · exact hnext

/-- The status that ends the wait is one that the host has given. -/
theorem run_learns (w : Watch) (pid : Pid) (r : LineReader) (s : Session σ) :
    Ends (w.run pid r : Task σ _) s
      (fun x s' => ∀ status, x.2 = .processExited status → s'.HasLearnt pid status)
      (fun _ _ => True) :=
  (w.orderly_deadline.ends s).bind fun d s₁ _ =>
    Task.ends_ask_bind (w.rounds_learns pid d _ r s₁)

end Watch

/-! ### Ending processes -/

namespace Task

theorem smooth_coversSignals : CoversSignals fun α (t : Task σ α) => t.Smooth where
  toIsClosed := Smooth.isClosed
  ownGroup := smooth_ask _
  send := smooth_send
  note he := smooth_emit (Event.isMilestone_of_isOfEnding he)

theorem orderly_coversEnding (pid : Pid) : CoversEnding pid fun α (t : Task σ α) => t.Orderly where
  toIsClosed := Orderly.isClosed
  ownGroup := (smooth_ask _).orderly
  send signal recipient := (smooth_send signal recipient).orderly
  note he := (smooth_emit (Event.isMilestone_of_isOfEnding he)).orderly
  exitStatus? := (smooth_ask _).orderly
  now := (smooth_ask _).orderly
  await _ := orderly_await _ _

theorem smooth_signalProcess (pid : Pid) (signal : Signal) :
    (signalProcess pid signal : Task σ Unit).Smooth :=
  smooth_coversSignals.signalProcess pid signal

theorem smooth_signalTree (pid : Pid) (signal : Signal) :
    (signalTree pid signal : Task σ Unit).Smooth :=
  smooth_coversSignals.signalTree pid signal

theorem orderly_waitExit (pid : Pid) (limit : Option Millis) :
    (waitExit pid limit : Task σ _).Orderly :=
  (orderly_coversEnding pid).waitExit limit

theorem orderly_shutdown (pid : Pid) (timeouts : StopTimeouts) :
    (shutdown pid timeouts : Task σ _).Orderly :=
  (orderly_coversEnding pid).shutdown timeouts

theorem smooth_release (pid : Pid) : (release pid : Task σ Unit).Smooth := by
  have hkill : (do let _ ← send .kill (.process pid) : Task σ Unit).Smooth :=
    (smooth_send _ _).bind fun _ => .pure ()
  refine (smooth_ask _).bind fun status => ?_
  match status with
  | .ok (some _) => exact .pure ()
  | .ok none | .error _ => exact hkill

theorem smooth_isProtected (pid : Pid) : (isProtected pid : Task σ Bool).Smooth :=
  (smooth_ask _).bind fun _ => .pure _

theorem smooth_forceKill (pid : Pid) : (forceKill pid : Task σ _).Smooth := by
  refine (smooth_isProtected pid).bind fun _ => .ite (.pure _) (.ite (.pure _) ?_)
  refine (smooth_send _ _).bind fun r => ?_
  split <;> exact .pure _

end Task

/-! ### Freeing ports -/

namespace Probe

theorem orderly_coversTools : CoversTools fun α (t : Task σ α) => t.Orderly where
  toIsClosed := Task.Orderly.isClosed
  capture _ := Task.orderly_capture _ _
  note _ _ _ := (Task.smooth_emit rfl).orderly

theorem smooth_coversRecords : CoversRecords fun α (t : Task σ α) => t.Smooth where
  toIsClosed := Task.Smooth.isClosed
  ask := Task.smooth_ask
  list := Task.smooth_inFolder _
  delete _ := Task.smooth_inFolder _
  note he := Task.smooth_emit (Event.isMilestone_of_isOfRecords he)

theorem smooth_pattern (q : Request) : ((pattern : Probe σ).discover q).Smooth :=
  (Task.smooth_ask _).bind fun _ => (Task.smooth_ask _).bind fun _ => .pure _

theorem smooth_pidfile (q : Request) : ((pidfile : Probe σ).discover q).Smooth :=
  smooth_coversRecords.pidfile q

end Probe

namespace Reclaimer

/-- All probes of a reclaimer are orderly: they look for processes and do nothing else that the
run takes notice of. -/
structure IsOrderly (r : Reclaimer σ) : Prop where
  probes : ∀ p ∈ r.probes, ∀ q, (p.discover q).Orderly
  sweeper : ∀ q, (r.sweeper.discover q).Orderly

theorem standard_isOrderly (pacing : ReclaimPacing) : (standard pacing : Reclaimer σ).IsOrderly where
  probes p hp q := by
    simp only [standard, List.mem_cons, List.not_mem_nil, or_false] at hp
    rcases hp with rfl | rfl | rfl | rfl
    · exact Probe.orderly_coversTools.lsof _ q
    · exact Probe.orderly_coversTools.netstat _ q
    · exact (Probe.smooth_pattern q).orderly
    · exact (Probe.smooth_pidfile q).orderly
  sweeper q := (Probe.smooth_pattern q).orderly

theorem orderly_covers : Covers fun α (t : Task σ α) => t.Orderly where
  toIsClosed := Task.Orderly.isClosed
  isProtected pid := (Task.smooth_isProtected pid).orderly
  forceKill pid := (Task.smooth_forceKill pid).orderly
  sleep d := Task.orderly_sleep d
  note he := (Task.smooth_emit (Event.isMilestone_of_isOfKilling he)).orderly

variable {r : Reclaimer σ}

theorem IsOrderly.reclaim (hr : r.IsOrderly) (ports : List Port) (patterns : List Pattern) :
    (r.reclaim ports patterns).Orderly :=
  orderly_covers.reclaim fun p hp => hr.probes p hp _

theorem IsOrderly.escalate (hr : r.IsOrderly) (ports : List Port) (patterns : List Pattern) :
    (r.escalate ports patterns).Orderly :=
  orderly_covers.escalate (Task.smooth_emit rfl).orderly (fun p hp => hr.probes p hp _)
    (hr.sweeper _)

theorem orderly_coversPorts : CoversPorts fun α (t : Task σ α) => t.Orderly where
  toCoversTools := Probe.orderly_coversTools
  bindable _ := (Task.smooth_ask _).orderly
  notePort he := (Task.smooth_emit (Event.isMilestone_of_isOfPorts he)).orderly

end Reclaimer

/-! ### Before the first launch, and the client -/

theorem Preconditions.smooth_version? (program : String) (args : List String) :
    (version? program args : Task σ _).Smooth := by
  refine (Task.smooth_perform (.capture ⟨program, args⟩ none) rfl fun _ => rfl).bind fun r => ?_
  split <;> exact .pure _

theorem Preconditions.smooth_check (c : Config) : (check c : Task σ _).Smooth := by
  refine (Task.smooth_ask _).bind fun _ => .ite (.pure _) ?_
  refine (smooth_version? _ _).bind fun v => ?_
  match v with
  | some _ | none => exact .pure _

theorem Client.orderly_stream (pid : Pid) (fuel : Nat) (r : LineReader) :
    (stream pid fuel r : Task σ Unit).Orderly := by
  induction fuel generalizing r with
  | zero => exact .throw nofun
  | succ fuel ih =>
    refine ((Reading.orderly_covers pid).lineUntilClosed r).bind fun (r, bytes) => ?_
    match bytes with
    | none => exact .pure _
    | some _ => exact (Task.smooth_print _).orderly.bind fun _ => ih r

end LatencyHarness
