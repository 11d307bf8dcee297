import LatencyHarness.Supervisor

/-! Kinds of programs that are put together from programs of the same kind.

Many properties of a program hold of all values and, with two programs, of the one that runs them
one after the other: that it leaves something alone, that it ends, that nothing but certain steps is
done. What is said here of the loops of a run holds for every such property. A wait, a probe, a pass
over the probes and the end of a service are of a kind as soon as the steps that they are made of
are. -/
namespace LatencyHarness

/-- A kind of programs to which all values belong, and with two programs the one that runs them one
after the other. -/
structure IsClosed {m : Type → Type} [Monad m] (C : (α : Type) → m α → Prop) : Prop where
  pure {α : Type} (a : α) : C α (Pure.pure a)
  bind {α β : Type} {t : m α} {f : α → m β} (ht : C α t) (hf : ∀ a, C β (f a)) : C β (t >>= f)

namespace IsClosed

variable {m : Type → Type} [Monad m] {C : (α : Type) → m α → Prop} {α β γ : Type}

theorem mapM [LawfulMonad m] (hC : IsClosed C) {g : γ → m α} (hg : ∀ c, C α (g c)) (l : List γ) :
    C (List α) (l.mapM g) := by
  induction l with
  | nil => exact hC.pure []
  | cons c l ih =>
    rw [List.mapM_cons]
    exact hC.bind (hg c) fun _ => hC.bind ih fun _ => hC.pure _

theorem filterMapM [LawfulMonad m] (hC : IsClosed C) {g : γ → m (Option α)}
    (hg : ∀ c, C (Option α) (g c)) (l : List γ) : C (List α) (l.filterMapM g) := by
  induction l with
  | nil => exact hC.pure []
  | cons c l ih =>
    rw [List.filterMapM_cons]
    refine hC.bind (hg c) fun o => ?_
    cases o with
    | none => exact ih
    | some b => exact hC.bind ih fun _ => hC.pure _

theorem forIn (hC : IsClosed C) {g : γ → β → m (ForInStep β)}
    (hg : ∀ c b, C (ForInStep β) (g c b)) (l : List γ) (b : β) : C β (forIn l b g) := by
  -- what the loop carries differs from round to round
  induction l generalizing b with
  | nil => exact hC.pure b
  | cons c l ih =>
    rw [List.forIn_cons]
    refine hC.bind (hg c b) fun r => ?_
    cases r with
    | done b' => exact hC.pure b'
    | yield b' => exact ih b'

end IsClosed

/-- What is noted while targets are killed. -/
def Event.isOfKilling : Event → Bool
  | killed _ _ | alreadyGone _ | killFailed _ | probeUnavailable _ | settling _ => true
  | _ => false

/-- What is noted of the pidfiles while they are looked through. -/
def Event.isOfRecords : Event → Bool
  | recordStale _ | recordRecycled _ | recordRemains _ => true
  | _ => false

/-- What is noted of the ports while it is told whether they are free. -/
def Event.isOfPorts : Event → Bool
  | portHeld _ | tryingBind _ | ownerUnknown _ => true
  | _ => false

/-- What is noted of a process while it is ended. -/
def Event.isOfEnding : Event → Bool
  | graceElapsed _ | foundEnded _ | groupUnreachable | signalFailed _ | stopFailed _ => true
  | _ => false

/-- What is noted of the services in a teardown. -/
def Event.isOfTeardown : Event → Bool
  | stopped _ _ | survived _ | reaped _ _ => true
  | _ => false

variable {σ : Type} [Host σ]

/-! ### Reading, and the wait for a marker -/

/-- A kind of tasks to which all belong that waiting for the output of a child is made of. -/
structure Reading.Covers (pid : Pid) (C : (α : Type) → Task σ α → Prop) : Prop
    extends IsClosed C where
  now : C Instant (Task.ask Host.now)
  patience : C Nat (Task.ask Host.patience)
  look (r : LineReader) : C _ (Task.lookOnce pid r)
  await (limit : Option Instant) : C Unit (Task.await (.output pid) limit)
  exhausted {α : Type} : C α (throw .exhausted)

namespace Reading.Covers

variable {pid : Pid} {C : (α : Type) → Task σ α → Prop} (hC : Covers pid C)

include hC

theorem eventWithin (limit : Option Instant) (fuel : Nat) (r : LineReader) :
    C _ (eventWithin pid limit fuel r) := by
  -- the reader that goes into the next turn may hold more of a line
  induction fuel generalizing r with
  | zero => exact hC.exhausted
  | succ fuel ih =>
    unfold Reading.eventWithin
    split
    · exact hC.pure _
    · refine hC.bind (hC.look r) fun (r, e) => ?_
      dsimp only
      split
      · exact hC.pure _
      · refine hC.bind hC.now fun now => ?_
        split
        · exact hC.pure _
        · exact hC.bind (hC.await limit) fun _ => ih r

theorem event (limit : Option Instant) (r : LineReader) : C _ (event pid limit r) :=
  hC.bind hC.patience fun fuel => hC.eventWithin limit fuel r.renew

theorem line (wait : Millis) (r : LineReader) : C _ (line pid wait r) := by
  unfold Reading.line
  split
  · exact hC.pure _
  · refine hC.bind hC.now fun now => hC.bind (hC.event _ r) fun (r, e) => ?_
    match e with
    | some (.line _) | some .streamClosed | some .allClosed | none => exact hC.pure _

theorem lineWithin (fuel : Nat) (r : LineReader) : C _ (lineWithin pid fuel r) := by
  -- a stream that closes takes one from the fuel, and the other one is read on
  induction fuel generalizing r with
  | zero => exact hC.exhausted
  | succ fuel ih =>
    refine hC.bind (hC.event none r) fun (r, e) => ?_
    match e with
    | some (.line _) | some .allClosed => exact hC.pure _
    | some .streamClosed | none => exact ih r

theorem lineUntilClosed (r : LineReader) : C _ (lineUntilClosed pid r) :=
  hC.bind hC.patience fun fuel => hC.lineWithin fuel r

end Reading.Covers

/-- A kind of tasks to which all belong that echoing a line is made of. -/
structure Watch.CoversEcho (C : (α : Type) → Task σ α → Prop) : Prop extends IsClosed C where
  print (text : String) : C Unit (Task.print text)
  undecodable : C Unit (Task.emit .undecodableLine)

theorem Watch.CoversEcho.echo {C : (α : Type) → Task σ α → Prop} (hC : CoversEcho C) (w : Watch)
    (o : Observation) : C Unit (w.echo o) := by
  match o with
  | .late | .dead _ | .read none => exact hC.pure _
  | .read (some bytes) =>
    cases hdecode : Text.Utf8.decode bytes with
    | ok line =>
      simp only [Watch.echo, hdecode]
      exact hC.print _
    | error _ =>
      simp only [Watch.echo, hdecode]
      exact hC.undecodable

/-- A kind of tasks to which all belong that the rounds of a wait for a marker are made of. -/
structure Watch.Covers (pid : Pid) (C : (α : Type) → Task σ α → Prop) : Prop
    extends Reading.Covers pid C, CoversEcho C where
  exitStatus? : C _ (Task.ask (Host.exitStatus? pid))
  statusUnknown : C Unit (Task.emit .statusUnknown)
  sleep (d : Millis) : C Unit (Task.sleep d)

namespace Watch.Covers

variable {pid : Pid} {C : (α : Type) → Task σ α → Prop} (hC : Covers pid C)

include hC

theorem readLine (wait : Millis) (r : LineReader) : C _ (readLine pid wait r) :=
  hC.bind (hC.line wait r) fun _ => hC.pure _

theorem observe (deadline : Instant) (r : LineReader) : C _ (observe pid deadline r) := by
  refine hC.bind hC.now fun now => ?_
  split
  · exact hC.pure _
  · refine hC.bind hC.exitStatus? fun answer => ?_
    match answer with
    | .ok (some _) => exact hC.pure _
    | .ok none => exact hC.readLine _ r
    | .error _ =>
      -- a host that does not answer is complained about, and the output is read all the same
      exact hC.bind hC.statusUnknown fun _ => hC.readLine _ r

theorem rounds (w : Watch) (deadline : Instant) (fuel : Nat) (r : LineReader) :
    C _ (w.rounds pid deadline fuel r) := by
  -- the reader differs from round to round, so the induction is for all of them
  induction fuel generalizing r with
  | zero => exact hC.exhausted
  | succ fuel ih =>
    refine hC.bind (hC.observe deadline r) fun (r, o) => hC.bind (hC.echo w o) fun _ => ?_
    cases o.verdict w.marker.toList with
    | some outcome => exact hC.pure _
    | none =>
      dsimp only
      split
      · exact hC.bind hC.now fun _ => hC.bind (hC.sleep _) fun _ => ih r
      · exact ih r

theorem run (w : Watch) (hdeadline : C _ w.deadline) (r : LineReader) : C _ (w.run pid r) :=
  hC.bind hdeadline fun d => hC.bind hC.patience fun fuel => hC.rounds w d fuel r

end Watch.Covers

/-! ### Ending processes -/

namespace Task

/-- A kind of tasks to which all belong that signalling a child and its group is made of. -/
structure CoversSignals (C : (α : Type) → Task σ α → Prop) : Prop extends IsClosed C where
  ownGroup : C Pid (ask Host.ownGroup)
  send (signal : Signal) (recipient : Recipient) : C _ (send signal recipient)
  note {e : Event} (he : e.isOfEnding = true) : C Unit (emit e)

namespace CoversSignals

variable {C : (α : Type) → Task σ α → Prop} (hC : CoversSignals C) (pid : Pid) (signal : Signal)

include hC

theorem signalProcess : C Unit (signalProcess pid signal) := by
  refine hC.bind (hC.send signal (.process pid)) fun r => ?_
  split
  · exact hC.pure _
  · exact hC.pure _
  · exact hC.note rfl

theorem signalTree : C Unit (signalTree pid signal) := by
  unfold Task.signalTree
  split
  · exact hC.bind (hC.note rfl) fun _ => hC.pure _
  refine hC.bind hC.ownGroup fun _ => ?_
  split
  · refine hC.bind (hC.send signal (.group pid)) fun r => ?_
    cases r with
    | ok _ => exact hC.pure _
    | error _ =>
      -- a group that cannot be reached leaves the process itself
      exact hC.bind (hC.note rfl) fun _ => hC.signalProcess pid signal
  · exact hC.signalProcess pid signal

end CoversSignals

/-- A kind of tasks to which all belong that ending a child is made of. -/
structure CoversEnding (pid : Pid) (C : (α : Type) → Task σ α → Prop) : Prop
    extends CoversSignals C where
  exitStatus? : C _ (ask (Host.exitStatus? pid))
  now : C Instant (ask Host.now)
  await (limit : Option Instant) : C Unit (await (.exit pid) limit)

namespace CoversEnding

variable {pid : Pid} {C : (α : Type) → Task σ α → Prop} (hC : CoversEnding pid C)

include hC

theorem waitExit (limit : Option Millis) : C _ (waitExit pid limit) := by
  refine hC.bind hC.exitStatus? fun status => ?_
  match status with
  | .ok none =>
    exact hC.bind hC.now fun _ => hC.bind (hC.await _) fun _ => hC.exitStatus?
  | .ok (some _) | .error _ => exact hC.pure _

theorem endByForce (limit : Millis) : C _ (endByForce pid limit) :=
  hC.bind (hC.note rfl) fun _ => hC.bind (hC.signalTree pid .kill) fun _ =>
    hC.bind (hC.send .kill (.process pid)) fun _ => hC.waitExit (some limit)

theorem shutdown (timeouts : StopTimeouts) : C _ (shutdown pid timeouts) := by
  refine hC.bind hC.exitStatus? fun status => ?_
  match status with
  | .error _ => exact hC.pure _
  | .ok (some _) => exact hC.bind (hC.note rfl) fun _ => hC.pure _
  | .ok none =>
    refine hC.bind (hC.signalTree pid .term) fun _ => hC.bind (hC.waitExit _) fun r => ?_
    match r with
    | .ok (some _) | .error _ => exact hC.pure _
    | .ok none => exact hC.endByForce timeouts.forceful

omit hC in
theorem endStatus {t : Tracked} (hC : CoversEnding t.pid C) (sv : Supervision σ) (role : Role) :
    C _ (Supervising.endStatus sv role t) := by
  unfold Supervising.endStatus
  cases t.exited with
  | some status => exact hC.bind (hC.note rfl) fun _ => hC.pure _
  | none =>
    refine hC.bind (hC.shutdown sv.teardown) fun r => ?_
    cases r with
    | ok _ => exact hC.pure _
    | error _ => exact hC.bind (hC.note rfl) fun _ => hC.pure _

end CoversEnding

end Task

/-! ### Probes -/

namespace Probe

/-- A kind of tasks to which all belong that the questions to a tool are made of. -/
structure CoversTools (C : (α : Type) → Task σ α → Prop) : Prop extends IsClosed C where
  capture (launch : Launch) : C _ (Task.capture launch toolLimit)
  note (tool : String) (port : Port) (pid : Pid) : C Unit (Task.emit (.listenerFound tool port pid))

namespace CoversTools

variable {C : (α : Type) → Task σ α → Prop} (hC : CoversTools C)

include hC

theorem runTool (program : String) (args : List String) : C _ (runTool program args) := by
  refine hC.bind (hC.capture ⟨program, args⟩) fun captured => ?_
  cases captured with
  | some _ => exact hC.pure _
  | none => exact hC.pure _

theorem portOwners (program : String) (port : Port) : C _ (portOwners program port) :=
  hC.bind (hC.runTool _ _) fun _ => hC.pure _

theorem report (tool : String) (port : Port) (owners : List Pid) :
    C _ (report tool port owners) :=
  hC.mapM (fun pid => hC.bind (hC.note tool port pid) fun _ => hC.pure _) owners

theorem lsof (program : String) (q : Request) : C _ ((lsof program).discover q) := by
  change C _ (lsofTargets program q.ports)
  -- the first port that cannot be asked about ends the probe
  induction q.ports with
  | nil => exact hC.pure _
  | cons port ports ih =>
    refine hC.bind (hC.portOwners program port) fun answer => ?_
    cases answer with
    | error _ => exact hC.pure _
    | ok owners =>
      exact hC.bind (hC.report _ _ owners) fun _ => hC.bind ih fun _ => hC.pure _

theorem netstat (program : String) (q : Request) : C _ ((netstat program).discover q) := by
  refine hC.bind (hC.runTool _ _) fun answer => ?_
  cases answer with
  | error _ => exact hC.pure _
  | ok _ => exact hC.bind (hC.mapM (fun _ => hC.report _ _ _) q.ports) fun _ => hC.pure _

end CoversTools

/-- A kind of tasks to which all belong that the probe for pidfiles is made of. -/
structure CoversRecords (C : (α : Type) → Task σ α → Prop) : Prop extends IsClosed C where
  ask {α : Type} (g : σ → α) : C α (Task.ask g)
  list : C _ (Task.inFolder Pidfile.list)
  delete (role : Role) : C _ (Task.inFolder (Pidfile.delete role))
  note {e : Event} (he : e.isOfRecords = true) : C Unit (Task.emit e)

namespace CoversRecords

variable {C : (α : Type) → Task σ α → Prop} (hC : CoversRecords C)

include hC

theorem dropRecord (role : Role) : C Unit (dropRecord role) := by
  refine hC.bind (hC.delete role) fun result => ?_
  cases result with
  | ok _ => exact hC.pure _
  | error _ => exact hC.note rfl

theorem recordTarget? (patterns : List Pattern) (role : Role) (r : PidRecord) :
    C (Option Target) (recordTarget? patterns role r) := by
  have halive : C Bool (isAlive r.pid) := by
    unfold isAlive
    split
    · exact hC.pure _
    · exact hC.ask _
  have hours : C Bool (isOurs r.pid r.command patterns) :=
    hC.bind (hC.bind (hC.ask _) fun _ => hC.pure _) fun _ => hC.pure _
  have hdrop {e : Event} (he : e.isOfRecords = true) : C (Option Target) (do
      Task.emit e
      Probe.dropRecord role
      return none) :=
    hC.bind (hC.note he) fun _ => hC.bind (hC.dropRecord role) fun _ => hC.pure _
  -- a record is dropped if its process is gone, and also if it is not one of ours
  refine hC.bind halive fun _ => ?_
  split
  · exact hdrop rfl
  · refine hC.bind hours fun _ => ?_
    split
    · exact hdrop rfl
    · exact hC.pure _

theorem pidfile (q : Request) : C _ (pidfile.discover q) := by
  refine hC.bind hC.list fun result => ?_
  cases result with
  | error _ => exact hC.pure _
  | ok records =>
    exact hC.bind (hC.filterMapM (fun _ => hC.recordTarget? _ _ _) records) fun _ => hC.pure _

end CoversRecords

end Probe

/-! ### Reclamation -/

namespace Reclaimer

/-- A kind of tasks to which all belong that a pass over the probes is made of, but for the probes
themselves. -/
structure Covers (C : (α : Type) → Task σ α → Prop) : Prop extends IsClosed C where
  isProtected (pid : Pid) : C Bool (Task.isProtected pid)
  forceKill (pid : Pid) : C _ (Task.forceKill pid)
  sleep (d : Millis) : C Unit (Task.sleep d)
  note {e : Event} (he : e.isOfKilling = true) : C Unit (Task.emit e)

namespace Covers

variable {C : (α : Type) → Task σ α → Prop} (hC : Covers C)

include hC

theorem killTargets (pause : Millis) (probe : String) (seen : List Pid) (ts : List Target) :
    C ReclaimReport (killTargets pause probe seen ts) := by
  -- what has been seen grows with each target
  induction ts generalizing seen with
  | nil => exact hC.pure _
  | cons t ts ih =>
    refine hC.bind (hC.isProtected t.pid) fun _ => ?_
    split
    · exact ih _
    · refine hC.bind (hC.forceKill t.pid) fun r => ?_
      cases r with
      | error e => exact hC.bind (hC.note rfl) fun _ => ih _
      | ok delivered =>
        cases delivered with
        | false => exact hC.bind (hC.note rfl) fun _ => ih _
        | true =>
          refine hC.bind (hC.note rfl) fun _ => hC.bind (hC.sleep pause) fun _ => ?_
          exact hC.bind (ih _) fun _ => hC.pure _

theorem runProbe (pacing : ReclaimPacing) {p : Probe σ} {q : Request} (hp : C _ (p.discover q)) :
    C ReclaimReport (runProbe pacing p q) := by
  refine hC.bind hp fun found => ?_
  cases found with
  | ok targets => exact hC.killTargets _ _ _ targets
  | error e => exact hC.bind (hC.note rfl) fun _ => hC.pure _

theorem runProbes (pacing : ReclaimPacing) (q : Request) {ps : List (Probe σ)}
    (hps : ∀ p ∈ ps, C _ (p.discover q)) : C ReclaimReport (runProbes pacing q ps) := by
  induction ps with
  | nil => exact hC.pure _
  | cons p ps ih =>
    have hprobe := hC.runProbe pacing (hps p List.mem_cons_self)
    have hrest := ih fun p' hp' => hps p' (List.mem_cons_of_mem p hp')
    exact hC.bind hprobe fun _ => hC.bind hrest fun _ => hC.pure _

theorem reclaim {r : Reclaimer σ} {ports : List Port} {patterns : List Pattern}
    (hps : ∀ p ∈ r.probes, C _ (p.discover ⟨ports, patterns⟩)) :
    C ReclaimReport (r.reclaim ports patterns) := by
  refine hC.bind (hC.runProbes r.pacing _ hps) fun report => ?_
  -- sockets are given time to settle if anything has been killed
  split
  · exact hC.bind (hC.note rfl) fun _ => hC.bind (hC.sleep _) fun _ => hC.pure _
  · exact hC.pure _

theorem escalate {r : Reclaimer σ} {ports : List Port} {patterns : List Pattern}
    (hnote : C Unit (Task.emit (.escalating ports)))
    (hps : ∀ p ∈ r.probes, C _ (p.discover ⟨ports, patterns⟩))
    (hsweeper : C _ (r.sweeper.discover ⟨[], patterns⟩)) :
    C ReclaimReport (r.escalate ports patterns) :=
  hC.bind hnote fun _ => hC.bind (hC.runProbe _ hsweeper) fun _ => hC.bind (hC.sleep _) fun _ =>
    hC.bind (hC.reclaim hps) fun _ => hC.pure _

end Covers

/-- A kind of tasks to which all belong by which it is told whether ports are free. -/
structure CoversPorts (C : (α : Type) → Task σ α → Prop) : Prop extends Probe.CoversTools C where
  bindable (port : Port) : C Bool (Task.ask (Host.bindable port))
  notePort {e : Event} (he : e.isOfPorts = true) : C Unit (Task.emit e)

namespace CoversPorts

variable {C : (α : Type) → Task σ α → Prop} (hC : CoversPorts C) (r : Reclaimer σ)

include hC

theorem isFree (port : Port) : C Bool (r.isFree port) := by
  refine hC.bind (hC.portOwners _ port) fun owners => ?_
  match owners with
  | .ok [] => exact hC.pure _
  | .ok (_ :: _) => exact hC.bind (hC.notePort rfl) fun _ => hC.pure _
  | .error _ => exact hC.bind (hC.notePort rfl) fun _ => hC.bindable port

theorem areFree (ports : List Port) : C Bool (r.areFree ports) := by
  induction ports with
  | nil => exact hC.pure _
  | cons port ports ih =>
    refine hC.bind (hC.isFree r port) fun free => ?_
    split
    · exact ih
    · exact hC.pure _

theorem bindings (ports : List Port) : C (List PortBinding) (r.bindings ports) := by
  refine hC.mapM (fun port => hC.bind (hC.portOwners _ port) fun owners => ?_) ports
  cases owners with
  | ok _ => exact hC.pure _
  | error _ => exact hC.bind (hC.notePort rfl) fun _ => hC.pure _

end CoversPorts

end Reclaimer

/-! ### The services -/

namespace Supervising

/-- A kind of the supervisor's tasks to which all belong that are done to one service when it is
ended or found to have ended. -/
structure Covers (sv : Supervision σ) (C : (α : Type) → Supervising σ α → Prop) : Prop
    extends IsClosed C where
  get : C (Supervisor σ) MonadState.get
  endStatus (role : Role) (t : Tracked) : C _ (liftM (endStatus sv role t : Task σ _))
  exitStatus? (pid : Pid) : C _ (liftM (Task.ask (Host.exitStatus? pid) : Task σ _))
  forget (role : Role) (pid : Pid) : C Unit (forget role pid)
  note {e : Event} (he : e.isOfTeardown = true) : C Unit (liftM (Task.emit e : Task σ Unit))

namespace Covers

variable {sv : Supervision σ} {C : (α : Type) → Supervising σ α → Prop} (hC : Covers sv C)

include hC

theorem stop (role : Role) (t : Tracked) : C (Option WaitStatus) (stop sv role t) := by
  refine hC.bind (hC.endStatus role t) fun status => ?_
  cases status with
  | some _ =>
    exact hC.bind (hC.note rfl) fun _ => hC.bind (hC.forget role t.pid) fun _ => hC.pure _
  | none => exact hC.bind (hC.note rfl) fun _ => hC.pure _

theorem stopAll (roles : List Role) : C _ (stopAll sv roles) := by
  -- the roles are gone through in order
  induction roles with
  | nil => exact hC.pure _
  | cons role roles ih =>
    refine hC.bind hC.get fun v => ?_
    cases v.tracked role with
    | none => exact ih
    | some t =>
      refine hC.bind (hC.stop role t) fun status => hC.bind ih fun (stopped, lingering) => ?_
      cases status with
      | some _ => exact hC.pure _
      | none => exact hC.pure _

theorem forgetReaped (roles : List Role) : C Unit (forgetReaped roles) := by
  -- a service is forgotten if it has ended since its turn, and kept if not
  induction roles with
  | nil => exact hC.pure _
  | cons role roles ih =>
    refine hC.bind hC.get fun v => ?_
    cases v.tracked role with
    | none => exact ih
    | some t =>
      refine hC.bind (hC.exitStatus? t.pid) fun answer => ?_
      match answer with
      | .ok (some _) =>
        exact hC.bind (hC.note rfl) fun _ => hC.bind (hC.forget role t.pid) fun _ => ih
      | .ok none | .error _ => exact ih

end Covers

end Supervising

end LatencyHarness
