import LatencyHarness.Proofs.Books
import LatencyHarness.Proofs.Console
import LatencyHarness.Proofs.Halts
import LatencyHarness.Proofs.Lines
import LatencyHarness.Simulation.Debut

/-! The hand-over of a service's output when it has become ready.

Up to the line with the marker the lines are taken by the wait, in attempts that give up after a
while; from there on they are taken by a forwarder, which gets the reader as the wait has left it.
So what the two take together are the lines of the service, those also of which a part had come when
the marker was found. -/
namespace LatencyHarness

open Text (splitLines trimEnd)
open Text.Utf8 (Bytes decode decodeLossy)

variable {σ : Type} [Host σ]

/-! ### The lines that a wait takes -/

/-- A line that can be read and holds the marker. -/
def HoldsMarker (marker : String) (line : Bytes) : Prop :=
  ∃ text, decode line = .ok text ∧ marker.toList <:+: text

/-- The last of some lines holds the marker, and no other does. -/
def EndsAtMarker (marker : String) (lines : List Bytes) : Prop :=
  ∃ front last, lines = front ++ [last] ∧ HoldsMarker marker last ∧
    ∀ line ∈ front, ¬ HoldsMarker marker line

namespace Observation

/-- The line that has been read, if one has been read. -/
def line? : Observation → Option Bytes
  | read bytes => bytes
  | late | dead _ => none

variable {marker : String} {o : Observation}

theorem verdict_of_line (marker : String) (bytes : Bytes) :
    ((read (some bytes)).verdict marker.toList = some .ready ∧ HoldsMarker marker bytes) ∨
      ((read (some bytes)).verdict marker.toList = none ∧ ¬ HoldsMarker marker bytes) := by
  cases hdecode : decode bytes with
  | error _ => exact .inr (by simp [verdict, HoldsMarker, hdecode])
  | ok text =>
    by_cases hmarker : marker.toList <:+: text
    · exact .inl (by simp [verdict, HoldsMarker, hdecode, Text.occursIn_iff, hmarker])
    · exact .inr (by simp [verdict, HoldsMarker, hdecode, Text.occursIn_iff, hmarker])

theorem exists_line_of_ready (h : o.verdict marker.toList = some .ready) :
    ∃ bytes, o.line? = some bytes ∧ HoldsMarker marker bytes := by
  match o, h with
  | read (some bytes), h =>
    refine ⟨bytes, rfl, ?_⟩
    rcases verdict_of_line marker bytes with ⟨-, hholds⟩ | ⟨hnone, -⟩
    · exact hholds
    · exact absurd (hnone.symm.trans h) nofun

theorem not_holds_of_undecided (h : o.verdict marker.toList = none) :
    ∀ bytes ∈ o.line?.toList, ¬ HoldsMarker marker bytes := by
  match o, h with
  | read none, _ => simp [line?]
  | read (some bytes), h =>
    rcases verdict_of_line marker bytes with ⟨hready, -⟩ | ⟨-, hnot⟩
    · exact absurd (hready.symm.trans h) nofun
    · simpa [line?] using hnot

end Observation

namespace Watch

/-- The lines as a wait echoes them: those that can be read, without blanks at their ends. -/
def echoed (label : String) (lines : List Bytes) : List String :=
  lines.filterMap fun bytes =>
    match decode bytes with
    | .ok text => some (Task.echoText label (trimEnd text))
    | .error _ => none

variable {unread : Stream → σ → Bytes} {pid : Pid} {label : String} {r r' r'' : LineReader}
  {s s' s'' : Session σ} {lines lines' : List Bytes}

/-- A wait has taken some lines of a child and echoed them. -/
structure Consumes (unread : Stream → σ → Bytes) (pid : Pid) (label : String) (r : LineReader)
    (s : Session σ) (lines : List Bytes) (r' : LineReader) (s' : Session σ) : Prop where
  yields : Reading.Yields unread pid r s lines r' s'
  others : s'.Others pid label
  under : s'.journal.under label = s.journal.under label ++ echoed label lines

omit [Host σ] in
theorem Consumes.trans (h : Consumes unread pid label r s lines r' s')
    (h' : Consumes unread pid label r' s' lines' r'' s'') :
    Consumes unread pid label r s (lines ++ lines') r'' s'' where
  yields := h.yields.trans h'.yields
  others := h'.others
  under := by
    unfold echoed
    rw [h'.under, h.under, List.append_assoc, List.filterMap_append]
    rfl

omit [Host σ] in
/-- Nothing has been printed meanwhile, and nothing is to be echoed. -/
theorem Consumes.of_hushed (h : Reading.Yields unread pid r s [] r' s')
    (hs : s.Hushed pid label s') : Consumes unread pid label r s [] r' s' :=
  ⟨h, hs.others, hs.under.trans (List.append_nil _).symm⟩

theorem observe_reads (hd : Host.Delivers pid unread) (deadline : Instant)
    (hr : r.Agrees unread s.host) (hs : s.Others pid label) :
    Ends (observe pid deadline r : Task σ _) s
      (fun x s' => Reading.Yields unread pid r s x.2.line?.toList x.1 s' ∧ s.Hushed pid label s')
      fun _ _ => True := by
  have hhere : Reading.Yields unread pid r s [] r s := .of_reaches hd hr hs.leaves (.refl s)
  have hread (wait : Millis) {t : Session σ} (ht : s.Reaches (Action.leavesOutput pid) t)
      (hhushed : s.Hushed pid label t) :
      Ends (readLine pid wait r : Task σ _) t
        (fun x s' => Reading.Yields unread pid r s x.2.line?.toList x.1 s' ∧
          s.Hushed pid label s') fun _ _ => True := by
    have hreached : Reading.Yields unread pid r s [] r t := .of_reaches hd hr hs.leaves ht
    have hline := (Reading.line_yields hd wait hreached.agrees hreached.leaves).and
      ((Reading.hushes_covers pid label).line wait r t hhushed.others)
    refine (hline.mono (fun _ _ h => h) fun _ _ _ => trivial).bind ?_
    rintro ⟨r₁, bytes⟩ s' ⟨hyields, hquiet⟩
    exact ⟨hreached.trans hyields, hhushed.trans hquiet⟩
  refine Task.ends_ask_bind ?_
  split
  · exact ⟨hhere, hs, rfl⟩
  · refine Task.ends_ask_bind ?_
    split
    · exact ⟨hhere, hs, rfl⟩
    · exact hread _ (.refl s) ⟨hs, rfl⟩
    · -- a host that does not answer is complained about in the log
      refine Task.ends_emit_bind (hread _ (.step s (a := .note .statusUnknown) trivial) ⟨hs, ?_⟩)
      exact Journal.under_cons_of_not nofun

theorem echo_shows (w : Watch) (pid : Pid) (o : Observation) (s : Session σ) :
    Ends (w.echo o : Task σ Unit) s
      (fun _ s' => s.Reaches (Action.leavesOutput pid) s' ∧ s'.forwarders = s.forwarders ∧
        s'.journal.under w.label = s.journal.under w.label ++ echoed w.label o.line?.toList)
      fun _ _ => False := by
  have hnothing : s.journal.under w.label = s.journal.under w.label ++ echoed w.label [] :=
    (List.append_nil _).symm
  match o with
  | .late | .dead _ | .read none => exact ⟨.refl s, rfl, hnothing⟩
  | .read (some bytes) =>
    cases hdecode : decode bytes with
    | ok text =>
      have hechoed : echoed w.label [bytes] = [Task.echoText w.label (trimEnd text)] := by
        simp [echoed, hdecode]
      simp only [echo, hdecode]
      refine ⟨.step s (a := .note (.line _)) trivial, rfl, ?_⟩
      exact hechoed ▸ Journal.under_cons_of_under (isUnder_echoText w.label _)
    | error _ =>
      have hechoed : echoed w.label [bytes] = [] := by
        simp [echoed, hdecode]
      have hmute : Journal.under w.label (.undecodableLine :: s.journal) =
          s.journal.under w.label := by
        refine Journal.under_cons_of_not fun line hline => ?_
        cases hline
      simp only [echo, hdecode]
      refine ⟨.step s (a := .note .undecodableLine) trivial, rfl, ?_⟩
      exact hechoed ▸ hmute.trans hnothing

theorem sleep_consumes (hd : Host.Delivers pid unread) (d : Millis) (hr : r.Agrees unread s.host)
    (hs : s.Others pid label) :
    Ends (Task.sleep d : Task σ Unit) s (fun _ s' => Consumes unread pid label r s [] r s')
      fun _ _ => True := by
  have hleaves : Ends (Task.sleep d : Task σ Unit) s
      (fun _ s' => s.Reaches (Action.leavesOutput pid) s') fun _ _ => True :=
    Task.ends_ask_bind (Task.await_leaves hs.leaves _ _).forget
  refine (hleaves.and (Task.hushes_sleep d s hs)).weaken ?_
  rintro _ s' ⟨hreach, hhushed⟩
  exact .of_hushed (.of_reaches hd hr hs.leaves hreach) hhushed

/-- Whatever its outcome, a wait takes the first lines ahead on each stream; and it ends as ready
with the first line that holds the marker. -/
theorem rounds_consumes (w : Watch) (hd : Host.Delivers pid unread) (deadline : Instant)
    (fuel : Nat) (hr : r.Agrees unread s.host) (hs : s.Others pid w.label) :
    Ends (w.rounds pid deadline fuel r : Task σ _) s
      (fun x s' => ∃ lines, Consumes unread pid w.label r s lines x.1 s' ∧
        (x.2 = .ready → EndsAtMarker w.marker lines)) fun _ _ => True := by
  -- the next round begins with the reader that this one leaves
  induction fuel generalizing r s with
  | zero => trivial
  | succ fuel ih =>
    refine (observe_reads hd deadline hr hs).bind ?_
    rintro ⟨r₁, o⟩ s₁ ⟨hyields, hhushed⟩
    refine (w.echo_shows pid o s₁).of_total.bind ?_
    rintro _ s₂ ⟨hreach, hforwarders, hunder⟩
    have hround : Consumes unread pid w.label r s o.line?.toList r₁ s₂ := by
      have hechoed := hyields.trans (.of_reaches hd hyields.agrees hyields.leaves hreach)
      rw [List.append_nil] at hechoed
      refine ⟨hechoed, fun f hf => hhushed.others f ?_, hunder.trans ?_⟩
      · rwa [← hforwarders]
      · rw [hhushed.under]
    cases hverdict : o.verdict w.marker.toList with
    | some outcome =>
      refine ⟨_, hround, fun hready => ?_⟩
      obtain rfl : outcome = .ready := hready
      obtain ⟨last, hlast, hholds⟩ := Observation.exists_line_of_ready hverdict
      exact ⟨[], last, by rw [hlast]; rfl, hholds, nofun⟩
    | none =>
      have hbefore := Observation.not_holds_of_undecided hverdict
      have hrest {s₃ : Session σ} (h₃ : Consumes unread pid w.label r₁ s₂ [] r₁ s₃) :
          Ends (w.rounds pid deadline fuel r₁ : Task σ _) s₃
            (fun x s' => ∃ lines, Consumes unread pid w.label r s lines x.1 s' ∧
              (x.2 = .ready → EndsAtMarker w.marker lines)) fun _ _ => True := by
        refine (ih h₃.yields.agrees h₃.others).weaken ?_
        rintro x s' ⟨lines, hlines, hends⟩
        refine ⟨_, (hround.trans h₃).trans hlines, fun hready => ?_⟩
        obtain ⟨front, last, rfl, hholds, hfront⟩ := hends hready
        refine ⟨o.line?.toList ++ front, last, ?_, hholds, fun line hline => ?_⟩
        · rw [List.append_nil, List.append_assoc]
        · rcases List.mem_append.mp hline with hline | hline
          · exact hbefore line hline
          · exact hfront line hline
      dsimp only
      split
      · refine Task.ends_ask_bind ?_
        refine (sleep_consumes hd _ hround.yields.agrees hround.others).bind fun _ s₃ h₃ => ?_
        exact hrest h₃
      · have hhere : Reading.Yields unread pid r₁ s₂ [] r₁ s₂ :=
          .of_reaches hd hround.yields.agrees hround.yields.leaves (.refl s₂)
        exact hrest (.of_hushed hhere ⟨hround.others, rfl⟩)

theorem run_consumes (w : Watch) (hd : Host.Delivers pid unread) (hr : r.Agrees unread s.host)
    (hs : s.Others pid w.label) :
    Ends (w.run pid r : Task σ _) s
      (fun x s' => ∃ lines, Consumes unread pid w.label r s lines x.1 s' ∧
        (x.2 = .ready → EndsAtMarker w.marker lines)) fun _ _ => True := by
  have hdeadline : Ends (w.deadline : Task σ _) s (fun _ s' => s' = s) fun _ _ => True :=
    (w.deadline_ends s).weaken fun _ _ h => h.1
  refine hdeadline.bind fun d s' hs' => ?_
  subst hs'
  exact Task.ends_ask_bind (w.rounds_consumes hd d _ hr hs)

end Watch

/-! ### While a child is echoed in the background -/

namespace Session

variable {pid : Pid} {label : String} {s s' : Session σ}

/-- An action that leaves the echoing of a child alone: it does not look at the child's output, it
lets the child's forwarder be, and it prints nothing under the label. -/
def SparesEcho (s : Session σ) (pid : Pid) (label : String) : Action → Prop
  | .note e => ∀ line, e.console? = some line → ¬ IsUnder label line
  | .look p _ => p ≠ pid
  | .forwarders fs => fs.filter (·.pid = pid) = s.forwarders.filter (·.pid = pid) ∧
      ∀ g ∈ fs, g.pid ≠ pid → Apart g.label label
  | _ => True

/-- One thing that happens while a child is echoed in the background: the forwarders have a turn, or
something is done that leaves the echoing of the child alone. -/
inductive GoesOn (pid : Pid) (label : String) : Session σ → Session σ → Prop where
  | turn {s s' : Session σ} (h : Task.forwardAll s = .ok () s') : GoesOn pid label s s'
  | action {s : Session σ} (a : Action) (h : s.SparesEcho pid label a) :
    GoesOn pid label s (a.apply s)

/-- Any number of such things, one after the other. -/
abbrev Continues (pid : Pid) (label : String) : Session σ → Session σ → Prop :=
  Relation.ReflTransGen (GoesOn pid label)

/-- Since the reader was handed over, some lines have been taken by the forwarder and echoed. -/
structure HasEchoed (unread : Stream → σ → Bytes) (pid : Pid) (label : String) (r₀ : LineReader)
    (s₀ : Session σ) (f : Forwarder) (l : List (Stream × Bytes)) (s : Session σ) : Prop where
  forwarder : s.HasForwarder pid label f
  gives : r₀.Gives unread s₀.host l f.reader s.host
  under : s.journal.under label = s₀.journal.under label ++
    l.map fun x => Task.echoText label (decodeLossy x.2)

variable {unread : Stream → σ → Bytes} {r₀ : LineReader} {s₀ : Session σ} {f : Forwarder}
  {l : List (Stream × Bytes)}

theorem SparesEcho.unread_eq {a : Action} (h : s.SparesEcho pid label a)
    (hd : Host.Delivers pid unread) (stream : Stream) :
    unread stream (a.apply s).host = unread stream s.host := by
  have hrest := hd.rest a s.host
  rw [Action.apply_host]
  cases a with
  | look p t => exact hrest h stream
  | forwarders fs => rfl
  | _ => exact hrest trivial stream

theorem SparesEcho.under_eq {a : Action} (h : s.SparesEcho pid label a) :
    (a.apply s).journal.under label = s.journal.under label := by
  cases a with
  | note e => exact Journal.under_cons_of_not h
  | _ => rfl

theorem SparesEcho.forwarder {a : Action} (h : s.SparesEcho pid label a)
    (hs : s.HasForwarder pid label f) : (a.apply s).HasForwarder pid label f := by
  cases a with
  | forwarders fs => exact ⟨h.1.trans hs.own, hs.labelled, h.2⟩
  | _ => exact ⟨hs.own, hs.labelled, hs.others⟩

/-- Each turn echoes what it takes, and nothing else takes or prints anything. -/
theorem HasEchoed.goesOn (h : HasEchoed unread pid label r₀ s₀ f l s)
    (hd : Host.Delivers pid unread) (hstep : GoesOn pid label s s') :
    ∃ f' l', HasEchoed unread pid label r₀ s₀ f' l' s' := by
  cases hstep with
  | turn hrun =>
    have hturn := (Task.forwardAll_forwards h.forwarder hd h.gives.agrees).of_ok hrun
    obtain ⟨f', l', hforwarder, hgives, hunder⟩ := hturn
    refine ⟨f', l ++ l', hforwarder, h.gives.trans hgives, ?_⟩
    rw [hunder, h.under, List.append_assoc, List.map_append]
  | action a ha =>
    have hgives := h.gives.trans (.of_eq h.gives.agrees (ha.unread_eq hd))
    rw [List.append_nil] at hgives
    exact ⟨f, l, ha.forwarder h.forwarder, hgives, ha.under_eq.trans h.under⟩

theorem HasEchoed.continues (h : HasEchoed unread pid label r₀ s₀ f l s)
    (hd : Host.Delivers pid unread) (hcourse : Continues pid label s s') :
    ∃ f' l', HasEchoed unread pid label r₀ s₀ f' l' s' := by
  induction hcourse with
  | refl => exact ⟨f, l, h⟩
  | tail _ hstep ih =>
    obtain ⟨f₁, l₁, h₁⟩ := ih
    exact h₁.goesOn hd hstep

theorem Reaches.continues (h : s.Reaches (fun a => ∀ t : Session σ, t.SparesEcho pid label a) s') :
    Continues pid label s s' := by
  refine h.keeps (P := fun t => s.Continues pid label t) (fun t a ha ht => ?_) .refl
  exact ht.tail (.action a (ha t))

end Session

/-- Waiting is one way to go on. -/
theorem Task.await_continues (pid : Pid) (label : String) (w : Wait) (limit : Option Instant)
    (s : Session σ) :
    Ends (await w limit : Task σ Unit) s (fun _ s' => s.Continues pid label s')
      (fun _ s' => s.Continues pid label s') := by
  let s₁ := (Action.await w limit s.interruptible).apply s
  have hwaited : s.Continues pid label s₁ := .single (.action (.await w limit _) trivial)
  have hlisten : (listen : Task σ Unit).Within
      fun a => ∀ t : Session σ, t.SparesEcho pid label a := by
    refine within_listen (fun _ => trivial) (fun _ => trivial) (fun _ => nofun) ?_
    exact fun text htext _ => isMute_announcement htext
  change Ends (do listen; forwardAll; checkpoint : Task σ Unit) s₁ _ _
  refine ((hlisten s₁).mono (fun _ _ h => hwaited.trans h.continues)
    fun _ _ h => hwaited.trans h.continues).bind fun _ s₂ h₂ => ?_
  have hturn := (Ends.self (forwardAll : Task σ Unit) s₂).and (smooth_forwardAll s₂)
  refine (hturn.mono (fun _ _ h => h.1) fun _ _ h => h.2.elim).bind fun _ s₃ hrun => ?_
  have h₃ : s.Continues pid label s₃ := h₂.tail (.turn hrun)
  refine (within_checkpoint (A := fun _ => False) s₃).mono (fun _ s' h => ?_) fun _ s' h => ?_
  all_goals exact h₃.trans (h.mono fun _ ha => ha.elim).continues

theorem Task.sleep_continues (pid : Pid) (label : String) (d : Millis) (s : Session σ) :
    Ends (sleep d : Task σ Unit) s (fun _ s' => s.Continues pid label s')
      (fun _ s' => s.Continues pid label s') :=
  ends_ask_bind (await_continues pid label .nothing _ s)

/-! ### A start that goes well -/

omit [Host σ] in
/-- Nothing is ahead of a reader whose streams are both closed. -/
theorem LineReader.ahead_of_isClosed {unread : Stream → σ → Bytes} {r : LineReader} {h : σ}
    (hr : r.Agrees unread h) (hclosed : r.isClosed = true) (stream : Stream) :
    r.ahead unread h stream = [] := by
  have hshut : (r.channel stream).isOpen = false := by
    cases stream <;> simp_all [isClosed, channel]
  exact Channel.ahead_of_closed (hr stream) hshut

namespace Supervising

variable {sv : Supervision σ} {spec : ServiceSpec} {v v₁ : Supervisor σ} {started : Started}
  {unread : Stream → σ → Bytes} {pid : Pid} {s s' : Session σ}

/-- The session in which a service has become ready: its forwarder has the reader as the wait has
left it. -/
def handedOver (spec : ServiceSpec) (pid : Pid) (r : LineReader) (s : Session σ) : Session σ :=
  (Action.note (.ready spec.role pid)).apply
    ((Action.forwarders (s.forwarders ++ [⟨pid, spec.role.name, r⟩])).apply s)

theorem handedOver_hasForwarder (r : LineReader) (hs : s.Others pid spec.role.name) :
    (handedOver spec pid r s).HasForwarder pid spec.role.name ⟨pid, spec.role.name, r⟩ where
  own := by
    have hnone : s.forwarders.filter (·.pid = pid) = [] := by
      rw [List.filter_eq_nil_iff]
      exact fun f hf => by simpa using (hs f hf).1
    change (s.forwarders ++ [_]).filter _ = _
    rw [List.filter_append, hnone, List.filter_singleton]
    simp
  labelled := rfl
  others f hf hne := by
    rcases List.mem_append.mp hf with hf | hf
    · exact (hs f hf).2
    · rw [List.mem_singleton.mp hf] at hne
      exact absurd rfl hne

/-- The hand-over itself takes and prints nothing. -/
theorem handedOver_hasEchoed (hd : Host.Delivers pid unread) {r : LineReader}
    (hr : r.Agrees unread s.host) (hs : s.Others pid spec.role.name) :
    Session.HasEchoed unread pid spec.role.name r s ⟨pid, spec.role.name, r⟩ []
      (handedOver spec pid r s) where
  forwarder := handedOver_hasForwarder r hs
  gives := .of_eq hr (hd.rest (.note (.ready spec.role pid)) s.host trivial)
  under := (Journal.under_cons_of_not (e := .ready spec.role pid) nofun).trans
    (List.append_nil _).symm

/-- A launch takes nothing. -/
theorem launched_unread (hd : Host.Delivers pid unread) (sv : Supervision σ) (spec : ServiceSpec)
    (s : Session σ) (stream : Stream) :
    unread stream (launched sv spec pid s).host = unread stream s.host := by
  have hspawned := hd.rest (.spawn sv.workingDir spec.launch) s.host trivial stream
  have hnoted := hd.rest (.note (.launched spec.role pid))
    (Host.spawn sv.workingDir spec.launch s.host).2 trivial stream
  exact hnoted.trans hspawned

/-- A launch prints nothing. -/
theorem launched_under (sv : Supervision σ) (spec : ServiceSpec) (pid : Pid) (label : String)
    (s : Session σ) : (launched sv spec pid s).journal.under label = s.journal.under label :=
  Journal.under_cons_of_not (e := .launched spec.role pid) nofun

/-- A start that goes well is a launch, a wait that ends as ready, and the hand-over. -/
theorem start_runs (sv : Supervision σ) (spec : ServiceSpec) (v : Supervisor σ) :
    Ends (start sv spec) v
      (fun result v' => ∀ started, result = .ok started → ∃ r s,
        (watchOf sv spec).run started.pid (.ofStreams true true)
          (launched sv spec started.pid v.session) = .ok (r, .ready) s ∧
        v'.session = handedOver spec started.pid r s)
      fun _ _ => True := by
  change Ends (if v.isTracked spec.role then _ else _) v _ _
  split
  · trivial
  · refine (launch_runs sv spec v).of_total.bind ?_
    rintro result v₁ ⟨-, h₁⟩
    cases result with
    | error e => exact fun _ h => absurd h nofun
    | ok pid =>
      obtain rfl := h₁
      let w := watchOf sv spec
      have hwatch : Ends (liftM (w.run pid (.ofStreams true true) : Task σ _) : Supervising σ _)
          ((v.withSession (launched sv spec pid v.session)).withEntry spec.role
            (some (entryOf spec pid)))
          (fun x v₂ => w.run pid (.ofStreams true true) (launched sv spec pid v.session) =
            .ok x v₂.session) fun _ _ => True :=
        ends_lift (Ends.ok_self (w.run pid (.ofStreams true true)) _)
      refine hwatch.bind ?_
      rintro ⟨r, outcome⟩ v₂ hrun
      cases outcome with
      | ready =>
        intro started hstarted
        obtain rfl := Except.ok.inj hstarted
        exact ⟨r, v₂.session, hrun, rfl⟩
      | timedOut => exact fun _ h => absurd h nofun
      | processExited status => exact fun _ h => absurd h nofun

/-- Once a service is ready and its streams have come to their ends, the lines that the wait has
taken and those that its forwarder has taken are, stream by stream, the lines of what it has
written, each once and in order. The wait has taken the lines up to the first with the marker, and
has echoed those of them that can be read. All the others were ahead of the forwarder when it got
the reader, and each has been echoed once, whether it can be read or not. -/
theorem handover_loses_nothing (hd : Host.Delivers started.pid unread)
    (hothers : v.session.Others started.pid spec.role.name)
    (hstart : start sv spec v = .ok (.ok started) v₁)
    (hcourse : v₁.session.Continues started.pid spec.role.name s')
    (hclosed : ∀ f ∈ s'.forwarders, f.pid = started.pid → f.reader.isClosed = true) :
    ∃ consumed later : List (Stream × Bytes),
      (∀ stream, linesOf stream (consumed ++ later) =
        splitLines .byte (unread stream v.session.host)) ∧
      EndsAtMarker spec.marker (consumed.map (·.2)) ∧
      (∀ f ∈ v₁.session.forwarders, f.pid = started.pid → ∀ stream,
        f.reader.ahead unread v₁.session.host stream = linesOf stream later) ∧
      v₁.session.journal.under spec.role.name = v.session.journal.under spec.role.name ++
        Watch.echoed spec.role.name (consumed.map (·.2)) ∧
      s'.journal.under spec.role.name = v₁.session.journal.under spec.role.name ++
        later.map fun x => Task.echoText spec.role.name (decodeLossy x.2) := by
  obtain ⟨r, s, hrun, hready⟩ := (start_runs sv spec v).of_ok hstart started rfl
  let s₀ := launched sv spec started.pid v.session
  -- the wait takes the lines up to the marker
  have hwait := (watchOf sv spec).run_consumes hd (LineReader.agrees_ofStreams s₀.host) hothers
  obtain ⟨_, ⟨⟨consumed, rfl, hconsumed, -⟩, hothers₁, hunder₁⟩, hends⟩ := hwait.of_ok hrun
  -- and its reader goes on to the forwarder, which takes all the others
  have hbegin : Session.HasEchoed unread started.pid spec.role.name r s _ [] v₁.session :=
    hready ▸ handedOver_hasEchoed hd hconsumed.agrees hothers₁
  obtain ⟨f, later, hforwarder, hlater, hunder₂⟩ := hbegin.continues hd hcourse
  have hf := hforwarder.mem
  have hnone := LineReader.ahead_of_isClosed hlater.agrees (hclosed f hf.1 hf.2)
  have hahead (stream : Stream) : r.ahead unread s.host stream = linesOf stream later := by
    rw [hlater.ahead, hnone, List.append_nil]
  have hnothing : v₁.session.journal.under spec.role.name = s.journal.under spec.role.name :=
    hbegin.under.trans (List.append_nil _)
  refine ⟨consumed, later, fun stream => ?_, hends rfl, fun g hg hpid stream => ?_, ?_,
    hunder₂.trans (hnothing ▸ rfl)⟩
  · rw [linesOf_append, ← hahead, ← hconsumed.ahead, LineReader.ahead_ofStreams, launched_unread hd]
  · rw [hbegin.forwarder.eq_of_mem hg hpid, ← hahead, hbegin.gives.ahead]
    rfl
  · rw [hnothing, ← launched_under sv spec started.pid spec.role.name v.session]
    exact hunder₁

end Supervising

/-! ### A start on a script -/

namespace Simulation.Debut

theorem delivers : Host.Delivers Script.child unread where
  look stream d := Script.delivers.look stream d.script
  other stream d := Script.delivers.other stream d.script
  rest a d ha stream := by
    have hrest := Script.delivers.rest a d.script ha stream
    cases a with
    | spawn dir launch => rfl
    | _ => exact hrest

/-- When the marker comes, a part of the next line has come on each stream; the rest comes later,
and with it a line that cannot be read. A child of the other role is echoed already. -/
def stage : Supervisor Debut where
  session :=
    { Session.start
        ⟨{ clock := 0, patience := 30, closes := true, choices := [.err]
           out := [(0, Text.Utf8.encode "boot\nready\nne".toList),
             (40, Text.Utf8.encode "xt\n".toList ++ [255, 10])]
           err := [(0, Text.Utf8.encode "par".toList), (40, Text.Utf8.encode "t".toList)] }⟩ .absent
      with forwarders := [⟨9, Role.server1.name, .ofStreams true true⟩] }
  tracked _ := none
  passes := 0

theorem stage_others : stage.session.Others Script.child "Server2" := by
  intro f hf
  obtain rfl := List.mem_singleton.mp hf
  exact ⟨by decide, Role.name_apart (a := .server1) (b := .server2) (by decide)⟩

def supervision : Supervision Debut := ⟨.ofString "/w", [3004], [], 10, {}, .standard {}⟩

def spec : ServiceSpec := ⟨.server2, ⟨"just", ["server2"]⟩, "ready", 3004, 1000⟩

/-- The service becomes ready, and during a wait its streams come to their ends. -/
theorem stage_ends : Ends (Supervising.start supervision spec) stage
    (fun result v₁ => result.toOption = some ⟨.server2, Script.child, 3004⟩ ∧
      v₁.session.journal.under "Server2" = ["   Server2: boot", "   Server2: ready"] ∧
      Ends (Task.sleep 50) v₁.session
        (fun _ s' => (∀ f ∈ s'.forwarders, f.reader.isClosed = true) ∧
          s'.journal.under "Server2" = ["   Server2: boot", "   Server2: ready",
            "   Server2: next", "   Server2: \ufffd", "   Server2: part"])
        fun _ _ => False)
    fun _ _ => False := by
  decide +kernel

end Simulation.Debut

namespace Supervising

open Simulation

/-- On the stage the wait takes two lines, and three are left to the forwarder. -/
theorem handover_loses_nothing_on_stage : ∃ started v₁ s',
    Host.Delivers started.pid Debut.unread ∧ Debut.stage.session.Others started.pid "Server2" ∧
    start Debut.supervision Debut.spec Debut.stage = .ok (.ok started) v₁ ∧
    v₁.session.Continues started.pid "Server2" s' ∧
    (∀ f ∈ s'.forwarders, f.pid = started.pid → f.reader.isClosed = true) ∧
    ∃ consumed later : List (Stream × Bytes),
      (∀ stream, linesOf stream (consumed ++ later) =
        splitLines .byte (Debut.unread stream Debut.stage.session.host)) ∧
      EndsAtMarker "ready" (consumed.map (·.2)) ∧ later.length = 3 := by
  obtain ⟨result, v₁, hstart, hresult, hunder₁, hsleep⟩ := Debut.stage_ends.exists_ok
  obtain ⟨_, s', hrun, hclosed, hunder₂⟩ := hsleep.exists_ok
  cases result with
  | error e => exact absurd hresult nofun
  | ok started =>
    obtain rfl := Option.some.inj hresult
    have hcourse := (Task.sleep_continues Script.child "Server2" 50 v₁.session).of_ok hrun
    have hclosed' : ∀ f ∈ s'.forwarders, f.pid = Script.child → f.reader.isClosed = true :=
      fun f hf _ => hclosed f hf
    obtain ⟨consumed, later, hlines, hends, -, -, hlater⟩ :=
      handover_loses_nothing Debut.delivers Debut.stage_others hstart hcourse hclosed'
    refine ⟨_, v₁, s', Debut.delivers, Debut.stage_others, hstart, hcourse, hclosed', consumed,
      later, hlines, hends, ?_⟩
    -- five lines are under the label in the end, and two were when the service became ready
    have hlength := congrArg List.length hlater
    rw [List.length_append, List.length_map] at hlength
    have htwo : (v₁.session.journal.under Debut.spec.role.name).length = 2 :=
      congrArg List.length hunder₁
    have hfive : (s'.journal.under Debut.spec.role.name).length = 5 := congrArg List.length hunder₂
    omega

end Supervising

end LatencyHarness
