import LatencyHarness.Proofs.Calm
import LatencyHarness.Proofs.Delivery

/-! Reading against the clock.

Reading takes no time and a wait for output is over when more of it has arrived. So a line that is
complete by some time is read by that time, or the attempt to read it ends before: a wait does not
go past it. -/
namespace LatencyHarness

open Text (LineBreak splitLines)
open Text.Utf8 (Bytes)

theorem Stream.other_ne (stream : Stream) : stream.other ≠ stream := by
  cases stream <;> exact nofun

theorem Stream.other_other (stream : Stream) : stream.other.other = stream := by
  cases stream <;> rfl

variable {σ : Type} [Host σ]

/-- The actions that take no time. -/
def Action.isInstant : Action → Bool
  | await _ _ _ | capture _ _ => false
  | _ => true

/-- A host that passes on the output of a child in time. `unread` is what is still to come on each
stream, and `arrived` is what of it has come by some time. The child stays alive; looking takes no
time, and brings all that has arrived up to the end of a line; a pause takes as long as it is to
take; and a wait for output, if none has arrived, takes time and is over at the next arrival. -/
structure Host.IsPunctual (pid : Pid) (unread : Stream → σ → Bytes)
    (arrived : Stream → Nat → σ → Bytes) : Prop extends Host.Delivers pid unread where
  alive : ∀ (h : σ) status, Host.exitStatus? pid h ≠ .ok (some status)
  patience : ∀ (a : Action) (h : σ), Host.patience (a.onHost h) = Host.patience h
  instant : ∀ (a : Action) (h : σ), a.isInstant = true → Host.now (a.onHost h) = Host.now h
  sleeps : ∀ (limit : Instant) (h : σ),
    Host.now (Host.await .nothing (some limit) false h) = max (Host.now h) limit
  waits : ∀ (limit : Instant) (h : σ), Host.now h < limit →
    (∀ stream, arrived stream (Host.now h) h = []) →
    Host.now h < Host.now (Host.await (.output pid) (some limit) false h)
  wakes : ∀ (limit : Option Instant) (h : σ) (stream : Stream) (time : Nat), Host.now h ≤ time →
    arrived stream (Host.now h) h = [] → arrived stream time h ≠ [] →
    Host.now (Host.await (.output pid) limit false h) ≤ time
  early : ∀ (stream : Stream) (time : Nat) (h : σ), arrived stream time h <+: unread stream h
  grows : ∀ (stream : Stream) (time later : Nat) (h : σ), time ≤ later →
    arrived stream time h <+: arrived stream later h
  keeps : ∀ (a : Action) (h : σ), a.leavesOutput pid → ∀ stream time,
    arrived stream time (a.onHost h) = arrived stream time h
  takes : ∀ (stream : Stream) (time : Nat) (h : σ), Host.now h ≤ time →
    arrived stream time h =
      (Host.look pid stream h).1.bytes ++ arrived stream time (Host.look pid stream h).2
  spares : ∀ (stream : Stream) (time : Nat) (h : σ),
    arrived stream.other time (Host.look pid stream h).2 = arrived stream.other time h
  drains : ∀ (stream : Stream) (h : σ), (Host.look pid stream h).1.stop = .pending →
    arrived stream (Host.now h) (Host.look pid stream h).2 = []

/-! ### What the background leaves as it is -/

/-- How often a line could not be decoded. -/
def Journal.garbled (j : Journal) : Nat := j.countP (· = .undecodableLine)

theorem Journal.garbled_cons (e : Event) (j : Journal) :
    garbled (e :: j) = garbled j + if e = .undecodableLine then 1 else 0 := by
  unfold garbled
  rw [List.countP_cons]
  simp only [decide_eq_true_eq]

/-- The actions by which the course of a run goes on as it was, no line is found to be garbled and
the output of a child is not echoed. -/
def Action.isTame (pid : Pid) : Action → Prop
  | note e => e.isMilestone = false ∧ e ≠ .undecodableLine
  | spawn _ _ | interrupts _ => False
  | forwarders fs => ∀ f ∈ fs, f.pid ≠ pid
  | _ => True

/-- The tame actions by which nothing of a child's output is read. -/
def Action.isIdle (pid : Pid) (a : Action) : Prop := a.isTame pid ∧ a.leavesOutput pid

theorem Action.isIdle_of_isEcho {ps : List Pid} {pid : Pid} (hpid : pid ∉ ps) {a : Action}
    (h : a.isEcho ps = true) : a.isIdle pid := by
  have hleaves := leavesOutput_of_isEcho hpid h
  refine ⟨?_, hleaves⟩
  cases a with
  | note e =>
    cases e with
    | line _ | shutdownRequested => exact ⟨rfl, nofun⟩
    | _ => exact absurd h nofun
  | spawn _ _ | interrupts _ => exact absurd h nofun
  | forwarders fs => exact hleaves
  | _ => trivial

theorem Action.isInstant_of_isEcho {ps : List Pid} {a : Action} (h : a.isEcho ps = true) :
    a.isInstant = true := by
  cases a with
  | await _ _ _ | capture _ _ => exact absurd h nofun
  | _ => rfl

namespace Session

variable {s s' s'' : Session σ} {pid : Pid} {unread : Stream → σ → Bytes}
  {arrived : Stream → Nat → σ → Bytes}

/-- The clock of the host. -/
def clock (s : Session σ) : Nat := Host.now s.host

/-- What tame actions leave as it is, from one session to the other. -/
structure Same (s : Session σ) (pid : Pid) (s' : Session σ) : Prop where
  patience : Host.patience s'.host = Host.patience s.host
  garbled : s'.journal.garbled = s.journal.garbled
  interruptible : s'.interruptible = s.interruptible
  leaves : s.Leaves pid → s'.Leaves pid

theorem Same.refl (s : Session σ) : s.Same pid s := ⟨rfl, rfl, rfl, id⟩

theorem Same.trans (h : s.Same pid s') (h' : s'.Same pid s'') : s.Same pid s'' :=
  ⟨h'.patience.trans h.patience, h'.garbled.trans h.garbled,
    h'.interruptible.trans h.interruptible, fun hs => h'.leaves (h.leaves hs)⟩

theorem Reaches.same (hp : Host.IsPunctual pid unread arrived)
    (h : s.Reaches (Action.isTame pid) s') : s.Same pid s' := by
  refine h.keeps (P := fun t => s.Same pid t) (fun t a ha ht => ht.trans ⟨?_, ?_, ?_, ?_⟩) (.refl s)
  · rw [Action.apply_host, hp.patience]
  · cases a with
    | note e =>
      change Journal.garbled (e :: t.journal) = _
      rw [Journal.garbled_cons, if_neg ha.2, Nat.add_zero]
    | _ => rfl
  · cases a with
    | interrupts _ => exact ha.elim
    | _ => rfl
  · intro hs
    cases a with
    | forwarders fs => exact ha
    | _ => exact hs

theorem Reaches.clock_eq (hp : Host.IsPunctual pid unread arrived)
    (h : s.Reaches (Action.isInstant ·) s') : s'.clock = s.clock := by
  refine h.keeps (P := fun t => t.clock = s.clock) (fun t a ha ht => ?_) rfl
  change Host.now (a.apply t).host = _
  rw [Action.apply_host, hp.instant a t.host ha]
  exact ht

end Session

theorem Host.IsPunctual.arrived_eq {pid : Pid} {unread : Stream → σ → Bytes}
    {arrived : Stream → Nat → σ → Bytes} (hp : Host.IsPunctual pid unread arrived)
    {s s' : Session σ} (h : s.Reaches (Action.leavesOutput pid) s') (stream : Stream) (time : Nat) :
    arrived stream time s'.host = arrived stream time s.host := by
  refine h.keeps (P := fun t => arrived stream time t.host = arrived stream time s.host)
    (fun t a ha ht => ?_) rfl
  rw [Action.apply_host, hp.keeps a t.host ha, ht]

/-- After a wait that cannot be cut short the clock stands where the host has let it go, and nothing
has been read. -/
theorem Task.await_idles {s : Session σ} {pid : Pid} {unread : Stream → σ → Bytes}
    {arrived : Stream → Nat → σ → Bytes} (hp : Host.IsPunctual pid unread arrived)
    (hs : s.Leaves pid) (hcalm : s.interruptible = false) (w : Wait) (limit : Option Instant) :
    Ends (await w limit : Task σ Unit) s
      (fun _ s' => s.Reaches (Action.isIdle pid) s' ∧
        s'.clock = Host.now (Host.await w limit false s.host)) (fun _ _ => False) := by
  have hends := (steady_await (σ := σ) w limit).calm s hcalm
  refine ((await_echoes w limit s).and hends).mono (fun _ s' h => ?_) fun _ _ h => h.2
  have hechoes := h.1
  rw [hcalm] at hechoes
  have hwaited : s.Reaches (Action.isIdle pid) ((Action.await w limit false).apply s) :=
    .step s ⟨trivial, trivial⟩
  refine ⟨hwaited.trans ?_, ?_⟩
  · exact hechoes.mono fun _ ha => Action.isIdle_of_isEcho hs.notMem ha
  · exact Session.Reaches.clock_eq hp (hechoes.mono fun _ ha => Action.isInstant_of_isEcho ha)

/-! ### A line to come -/

namespace Channel

/-- What a channel may still report: its lines, and its end. -/
def weight (c : Channel) (unread : Bytes) : Nat :=
  (c.ahead unread).length + if c.isOpen then 1 else 0

variable {c : Channel} {before after : Bytes} {a : Arrival}

/-- Each report of an open channel takes one from what it may still report, and the report of its
end closes it. -/
theorem absorb_weight (hopen : c.isOpen = true) (hc : c.Agrees before) (ha : a.Cuts before after) :
    (c.absorb a).1.weight after + (if (c.absorb a).2.isSome then 1 else 0) ≤ c.weight before ∧
      (c.absorb a).2 ≠ some .allClosed ∧
      ((c.absorb a).2 = some .streamClosed → (c.absorb a).1.isOpen = false ∧ a.stop = .ended) := by
  obtain ⟨-, hahead⟩ := absorb_spec hc ha
  have hlength := congrArg List.length hahead
  rw [List.length_append] at hlength
  unfold weight
  rw [hopen, if_pos rfl]
  cases ha with
  | lineFeed h =>
    refine ⟨?_, nofun, nofun⟩
    change _ = 1 + _ at hlength
    change (ahead _ after).length + 1 + 1 ≤ _
    omega
  | pending h =>
    refine ⟨?_, nofun, nofun⟩
    change _ = 0 + _ at hlength
    change (ahead _ after).length + 1 + 0 ≤ _
    omega
  | ended h =>
    by_cases hfresh : (c.fresh || !before.isEmpty) = true
    · -- the end itself is left to be reported
      have habsorb : c.absorb ⟨before, .ended⟩ =
          (start true, some (.line (finish (c.held ++ before)))) := if_pos hfresh
      rw [habsorb] at hlength ⊢
      refine ⟨?_, nofun, nofun⟩
      change _ = 1 + _ at hlength
      change (ahead _ []).length + 1 + 1 ≤ _
      omega
    · have habsorb : c.absorb ⟨before, .ended⟩ = (closed,
          some (if (c.held ++ before).isEmpty then .streamClosed
            else .line (finish (c.held ++ before)))) := if_neg hfresh
      rw [habsorb] at hlength ⊢
      refine ⟨?_, ?_, fun _ => ⟨rfl, rfl⟩⟩
      · change (ahead _ []).length + 0 + 1 ≤ _
        omega
      · split
        · exact nofun
        · exact nofun

/-- A line is ahead of a channel, and what has arrived goes up to its end. -/
def Coming (m arrived unread : Bytes) (c : Channel) : Prop :=
  ∃ i, i < arrived.count LineBreak.byte.feed ∧ (c.ahead unread)[i]? = some m

/-- A look brings the line that is to come, or it is to come after that. -/
theorem absorb_coming {m early rest : Bytes} (hc : c.Agrees before) (ha : a.Cuts before after)
    (htakes : early = a.bytes ++ rest) (hrest : rest <+: after) (hm : c.Coming m early before) :
    (c.absorb a).2 = some (.line m) ∨
      (c.absorb a).1.Coming m rest after ∧ a.stop ≠ .ended := by
  obtain ⟨i, hi, hline⟩ := hm
  obtain ⟨-, hahead⟩ := absorb_spec hc ha
  rw [htakes, List.count_append] at hi
  cases ha with
  | @lineFeed l _ h =>
    rw [hahead] at hline
    change (finish _ :: ahead _ after)[i]? = some m at hline
    have hone : (l ++ [LineBreak.byte.feed]).count LineBreak.byte.feed = 1 := by
      rw [List.count_append, List.count_eq_zero_of_not_mem h, List.count_singleton_self]
    -- this is the line, or one fewer comes before it
    cases i with
    | zero =>
      rw [List.getElem?_cons_zero] at hline
      exact .inl (congrArg (fun l => some (ReadEvent.line l)) (Option.some.inj hline))
    | succ i =>
      rw [List.getElem?_cons_succ] at hline
      refine .inr ⟨⟨i, ?_, hline⟩, nofun⟩
      change i + 1 < (l ++ [LineBreak.byte.feed]).count _ + _ at hi
      omega
  | @pending l _ h =>
    rw [hahead] at hline
    change l.count _ + _ > i at hi
    rw [List.count_eq_zero_of_not_mem h, Nat.zero_add] at hi
    exact .inr ⟨⟨i, hi, hline⟩, nofun⟩
  | ended h =>
    -- a line that is complete would have been found before the end
    change before.count _ + _ > i at hi
    rw [List.count_eq_zero_of_not_mem h, List.prefix_nil.mp hrest] at hi
    exact absurd hi (Nat.not_lt_zero i)

end Channel

namespace LineReader

variable {unread : Stream → σ → Bytes} {r : LineReader} {h : σ}

/-- What a reader may still report. -/
def weight (unread : Stream → σ → Bytes) (r : LineReader) (h : σ) : Nat :=
  r.out.weight (unread .out h) + r.err.weight (unread .err h)

/-- How often the end of a stream may still be reported. -/
def closable (r : LineReader) (stream : Stream) : Nat :=
  if (r.channel stream).isOpen then 1 else 0

omit [Host σ] in
theorem weight_eq (stream : Stream) : r.weight unread h =
    (r.channel stream).weight (unread stream h) +
      (r.channel stream.other).weight (unread stream.other h) := by
  cases stream with
  | out => rfl
  | err => exact Nat.add_comm _ _

omit [Host σ] in
theorem weight_ofStreams : (ofStreams true true).weight unread h =
    (splitLines .byte (unread .out h)).length + (splitLines .byte (unread .err h)).length + 2 := by
  change (splitLines .byte (unread .out h)).length + 1 +
    ((splitLines .byte (unread .err h)).length + 1) = _
  omega

/-- What a look at an open stream reports is one thing less to report. -/
theorem absorb_weight {pid : Pid} (hd : Host.Delivers pid unread) (hr : r.Agrees unread h)
    {stream : Stream} (hopen : (r.channel stream).isOpen = true) :
    let x := r.absorb stream (Host.look pid stream h).1
    x.1.weight unread (Host.look pid stream h).2 + (if x.2.isSome then 1 else 0) ≤
      r.weight unread h := by
  intro x
  let after := (Host.look pid stream h).2
  let c := ((r.channel stream).absorb (Host.look pid stream h).1).1
  have hother : unread stream.other after = unread stream.other h := hd.other stream h
  have hchannel : c.weight (unread stream after) + (if x.2.isSome then 1 else 0) ≤
      (r.channel stream).weight (unread stream h) :=
    (Channel.absorb_weight hopen (hr stream) (hd.look stream h)).1
  change (r.set stream c).weight unread after + _ ≤ _
  rw [weight_eq stream, weight_eq stream, channel_set, channel_set, if_pos rfl,
    if_neg stream.other_ne, hother]
  omega

end LineReader

end LatencyHarness
