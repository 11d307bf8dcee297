import LatencyHarness.Proofs.Punctual

/-! A line that is expected.

Until it is read, each attempt to read gives one thing less to be given, and no attempt goes past the
time at which the line is complete without giving something. -/
namespace LatencyHarness

open Text (LineBreak)
open Text.Utf8 (Bytes)

variable {σ : Type} [Host σ]

/-- A line that is expected on a stream of a child, with what is still to come of its output and what
of it has arrived by some time. -/
structure Expectation (σ : Type) where
  pid : Pid
  unread : Stream → σ → Bytes
  arrived : Stream → Nat → σ → Bytes
  stream : Stream
  line : Bytes

namespace Expectation

variable {x : Expectation σ} {time : Nat} {r r' r'' : LineReader} {s s' s'' : Session σ}

/-- The line is still to be read and is complete by some time; nothing else reads it, and no news
cut short the wait for it. -/
structure Awaits (x : Expectation σ) (time : Nat) (r : LineReader) (s : Session σ) : Prop where
  leaves : s.Leaves x.pid
  calm : s.interruptible = false
  agrees : r.Agrees x.unread s.host
  coming : (r.channel x.stream).Coming x.line (x.arrived x.stream time s.host)
    (x.unread x.stream s.host)

/-- From one reader and session to the other an attempt to read has given something, but not yet the
line. What it has given is one thing less to be given. -/
structure Goes (x : Expectation σ) (time : Nat) (r : LineReader) (s : Session σ)
    (e : Option ReadEvent) (r' : LineReader) (s' : Session σ) : Prop where
  reaches : s.Reaches (Action.isTame x.pid) s'
  agrees : r'.Agrees x.unread s'.host
  coming : (r'.channel x.stream).Coming x.line (x.arrived x.stream time s'.host)
    (x.unread x.stream s'.host)
  weight : r'.weight x.unread s'.host + (if e.isSome then 1 else 0) ≤ r.weight x.unread s.host
  closable : r'.closable x.stream.other + (if e = some .streamClosed then 1 else 0) ≤
    r.closable x.stream.other
  notAll : e ≠ some .allClosed

theorem Awaits.toGoes (h : x.Awaits time r s) : x.Goes time r s none r s :=
  ⟨.refl s, h.agrees, h.coming, Nat.le_refl _, Nat.le_refl _, nofun⟩

omit [Host σ] in
theorem Awaits.ahead_ne_nil (h : x.Awaits time r s) : r.ahead x.unread s.host x.stream ≠ [] := by
  obtain ⟨i, -, hline⟩ := h.coming
  exact List.ne_nil_of_mem (List.mem_of_getElem? hline)

omit [Host σ] in
theorem Awaits.arrived_ne_nil (h : x.Awaits time r s) : x.arrived x.stream time s.host ≠ [] := by
  obtain ⟨i, hi, -⟩ := h.coming
  intro hnil
  rw [hnil] at hi
  exact absurd hi (Nat.not_lt_zero i)

omit [Host σ] in
theorem Awaits.isClosed_eq_false (h : x.Awaits time r s) : r.isClosed = false := by
  have hopen : (r.channel x.stream).isOpen = true := by
    by_contra hclosed
    exact h.ahead_ne_nil (Channel.ahead_of_closed (h.agrees x.stream) (Bool.not_eq_true _ ▸ hclosed))
  unfold LineReader.isClosed
  cases hstream : x.stream <;> simp_all [LineReader.channel]

theorem Goes.trans {e : Option ReadEvent} (h : x.Goes time r s none r' s')
    (h' : x.Goes time r' s' e r'' s'') : x.Goes time r s e r'' s'' :=
  ⟨h.reaches.trans h'.reaches, h'.agrees, h'.coming, h'.weight.trans h.weight,
    h'.closable.trans h.closable, h'.notAll⟩

section

variable (hp : Host.IsPunctual x.pid x.unread x.arrived)

include hp

theorem Goes.awaits {e : Option ReadEvent} (h : x.Awaits time r s) (hgoes : x.Goes time r s e r' s') :
    x.Awaits time r' s' := by
  have hsame := hgoes.reaches.same hp
  exact ⟨hsame.leaves h.leaves, hsame.interruptible.trans h.calm, hgoes.agrees, hgoes.coming⟩

/-- A look at an open stream brings the line, or the wait for it goes on. -/
theorem look_goes (h : x.Awaits time r s) (htime : s.clock ≤ time) {stream : Stream}
    (hopen : (r.channel stream).isOpen = true) :
    let y := r.absorb stream (Host.look x.pid stream s.host).1
    y.2 = some (.line x.line) ∨
      x.Goes time r s y.2 y.1 ((Action.look x.pid stream).apply s) := by
  intro y
  let after := (Host.look x.pid stream s.host).2
  let c := ((r.channel stream).absorb (Host.look x.pid stream s.host).1).1
  have hagrees := (LineReader.gives_absorb hp.toDelivers h.agrees stream).agrees
  have hweight := LineReader.absorb_weight hp.toDelivers h.agrees hopen
  have hcuts := hp.look stream s.host
  obtain ⟨-, hnotAll, hclosed⟩ := Channel.absorb_weight hopen (h.agrees stream) hcuts
  -- what is left to show is that the line is still to come, and how often a close may be reported
  have hgoes (hcoming : ((r.set stream c).channel x.stream).Coming x.line
        (x.arrived x.stream time after) (x.unread x.stream after))
      (hclosable : (r.set stream c).closable x.stream.other +
        (if y.2 = some .streamClosed then 1 else 0) ≤ r.closable x.stream.other) :
      x.Goes time r s y.2 y.1 ((Action.look x.pid stream).apply s) :=
    ⟨.step s trivial, hagrees, hcoming, hweight, hclosable, hnotAll⟩
  by_cases hstream : stream = x.stream
  · subst hstream
    -- the stream of the line does not end before the line is read
    refine (Channel.absorb_coming (h.agrees x.stream) hcuts (hp.takes x.stream time s.host htime)
      (hp.early x.stream time after) h.coming).imp id fun ⟨hcoming, hstop⟩ => ?_
    have hnotClosed : y.2 ≠ some .streamClosed := fun he => hstop (hclosed he).2
    refine hgoes ?_ ?_
    · rw [LineReader.channel_set, if_pos rfl]
      exact hcoming
    · unfold LineReader.closable
      rw [LineReader.channel_set, if_neg x.stream.other_ne, if_neg hnotClosed]
      exact Nat.le_refl _
  · -- a look at the other stream takes nothing from this one
    have hx : x.stream = stream.other := Stream.eq_other_of_ne (Ne.symm hstream)
    have hunread : x.unread stream.other after = x.unread stream.other s.host :=
      hp.other stream s.host
    have harrived : x.arrived stream.other time after = x.arrived stream.other time s.host :=
      hp.spares stream time s.host
    refine .inr (hgoes ?_ ?_)
    · rw [LineReader.channel_set, if_neg (Ne.symm hstream), hx, harrived, hunread, ← hx]
      exact h.coming
    · unfold LineReader.closable
      rw [hx, Stream.other_other, LineReader.channel_set, if_pos rfl, hopen, if_pos rfl]
      by_cases he : y.2 = some .streamClosed
      · have hshut : c.isOpen = false := (hclosed he).1
        rw [hshut, if_pos he, if_neg Bool.false_ne_true]
      · rw [if_neg he]
        split
        · exact Nat.le_refl _
        · exact Nat.zero_le _

theorem arrived_of_look {stream : Stream}
    (hnone : (r.absorb stream (Host.look x.pid stream s.host).1).2 = none) :
    x.arrived stream s.clock (Host.look x.pid stream s.host).2 = [] := by
  refine hp.drains stream s.host ?_
  change ((r.channel stream).absorb (Host.look x.pid stream s.host).1).2 = none at hnone
  unfold Channel.absorb at hnone
  cases hstop : (Host.look x.pid stream s.host).1.stop with
  | pending => rfl
  | ended =>
    simp only [hstop] at hnone
    split at hnone <;> exact absurd hnone nofun
  | lineFeed | failed =>
    simp only [hstop] at hnone
    exact absurd hnone nofun

theorem Awaits.goes_of_idle (h : x.Awaits time r s) (hidle : s.Reaches (Action.isIdle x.pid) s') :
    x.Goes time r s none r s' := by
  have hleaves : s.Reaches (Action.leavesOutput x.pid) s' := hidle.mono fun _ ha => ha.2
  have hunread := hp.toDelivers.unread_eq hleaves
  have hgives := LineReader.Gives.of_eq h.agrees hunread
  refine ⟨hidle.mono fun _ ha => ha.1, hgives.agrees, ?_, ?_, Nat.le_refl _, nofun⟩
  · rw [hp.arrived_eq hleaves, hunread]
    exact h.coming
  · unfold LineReader.weight
    rw [hunread, hunread]
    exact Nat.le_refl _

theorem lookAt_goes (h : x.Awaits time r s) (htime : s.clock ≤ time) (stream : Stream) :
    Ends (Task.lookAt x.pid stream r : Task σ _) s
      (fun y s' => s'.clock = s.clock ∧
        (y.2 = some (.line x.line) ∨ x.Goes time r s y.2 y.1 s') ∧
        (y.2 = none → x.arrived stream s.clock s'.host = []) ∧
        x.arrived stream.other s.clock s'.host = x.arrived stream.other s.clock s.host)
      (fun _ _ => False) := by
  unfold Task.lookAt
  split
  · next hopen =>
    have hclock : ((Action.look x.pid stream).apply s).clock = s.clock :=
      hp.instant (.look x.pid stream) s.host rfl
    exact And.intro hclock ⟨look_goes hp h htime hopen, arrived_of_look hp, hp.spares stream _ _⟩
  · next hclosed =>
    -- nothing more comes on a stream that has been closed
    have hunread := ((h.agrees stream).closed (Bool.not_eq_true _ ▸ hclosed)).2
    have harrived : x.arrived stream s.clock s.host = [] :=
      List.prefix_nil.mp (hunread ▸ hp.early stream s.clock s.host)
    exact And.intro rfl ⟨.inr h.toGoes, fun _ => harrived, rfl⟩

/-- After a look at both streams without an event nothing has arrived that is not read. -/
theorem lookOnce_goes (h : x.Awaits time r s) (htime : s.clock ≤ time) :
    Ends (Task.lookOnce x.pid r : Task σ _) s
      (fun y s' => s'.clock = s.clock ∧
        (y.2 = some (.line x.line) ∨ x.Goes time r s y.2 y.1 s') ∧
        (y.2 = none → ∀ stream, x.arrived stream s.clock s'.host = [])) (fun _ _ => False) := by
  let s₁ := Action.firstStream.apply s
  have hclock : s₁.clock = s.clock := hp.instant .firstStream s.host rfl
  have hfirst : x.Goes time r s none r s₁ := h.goes_of_idle hp (.step s ⟨trivial, trivial⟩)
  have hperform : Ends (Task.perform Host.firstStream : Task σ Stream) s (fun _ s' => s' = s₁)
      (fun _ _ => False) := rfl
  refine hperform.bind fun stream s' hs' => ?_
  subst hs'
  have htime₁ : s₁.clock ≤ time := hclock ▸ htime
  refine (lookAt_goes hp (hfirst.awaits hp h) htime₁ stream).bind ?_
  rintro ⟨r₁, e⟩ s₂ ⟨hclock₂, hgoes, hnone, -⟩
  cases e with
  | some e => exact ⟨hclock₂.trans hclock, hgoes.imp id hfirst.trans, nofun⟩
  | none =>
    have hgoes₂ : x.Goes time r s none r₁ s₂ := hfirst.trans (hgoes.resolve_left nofun)
    have hfirstNone : x.arrived stream s₁.clock s₂.host = [] := hnone rfl
    have htime₂ : s₂.clock ≤ time := hclock₂ ▸ htime₁
    refine (lookAt_goes hp (hgoes₂.awaits hp h) htime₂ stream.other).mono ?_ fun _ _ h => h
    rintro y s₃ ⟨hclock₃, hgoes₃, hnone₃, hspared⟩
    refine ⟨(hclock₃.trans hclock₂).trans hclock, hgoes₃.imp id hgoes₂.trans, fun hy t => ?_⟩
    rw [← hclock, ← hclock₂]
    by_cases ht : t = stream
    · rw [Stream.other_other, hclock₂, hfirstNone] at hspared
      rw [ht, hclock₂]
      exact hspared
    · rw [Stream.eq_other_of_ne ht]
      exact hnone₃ hy

/-- An attempt to read gives something before it goes past the time at which the line is complete. -/
theorem eventWithin_goes (limit fuel : Nat) (h : x.Awaits time r s) (htime : s.clock ≤ time)
    (hfuel : limit - s.clock < fuel) :
    Ends (Reading.eventWithin x.pid (some limit) fuel r : Task σ _) s
      (fun y s' => y.2 = some (.line x.line) ∨
        x.Goes time r s y.2 y.1 s' ∧ s.clock ≤ s'.clock ∧ s'.clock ≤ time ∧
          (y.2 = none → limit ≤ s'.clock)) (fun _ _ => False) := by
  -- every wait takes some time
  induction fuel generalizing r s with
  | zero => exact absurd hfuel (Nat.not_lt_zero _)
  | succ fuel ih =>
    change Ends (if r.isClosed then _ else _) s _ _
    rw [h.isClosed_eq_false, if_neg Bool.false_ne_true]
    refine (lookOnce_goes hp h htime).bind fun (r₁, e) s₁ ⟨hclock, hgoes, hnone⟩ => ?_
    cases e with
    | some e =>
      refine hgoes.imp id fun hgoes => ⟨hgoes, Nat.le_of_eq hclock.symm, ?_, nofun⟩
      exact hclock ▸ htime
    | none =>
      have hgoes₁ : x.Goes time r s none r₁ s₁ := hgoes.resolve_left nofun
      have h₁ := hgoes₁.awaits hp h
      have hdrained := hnone rfl
      refine Task.ends_ask_bind ?_
      change Ends (if decide (limit ≤ s₁.clock) then _ else _) s₁ _ _
      by_cases hlimit : limit ≤ s₁.clock
      · rw [decide_eq_true hlimit, if_pos rfl]
        exact .inr ⟨hgoes₁, Nat.le_of_eq hclock.symm, hclock ▸ htime, fun _ => hlimit⟩
      · rw [decide_eq_false hlimit, if_neg Bool.false_ne_true]
        refine (Task.await_idles hp h₁.leaves h₁.calm _ _).bind fun _ s₂ ⟨hidle, hwaited⟩ => ?_
        have hgoes₂ := hgoes₁.trans (h₁.goes_of_idle hp hidle)
        have hdrained₁ : ∀ stream, x.arrived stream s₁.clock s₁.host = [] := hclock ▸ hdrained
        -- the wait is over when the line is complete, if not before
        have htime₁ : s₁.clock ≤ time := hclock ▸ htime
        have hlater := hp.waits limit s₁.host (Nat.lt_of_not_le hlimit) hdrained₁
        have hintime : Host.now (Host.await (.output x.pid) (some limit) false s₁.host) ≤ time :=
          hp.wakes (some limit) s₁.host x.stream time htime₁ (hdrained₁ x.stream) h₁.arrived_ne_nil
        rw [← hwaited] at hlater hintime
        change s₁.clock < s₂.clock at hlater
        refine (ih (hgoes₂.awaits hp h) hintime (by omega)).mono (fun y s' h => ?_) fun _ _ h => h
        refine h.imp id fun ⟨hgoes', hle, hle', hreached⟩ => ?_
        exact ⟨hgoes₂.trans hgoes', by omega, hle', hreached⟩

theorem line_goes {wait : Millis} (h : x.Awaits time r s) (htime : s.clock ≤ time)
    (hpatience : wait < Host.patience s.host) :
    Ends (Reading.line x.pid wait r : Task σ _) s
      (fun y s' => y.2 = some x.line ∨ ∃ e, y.2 = e.bind ReadEvent.line? ∧
        x.Goes time r s e y.1 s' ∧ s.clock ≤ s'.clock ∧ s'.clock ≤ time ∧
          (e = none → s.clock + wait ≤ s'.clock)) (fun _ _ => False) := by
  have hrenew : x.Goes time r s none r.renew s := by
    refine ⟨.refl s, (LineReader.Gives.renew h.agrees).agrees, ?_, ?_, ?_, nofun⟩
    · have hsame (stream : Stream) : (r.renew.channel stream).ahead = (r.channel stream).ahead := by
        cases stream <;> rfl
      unfold Channel.Coming
      rw [hsame]
      exact h.coming
    · exact Nat.le_refl _
    · unfold LineReader.closable
      cases x.stream <;> exact Nat.le_refl _
  change Ends (if r.isClosed then _ else _) s _ _
  rw [h.isClosed_eq_false, if_neg Bool.false_ne_true]
  refine Task.ends_ask_bind ?_
  change Ends (Reading.eventWithin x.pid (some (s.clock + wait)) (Host.patience s.host) r.renew >>= _)
    s _ _
  have hfuel : s.clock + wait - s.clock < Host.patience s.host := by
    rw [Nat.add_sub_cancel_left]
    exact hpatience
  refine (eventWithin_goes hp (s.clock + wait) _ (hrenew.awaits hp h) htime hfuel).bind
    fun (r', e) s' hend => ?_
  have hresult : e = some (.line x.line) ∨
      x.Goes time r s e r' s' ∧ s.clock ≤ s'.clock ∧ s'.clock ≤ time ∧
        (e = none → s.clock + wait ≤ s'.clock) :=
    hend.imp id fun hgoes => ⟨hrenew.trans hgoes.1, hgoes.2⟩
  match e with
  | some (.line bytes) =>
    refine hresult.imp (fun heq => ?_) fun hgoes => ⟨_, rfl, hgoes⟩
    exact congrArg (·.bind ReadEvent.line?) heq
  | some .streamClosed | some .allClosed | none =>
    exact .inr ⟨_, rfl, hresult.resolve_left nofun⟩

end

end Expectation

end LatencyHarness
