import LatencyHarness.Proofs.Conduct
import LatencyHarness.Proofs.Stopping
import LatencyHarness.Proofs.Texts

/-! From the bytes that a child writes to the lines that its reader has still to give.

Wherever the output is cut by the looks at it, the unfinished line that the reader holds and the
bytes that are still to come make up what is ahead of it. A look that gives a line takes the first
one of these away, and no other look takes anything. -/
namespace LatencyHarness

open Text.Utf8 (Bytes)

open Text (LineBreak splitLines)

/-! ### One look -/

/-- A look takes what it brings from the front of what is to come, `before`, and leaves `after`. It
stops behind the first line feed if it gets so far. -/
inductive Arrival.Cuts : Arrival → Bytes → Bytes → Prop where
  | lineFeed {l rest : Bytes} (h : LineBreak.byte.feed ∉ l) :
    Cuts ⟨l ++ [LineBreak.byte.feed], .lineFeed⟩ (l ++ LineBreak.byte.feed :: rest) rest
  | pending {l rest : Bytes} (h : LineBreak.byte.feed ∉ l) : Cuts ⟨l, .pending⟩ (l ++ rest) rest
  | ended {l : Bytes} (h : LineBreak.byte.feed ∉ l) : Cuts ⟨l, .ended⟩ l []

/-- The bytes of the line that an event is, if it is one. -/
def ReadEvent.line? : ReadEvent → Option Bytes
  | line bytes => some bytes
  | streamClosed | allClosed => none

namespace Channel

/-- A channel agrees with what is still to come on its stream: the line that it holds is unfinished,
and it has been closed only at the end. -/
structure Agrees (c : Channel) (unread : Bytes) : Prop where
  unfinished : LineBreak.byte.feed ∉ c.held
  fresh : c.fresh = true → c.held ≠ []
  closed : c.isOpen = false → c.held = [] ∧ unread = []

/-- The lines that a channel has still to give. -/
def ahead (c : Channel) (unread : Bytes) : List Bytes := splitLines .byte (c.held ++ unread)

variable {c : Channel} {unread before after : Bytes} {a : Arrival}

theorem Agrees.renew (h : c.Agrees unread) : ({ c with fresh := false } : Channel).Agrees unread :=
  ⟨h.unfinished, nofun, h.closed⟩

theorem agrees_start (isOpen : Bool) (h : isOpen = false → unread = []) :
    (start isOpen).Agrees unread :=
  ⟨List.not_mem_nil, nofun, fun hclosed => ⟨rfl, h hclosed⟩⟩

theorem ahead_of_closed (h : c.Agrees unread) (hc : c.isOpen = false) : c.ahead unread = [] := by
  obtain ⟨hheld, hunread⟩ := h.closed hc
  unfold ahead
  rw [hheld, hunread, List.append_nil, Text.splitLines_of_notMem List.not_mem_nil]
  rfl

theorem finish_append_feed (l : Bytes) :
    finish (l ++ [LineBreak.byte.feed]) = Text.dropReturn .byte l := by
  unfold finish
  rw [List.getLast?_concat, if_pos rfl, List.dropLast_concat]

theorem finish_of_notMem {l : Bytes} (h : LineBreak.byte.feed ∉ l) : finish l = l := by
  unfold finish
  rw [if_neg]
  intro hlast
  exact h (List.mem_of_getLast? hlast)

/-- What a channel has to report of a look is the first line ahead, or there is none to report and
all of them are still ahead. -/
theorem absorb_spec (hc : c.Agrees before) (ha : a.Cuts before after) :
    (c.absorb a).1.Agrees after ∧
      c.ahead before = ((c.absorb a).2.bind ReadEvent.line?).toList ++ (c.absorb a).1.ahead after := by
  have hjoined {l : Bytes} (h : LineBreak.byte.feed ∉ l) : LineBreak.byte.feed ∉ c.held ++ l := by
    rw [List.mem_append, not_or]
    exact ⟨hc.unfinished, h⟩
  cases ha with
  | @lineFeed l rest h =>
    -- the line feed finishes the line that was held
    have hline : finish (c.held ++ (l ++ [LineBreak.byte.feed])) =
        Text.dropReturn .byte (c.held ++ l) := by
      rw [← List.append_assoc, finish_append_feed]
    refine ⟨agrees_start true nofun, ?_⟩
    change splitLines .byte (c.held ++ (l ++ LineBreak.byte.feed :: after)) =
      finish (c.held ++ (l ++ [LineBreak.byte.feed])) :: splitLines .byte ([] ++ after)
    rw [hline, ← List.append_assoc, Text.splitLines_append_feed (hjoined h), List.nil_append]
  | @pending l rest h =>
    refine ⟨⟨hjoined h, fun hfresh => ?_, nofun⟩, ?_⟩
    · have hor : c.fresh = true ∨ l ≠ [] := by
        simpa [absorb] using hfresh
      change c.held ++ l ≠ []
      rcases hor with hold | hnew
      · exact List.append_ne_nil_of_left_ne_nil (hc.fresh hold) l
      · exact List.append_ne_nil_of_right_ne_nil c.held hnew
    · change splitLines .byte (c.held ++ (l ++ after)) = splitLines .byte ((c.held ++ l) ++ after)
      rw [List.append_assoc]
  | ended h =>
    have hsplit := Text.splitLines_of_notMem (hjoined h)
    by_cases hfresh : (c.fresh || !before.isEmpty) = true
    · -- the attempt has added to the line, which is given as it is; the close comes later
      have hne : c.held ++ before ≠ [] := by
        rcases Bool.or_eq_true_iff.mp hfresh with hold | hnew
        · exact List.append_ne_nil_of_left_ne_nil (hc.fresh hold) before
        · exact List.append_ne_nil_of_right_ne_nil c.held (by simpa using hnew)
      have habsorb : c.absorb ⟨before, .ended⟩ =
          (start true, some (.line (finish (c.held ++ before)))) := if_pos hfresh
      rw [habsorb]
      refine ⟨agrees_start true nofun, ?_⟩
      change splitLines .byte (c.held ++ before) =
        finish (c.held ++ before) :: splitLines .byte ([] ++ [])
      rw [hsplit, if_neg (by simpa using hne), finish_of_notMem (hjoined h), List.append_nil,
        Text.splitLines_of_notMem List.not_mem_nil]
      rfl
    · have habsorb : c.absorb ⟨before, .ended⟩ = (closed,
          some (if (c.held ++ before).isEmpty then .streamClosed
            else .line (finish (c.held ++ before)))) := if_neg hfresh
      rw [habsorb]
      refine ⟨agrees_start false fun _ => rfl, ?_⟩
      change splitLines .byte (c.held ++ before) = _ ++ splitLines .byte ([] ++ [])
      rw [hsplit, finish_of_notMem (hjoined h), List.append_nil,
        Text.splitLines_of_notMem List.not_mem_nil]
      split
      · rfl
      · rfl

end Channel

/-! ### The reader of a child -/

theorem Stream.eq_other_of_ne {t stream : Stream} (h : t ≠ stream) : t = stream.other := by
  cases t with
  | out =>
    cases stream with
    | out => exact absurd rfl h
    | err => rfl
  | err =>
    cases stream with
    | out => rfl
    | err => exact absurd rfl h

/-- A host that passes on the output of a child: `unread` is what is still to come on each stream.
A look takes from the front of its own stream and never fails, and nothing else takes anything. -/
structure Host.Delivers {σ : Type} [Host σ] (pid : Pid) (unread : Stream → σ → Bytes) : Prop where
  look : ∀ stream (h : σ),
    (Host.look pid stream h).1.Cuts (unread stream h) (unread stream (Host.look pid stream h).2)
  other : ∀ (stream : Stream) (h : σ),
    unread stream.other (Host.look pid stream h).2 = unread stream.other h
  rest : ∀ (a : Action) (h : σ), a.leavesOutput pid → ∀ stream,
    unread stream (a.onHost h) = unread stream h

/-- What is to come on a child's streams stays as it is while its output is left to its reader. -/
theorem Host.Delivers.unread_eq {σ : Type} [Host σ] {pid : Pid} {unread : Stream → σ → Bytes}
    (hd : Host.Delivers pid unread) {s s' : Session σ}
    (h : s.Reaches (Action.leavesOutput pid) s') (stream : Stream) :
    unread stream s'.host = unread stream s.host := by
  refine h.keeps (P := fun t => unread stream t.host = unread stream s.host) (fun t a ha ht => ?_) rfl
  rw [Action.apply_host, hd.rest a t.host ha, ht]

/-- The second components of the pairs for one stream. -/
def linesOf (stream : Stream) (l : List (Stream × Bytes)) : List Bytes :=
  (l.filter (·.1 = stream)).map (·.2)

theorem linesOf_append (stream : Stream) (l l' : List (Stream × Bytes)) :
    linesOf stream (l ++ l') = linesOf stream l ++ linesOf stream l' := by
  unfold linesOf
  rw [List.filter_append, List.map_append]

namespace LineReader

variable {σ : Type} [Host σ] {unread : Stream → σ → Bytes} {r r' r'' : LineReader} {h h' h'' : σ}
  {l l' : List (Stream × Bytes)}

/-- A reader agrees with what is still to come on each stream. -/
def Agrees (unread : Stream → σ → Bytes) (r : LineReader) (h : σ) : Prop :=
  ∀ stream, (r.channel stream).Agrees (unread stream h)

/-- The lines of a stream that the reader has still to give. -/
def ahead (unread : Stream → σ → Bytes) (r : LineReader) (h : σ) (stream : Stream) : List Bytes :=
  (r.channel stream).ahead (unread stream h)

omit [Host σ] in
theorem agrees_ofStreams (h : σ) : (ofStreams true true).Agrees unread h := by
  intro stream
  cases stream with
  | out => exact Channel.agrees_start true nofun
  | err => exact Channel.agrees_start true nofun

omit [Host σ] in
theorem ahead_ofStreams (h : σ) (stream : Stream) :
    (ofStreams true true).ahead unread h stream = splitLines .byte (unread stream h) := by
  cases stream with
  | out => rfl
  | err => rfl

/-- From one reader and host to another some lines have been given: on each stream those that were
first among the lines ahead. -/
structure Gives (unread : Stream → σ → Bytes) (r : LineReader) (h : σ) (l : List (Stream × Bytes))
    (r' : LineReader) (h' : σ) : Prop where
  agrees : r'.Agrees unread h'
  ahead : ∀ stream, r.ahead unread h stream = linesOf stream l ++ r'.ahead unread h' stream

omit [Host σ] in
theorem Gives.trans (hl : Gives unread r h l r' h') (hl' : Gives unread r' h' l' r'' h'') :
    Gives unread r h (l ++ l') r'' h'' := by
  refine ⟨hl'.agrees, fun stream => ?_⟩
  rw [hl.ahead, hl'.ahead, linesOf_append, List.append_assoc]

omit [Host σ] in
theorem Gives.of_eq (hr : r.Agrees unread h) (hh : ∀ stream, unread stream h' = unread stream h) :
    Gives unread r h [] r h' := by
  refine ⟨fun stream => ?_, fun stream => ?_⟩
  · rw [hh]
    exact hr stream
  · change (r.channel stream).ahead _ = (r.channel stream).ahead _
    rw [hh]

omit [Host σ] in
theorem Gives.renew (hr : r.Agrees unread h) : Gives unread r h [] r.renew h := by
  refine ⟨fun stream => ?_, fun stream => ?_⟩
  · cases stream with
    | out => exact (hr .out).renew
    | err => exact (hr .err).renew
  · cases stream with
    | out => rfl
    | err => rfl

/-- The line that an event is, with the stream that it has come on. -/
def tagged (stream : Stream) (e : Option ReadEvent) : List (Stream × Bytes) :=
  (e.bind ReadEvent.line?).toList.map (stream, ·)

theorem map_tagged (stream : Stream) (e : Option ReadEvent) :
    (tagged stream e).map (·.2) = (e.bind ReadEvent.line?).toList := by
  unfold tagged
  rw [List.map_map]
  exact List.map_id _

theorem linesOf_tagged (stream other : Stream) (e : Option ReadEvent) :
    linesOf other (tagged stream e) =
      if other = stream then (e.bind ReadEvent.line?).toList else [] := by
  unfold linesOf tagged
  cases e.bind ReadEvent.line? with
  | none => simp
  | some line => by_cases hs : other = stream <;> simp [hs, Ne.symm]

variable {pid : Pid}

/-- What a reader makes of a look: the line is the first one ahead on the stream, if there is
one. -/
theorem gives_absorb (hd : Host.Delivers pid unread) (hr : r.Agrees unread h) (stream : Stream) :
    Gives unread r h (tagged stream (r.absorb stream (Host.look pid stream h).1).2)
      (r.absorb stream (Host.look pid stream h).1).1 (Host.look pid stream h).2 := by
  obtain ⟨hagrees, hahead⟩ := Channel.absorb_spec (hr stream) (hd.look stream h)
  have hother (t : Stream) (ht : t ≠ stream) :
      unread t (Host.look pid stream h).2 = unread t h := by
    rw [Stream.eq_other_of_ne ht]
    exact hd.other stream h
  refine ⟨fun t => ?_, fun t => ?_⟩
  · change ((r.set stream _).channel t).Agrees _
    rw [channel_set]
    split
    · next ht =>
      rw [ht]
      exact hagrees
    · next ht =>
      rw [hother t ht]
      exact hr t
  · change (r.channel t).ahead _ = _ ++ ((r.set stream _).channel t).ahead _
    rw [linesOf_tagged, channel_set]
    split
    · next ht =>
      rw [ht]
      exact hahead
    · next ht =>
      rw [hother t ht]
      rfl

end LineReader

namespace Task

variable {σ : Type} [Host σ] {unread : Stream → σ → Bytes} {r : LineReader} {s : Session σ}
  {pid : Pid}

theorem lookAt_gives (hd : Host.Delivers pid unread) (hr : r.Agrees unread s.host)
    (stream : Stream) :
    Ends (lookAt pid stream r : Task σ _) s
      (fun x s' => r.Gives unread s.host (LineReader.tagged stream x.2) x.1 s'.host ∧
        s'.forwarders = s.forwarders) (fun _ _ => False) := by
  unfold lookAt
  split
  · exact And.intro (LineReader.gives_absorb hd hr stream) rfl
  · exact And.intro (LineReader.Gives.of_eq hr fun _ => rfl) rfl

theorem lookOnce_gives (hd : Host.Delivers pid unread) (hr : r.Agrees unread s.host) :
    Ends (lookOnce pid r : Task σ _) s
      (fun x s' => ∃ l, l.map (·.2) = (x.2.bind ReadEvent.line?).toList ∧
        r.Gives unread s.host l x.1 s'.host ∧ s'.forwarders = s.forwarders)
      (fun _ _ => False) := by
  let s₁ := Action.firstStream.apply s
  have hs₁ : ∀ stream, unread stream s₁.host = unread stream s.host :=
    hd.rest .firstStream s.host trivial
  have hfirst : r.Gives unread s.host [] r s₁.host := .of_eq hr hs₁
  have hperform : Ends (perform Host.firstStream : Task σ Stream) s (fun _ s' => s' = s₁)
      (fun _ _ => False) := rfl
  refine hperform.bind fun stream s' hs' => ?_
  subst hs'
  refine (lookAt_gives hd hfirst.agrees stream).bind ?_
  rintro ⟨r₁, e₁⟩ s₂ ⟨h₂, hf₂⟩
  cases e₁ with
  | some e =>
    exact ⟨_, LineReader.map_tagged stream (some e), hfirst.trans h₂, hf₂⟩
  | none =>
    -- only a look without an event leads on to the other stream
    refine (lookAt_gives hd h₂.agrees stream.other).mono ?_ fun _ _ h => h
    rintro x s₃ ⟨h₃, hf₃⟩
    exact ⟨_, LineReader.map_tagged stream.other x.2, (hfirst.trans h₂).trans h₃, hf₃.trans hf₂⟩

theorem await_leaves (hs : s.Leaves pid) (w : Wait) (limit : Option Instant) :
    Ends (await w limit : Task σ Unit) s (fun _ s' => s.Reaches (Action.leavesOutput pid) s')
      (fun _ s' => s.Reaches (Action.leavesOutput pid) s') := by
  have hwaited : s.Reaches (Action.leavesOutput pid)
      ((Action.await w limit s.interruptible).apply s) := .step s trivial
  refine (await_echoes w limit s).mono (fun _ _ h => ?_) fun _ _ h => ?_
  · exact hwaited.trans (h.mono fun _ ha => Action.leavesOutput_of_isEcho hs.notMem ha)
  · exact hwaited.trans (h.mono fun _ ha => Action.leavesOutput_of_isEcho hs.notMem ha)

end Task

end LatencyHarness
