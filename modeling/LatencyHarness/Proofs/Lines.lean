import LatencyHarness.Proofs.Script

/-! The lines of a child, whoever asks for them and however often.

Calls for an event, for a line within some time and for a line as long as it takes may follow each
other in any order, and a call may give up in the middle of a line. All together they give the lines
that are ahead, each stream's in order. -/
namespace LatencyHarness

open Text.Utf8 (Bytes)
open Text (splitLines)

variable {σ : Type}

namespace Reading

/-- From one reader and session to another some lines have been read. -/
def Yields (unread : Stream → σ → Bytes) (pid : Pid) (r : LineReader) (s : Session σ)
    (lines : List Bytes) (r' : LineReader) (s' : Session σ) : Prop :=
  ∃ l, l.map (·.2) = lines ∧ r.Gives unread s.host l r' s'.host ∧ s'.Leaves pid

variable {unread : Stream → σ → Bytes} {pid : Pid} {r r' r'' : LineReader} {s s' s'' : Session σ}
  {lines lines' : List Bytes}

theorem Yields.agrees (h : Yields unread pid r s lines r' s') : r'.Agrees unread s'.host := by
  obtain ⟨l, -, hgives, -⟩ := h
  exact hgives.agrees

theorem Yields.leaves (h : Yields unread pid r s lines r' s') : s'.Leaves pid := by
  obtain ⟨l, -, -, hleaves⟩ := h
  exact hleaves

theorem Yields.trans (h : Yields unread pid r s lines r' s')
    (h' : Yields unread pid r' s' lines' r'' s'') :
    Yields unread pid r s (lines ++ lines') r'' s'' := by
  obtain ⟨l, hl, hgives, -⟩ := h
  obtain ⟨l', hl', hgives', hleaves⟩ := h'
  refine ⟨l ++ l', ?_, hgives.trans hgives', hleaves⟩
  rw [List.map_append, hl, hl']

variable [Host σ]

theorem Yields.of_reaches (hd : Host.Delivers pid unread) (hr : r.Agrees unread s.host)
    (hs : s.Leaves pid) (h : s.Reaches (Action.leavesOutput pid) s') :
    Yields unread pid r s [] r s' :=
  ⟨[], rfl, .of_eq hr (hd.unread_eq h), hs.reaches h⟩

/-! ### The calls -/

theorem lookOnce_yields (hd : Host.Delivers pid unread) (hr : r.Agrees unread s.host)
    (hs : s.Leaves pid) :
    Ends (Task.lookOnce pid r : Task σ _) s
      (fun x s' => Yields unread pid r s (x.2.bind ReadEvent.line?).toList x.1 s')
      (fun _ _ => True) := by
  refine (Task.lookOnce_gives hd hr).weaken fun x s' ⟨l, hl, hgives, hf⟩ => ⟨l, hl, hgives, ?_⟩
  intro f hmem
  rw [hf] at hmem
  exact hs f hmem

theorem eventWithin_yields (hd : Host.Delivers pid unread) (limit : Option Instant) (fuel : Nat)
    (hr : r.Agrees unread s.host) (hs : s.Leaves pid) :
    Ends (eventWithin pid limit fuel r : Task σ _) s
      (fun x s' => Yields unread pid r s (x.2.bind ReadEvent.line?).toList x.1 s')
      (fun _ _ => True) := by
  -- each wait is followed by another look, by a reader that may hold more of a line
  induction fuel generalizing r s with
  | zero => trivial
  | succ fuel ih =>
    have hhere : Yields unread pid r s [] r s := .of_reaches hd hr hs (.refl s)
    change Ends (if r.isClosed then _ else _) s _ _
    split
    · exact hhere
    · refine (lookOnce_yields hd hr hs).bind fun (r₁, e) s₁ h₁ => ?_
      cases e with
      | some e => exact h₁
      | none =>
        have h₁' : Yields unread pid r s [] r₁ s₁ := h₁
        refine Task.ends_ask_bind ?_
        split
        · exact h₁
        · refine (Task.await_leaves h₁.leaves _ limit).forget.bind fun _ s₂ hreach => ?_
          have h₂ := h₁'.trans (.of_reaches hd h₁.agrees h₁.leaves hreach)
          exact (ih h₂.agrees h₂.leaves).weaken fun x s' h => h₂.trans h

theorem event_yields (hd : Host.Delivers pid unread) (limit : Option Instant)
    (hr : r.Agrees unread s.host) (hs : s.Leaves pid) :
    Ends (event pid limit r : Task σ _) s
      (fun x s' => Yields unread pid r s (x.2.bind ReadEvent.line?).toList x.1 s')
      (fun _ _ => True) := by
  have hrenew : Yields unread pid r s [] r.renew s := ⟨[], rfl, .renew hr, hs⟩
  refine Task.ends_ask_bind ?_
  exact (eventWithin_yields hd limit _ hrenew.agrees hs).weaken fun _ _ h => hrenew.trans h

theorem line_yields (hd : Host.Delivers pid unread) (wait : Millis)
    (hr : r.Agrees unread s.host) (hs : s.Leaves pid) :
    Ends (line pid wait r : Task σ _) s
      (fun x s' => Yields unread pid r s x.2.toList x.1 s') (fun _ _ => True) := by
  change Ends (if r.isClosed then _ else _) s _ _
  split
  · exact Yields.of_reaches hd hr hs (.refl s)
  · refine Task.ends_ask_bind ?_
    refine (event_yields hd _ hr hs).bind fun (r₁, e) s₁ h₁ => ?_
    -- a wait that gives no line has taken none, whatever ended it
    match e with
    | some (.line _) | some .streamClosed | some .allClosed | none => exact h₁

theorem lineWithin_yields (hd : Host.Delivers pid unread) (fuel : Nat)
    (hr : r.Agrees unread s.host) (hs : s.Leaves pid) :
    Ends (lineWithin pid fuel r : Task σ _) s
      (fun x s' => Yields unread pid r s x.2.toList x.1 s') (fun _ _ => True) := by
  induction fuel generalizing r s with
  | zero => trivial
  | succ fuel ih =>
    refine (event_yields hd none hr hs).bind fun (r₁, e) s₁ h₁ => ?_
    match e with
    | some (.line _) | some .allClosed => exact h₁
    | some .streamClosed | none =>
      have h₁' : Yields unread pid r s [] r₁ s₁ := h₁
      exact (ih h₁.agrees h₁.leaves).weaken fun x s' h => h₁'.trans h

/-- A call to the reader of a child. -/
inductive Call where
  | event (limit : Option Instant)
  | line (wait : Millis)
  | lineUntilClosed
  deriving Repr

/-- The line that a call gives, if it gives one. -/
def Call.run (pid : Pid) (r : LineReader) : Call → Task σ (LineReader × Option Bytes)
  | event limit => do
    let (r, e) ← Reading.event pid limit r
    return (r, e.bind ReadEvent.line?)
  | line wait => Reading.line pid wait r
  | lineUntilClosed => Reading.lineUntilClosed pid r

theorem Call.run_yields (hd : Host.Delivers pid unread) (hr : r.Agrees unread s.host)
    (hs : s.Leaves pid) (c : Call) :
    Ends (c.run pid r : Task σ _) s
      (fun x s' => Yields unread pid r s x.2.toList x.1 s') (fun _ _ => True) := by
  cases c with
  | event limit => exact (event_yields hd limit hr hs).bind fun _ _ h => h
  | line wait => exact line_yields hd wait hr hs
  | lineUntilClosed => exact Task.ends_ask_bind (lineWithin_yields hd _ hr hs)

/-- Some calls follow one another, and together they give some lines. Between them anything may
happen that leaves the output to its reader. -/
inductive Reads (pid : Pid) :
    LineReader → Session σ → List Bytes → LineReader → Session σ → Prop where
  | done (r : LineReader) (s : Session σ) : Reads pid r s [] r s
  | call {r r₁ r' : LineReader} {s s₁ s' : Session σ} {line? : Option Bytes} {lines : List Bytes}
    (c : Call) (hcall : c.run pid r s = .ok (r₁, line?) s₁) (hrest : Reads pid r₁ s₁ lines r' s') :
    Reads pid r s (line?.toList ++ lines) r' s'
  | meanwhile {r r' : LineReader} {s s₁ s' : Session σ} {lines : List Bytes}
    (h : s.Reaches (Action.leavesOutput pid) s₁) (hrest : Reads pid r s₁ lines r' s') :
    Reads pid r s lines r' s'

theorem Reads.yields (hd : Host.Delivers pid unread) (h : Reads pid r s lines r' s')
    (hr : r.Agrees unread s.host) (hs : s.Leaves pid) : Yields unread pid r s lines r' s' := by
  induction h with
  | done r s => exact .of_reaches hd hr hs (.refl s)
  | call c hcall _ ih =>
    have h₁ := (Call.run_yields hd hr hs c).of_ok hcall
    exact h₁.trans (ih h₁.agrees h₁.leaves)
  | meanwhile hreach _ ih =>
    have h₁ : Yields unread pid _ _ [] _ _ := .of_reaches hd hr hs hreach
    exact h₁.trans (ih h₁.agrees h₁.leaves)

/-- The lines that are read from a child until both of its streams are closed are, stream by stream,
the lines of what it has written: none is lost, changed, repeated or moved to the other stream,
however the output is cut by the looks at it and whichever calls read it. -/
theorem lines_are_those_written (hd : Host.Delivers pid unread) (hs : s.Leaves pid)
    (h : Reads pid (.ofStreams true true) s lines r' s') (hclosed : r'.isClosed = true) :
    ∃ l : List (Stream × Bytes), l.map (·.2) = lines ∧
      ∀ stream, linesOf stream l = splitLines .byte (unread stream s.host) := by
  obtain ⟨l, hl, hgives, -⟩ := h.yields hd (LineReader.agrees_ofStreams s.host) hs
  refine ⟨l, hl, fun stream => ?_⟩
  have hshut : (r'.channel stream).isOpen = false := by
    cases stream <;> simp_all [LineReader.isClosed, LineReader.channel]
  -- nothing is ahead of a reader whose channels are closed
  have hnone : r'.ahead unread s'.host stream = [] :=
    Channel.ahead_of_closed (hgives.agrees stream) hshut
  calc linesOf stream l = linesOf stream l ++ r'.ahead unread s'.host stream := by
        rw [hnone, List.append_nil]
    _ = (LineReader.ofStreams true true).ahead unread s.host stream := (hgives.ahead stream).symm
    _ = splitLines .byte (unread stream s.host) := LineReader.ahead_ofStreams s.host stream

/-- Calls made one after the other, with nothing between them. -/
def Call.runAll (pid : Pid) : List Call → LineReader → Task σ (LineReader × List Bytes)
  | [], r => return (r, [])
  | c :: cs, r => do
    let (r, line?) ← c.run pid r
    let (r, lines) ← runAll pid cs r
    return (r, line?.toList ++ lines)

theorem Call.runAll_reads (cs : List Call) (r : LineReader) (s : Session σ) :
    Ends (Call.runAll pid cs r : Task σ _) s (fun x s' => Reads pid r s x.2 x.1 s')
      (fun _ _ => True) := by
  induction cs generalizing r s with
  | nil => exact Reads.done r s
  | cons c cs ih =>
    refine (Ends.ok_self (c.run pid r : Task σ _) s).bind fun (r₁, line?) s₁ hcall => ?_
    refine (ih r₁ s₁).bind fun (r', lines) s' hrest => ?_
    exact Reads.call c hcall hrest

end Reading

namespace Simulation.Script

/-- A line that is cut twice, also before its line feed, an empty one and one without an end, while
two lines come on the other stream. -/
def torn : Session Script :=
  Session.start
    { clock := 0, patience := 50, closes := true, choices := [.err, .out, .out, .err]
      out := [(0, Text.Utf8.encode "on".toList), (30, Text.Utf8.encode "e\r".toList),
        (60, Text.Utf8.encode "\n\ntail\r".toList)]
      err := [(30, Text.Utf8.encode "x\ny\n".toList)] } .absent

/-- The first of the calls gives up in the middle of a line. -/
theorem torn_ends : Ends (Reading.Call.runAll child
      [.line 10, .line 100, .event none, .lineUntilClosed, .line 100, .event none, .lineUntilClosed]
      (.ofStreams true true)) torn
    (fun x _ => x.1.isClosed = true ∧
      x.2 = ["x", "y", "one", "", "tail\r"].map fun line => Text.Utf8.encode line.toList)
    (fun _ _ => False) := by
  decide +kernel

end Simulation.Script

namespace Reading

open Simulation (Script)

/-- The torn lines are read as they were written. -/
theorem lines_are_those_written_on_script : ∃ lines r' s',
    Reads Script.child (.ofStreams true true) Script.torn lines r' s' ∧ r'.isClosed = true ∧
      lines = (["x", "y", "one", "", "tail\r"].map fun line => Text.Utf8.encode line.toList) ∧
      ∃ l : List (Stream × Bytes), l.map (·.2) = lines ∧ ∀ stream,
        linesOf stream l = splitLines .byte (Script.unread stream Script.torn.host) := by
  have hread := Script.torn_ends.exists_ok
  obtain ⟨⟨r', lines⟩, s', hrun, hclosed, hlines⟩ := hread
  have hreads := (Call.runAll_reads _ _ _).of_ok hrun
  exact ⟨lines, r', s', hreads, hclosed, hlines,
    lines_are_those_written Script.delivers nofun hreads hclosed⟩

end Reading

end LatencyHarness
