import LatencyHarness.Proofs.Punctual
import LatencyHarness.Simulation.Script

/-! A script passes on the output of its child, and in time, whatever the pieces and their times
are. -/
namespace LatencyHarness.Simulation.Script

open Text (LineBreak)
open Text.Utf8 (Bytes)

/-- What is taken comes from the front, of all the pieces and of those that have arrived by any later
time; and it ends a line, or leaves nothing that has arrived. -/
structure Takes (now : Instant) (pieces : List (Instant × Bytes)) (bytes : Bytes) (found : Bool)
    (left : List (Instant × Bytes)) : Prop where
  all : pieces.flatMap (·.2) = bytes ++ left.flatMap (·.2)
  upTo : ∀ time, now ≤ time → (pieces.takeWhile (·.1 ≤ time)).flatMap (·.2) =
    bytes ++ (left.takeWhile (·.1 ≤ time)).flatMap (·.2)
  line : found = true → ∃ l, LineBreak.byte.feed ∉ l ∧ bytes = l ++ [LineBreak.byte.feed]
  pending : found = false →
    LineBreak.byte.feed ∉ bytes ∧ left.takeWhile (·.1 ≤ now) = []

theorem takes (now : Instant) (pieces : List (Instant × Bytes)) :
    Takes now pieces (take now pieces).1 (take now pieces).2.1 (take now pieces).2.2 := by
  induction pieces with
  | nil => exact ⟨rfl, fun _ _ => rfl, nofun, fun _ => ⟨List.not_mem_nil, rfl⟩⟩
  | cons piece pieces ih =>
    obtain ⟨time, bytes⟩ := piece
    rw [take]
    split
    · -- a piece that has not arrived stays where it is
      next hlater =>
      refine ⟨rfl, fun _ _ => rfl, nofun, fun _ => ⟨List.not_mem_nil, ?_⟩⟩
      exact List.takeWhile_cons_of_neg (by simpa using hlater)
    · next hhere =>
      have harrived (t : Instant) (ht : now ≤ t) (bytes : Bytes) (l : List (Instant × Bytes)) :
          ((time, bytes) :: l).takeWhile (·.1 ≤ t) = (time, bytes) :: l.takeWhile (·.1 ≤ t) := by
        apply List.takeWhile_cons_of_pos
        exact decide_eq_true (Nat.le_trans (Nat.le_of_not_lt hhere) ht)
      have hcut := List.takeWhile_append_dropWhile (p := (· ≠ LineBreak.byte.feed)) (l := bytes)
      have hclean : LineBreak.byte.feed ∉ bytes.takeWhile (· ≠ LineBreak.byte.feed) := by
        intro hmem
        have hne := List.all_eq_true.mp List.all_takeWhile _ hmem
        simp at hne
      split
      · -- the whole piece is taken, with what the next ones give
        next hnil =>
        have hwhole : bytes.takeWhile (· ≠ LineBreak.byte.feed) = bytes := by
          rw [hnil, List.append_nil] at hcut
          exact hcut
        rw [hwhole] at hclean
        refine ⟨?_, fun t ht => ?_, fun hfound => ?_, fun hnone => ?_⟩
        · rw [List.flatMap_cons, ih.all, List.append_assoc]
        · rw [harrived t ht, List.flatMap_cons, ih.upTo t ht, List.append_assoc]
        · obtain ⟨l, hl, heq⟩ := ih.line hfound
          refine ⟨bytes ++ l, ?_, ?_⟩
          · rw [List.mem_append, not_or]
            exact ⟨hclean, hl⟩
          · change bytes ++ (take now pieces).1 = _
            rw [heq, List.append_assoc]
        · obtain ⟨hl, hleft⟩ := ih.pending hnone
          refine ⟨?_, hleft⟩
          rw [List.mem_append, not_or]
          exact ⟨hclean, hl⟩
      · -- the piece is cut behind its first line feed
        next feed rest hcons =>
        have hfeed : feed = LineBreak.byte.feed := by
          have hhead := List.head?_dropWhile_not (· ≠ LineBreak.byte.feed) bytes
          rw [hcons] at hhead
          simpa using hhead
        have hbytes : bytes = bytes.takeWhile (· ≠ LineBreak.byte.feed) ++
            [LineBreak.byte.feed] ++ rest := by
          rw [hcons, hfeed] at hcut
          rw [List.append_assoc]
          exact hcut.symm
        refine ⟨?_, fun t ht => ?_, fun _ => ⟨_, hclean, rfl⟩, nofun⟩
        · rw [List.flatMap_cons, List.flatMap_cons, ← List.append_assoc, ← hbytes]
        · rw [harrived t ht, harrived t ht, List.flatMap_cons, List.flatMap_cons,
            ← List.append_assoc, ← hbytes]

@[simp] theorem pieces_withPieces (stream other : Stream) (l : List (Instant × Bytes)) (c : Script) :
    (c.withPieces stream l).pieces other = if other = stream then l else c.pieces other := by
  cases stream <;> cases other <;> rfl

theorem look_child (stream : Stream) (c : Script) :
    (c.look child stream).2 = c.withPieces stream (take c.clock (c.pieces stream)).2.2 := by
  unfold look
  rw [if_neg (by simp)]

theorem look_of_ne {pid : Pid} (h : pid ≠ child) (stream : Stream) (c : Script) :
    (c.look pid stream).2 = c := by
  unfold look
  rw [if_pos h]

theorem pieces_onHost {a : Action} (ha : a.leavesOutput child) (c : Script) (stream : Stream) :
    (a.onHost c).pieces stream = c.pieces stream := by
  cases a with
  | look pid s =>
    change (c.look pid s).2.pieces stream = _
    rw [look_of_ne ha]
  | _ => cases stream <;> rfl

theorem delivers : Host.Delivers child unread where
  look stream c := by
    have h := takes c.clock (c.pieces stream)
    have hafter : unread stream (c.look child stream).2 =
        (take c.clock (c.pieces stream)).2.2.flatMap (·.2) := by
      unfold unread
      rw [look_child, pieces_withPieces, if_pos rfl]
    change (c.look child stream).1.Cuts _ (unread stream (c.look child stream).2)
    rw [hafter]
    unfold unread
    rw [h.all]
    unfold look
    rw [if_neg (by simp)]
    dsimp only
    cases hfound : (take c.clock (c.pieces stream)).2.1 with
    | true =>
      obtain ⟨l, hl, heq⟩ := h.line hfound
      rw [heq, List.append_assoc]
      exact .lineFeed hl
    | false =>
      obtain ⟨hclean, -⟩ := h.pending hfound
      by_cases hends : ((take c.clock (c.pieces stream)).2.2.isEmpty && c.closes) = true
      · have hnone : (take c.clock (c.pieces stream)).2.2 = [] := by
          simpa using (Bool.and_eq_true_iff.mp hends).1
        rw [hends, hnone]
        simpa using Arrival.Cuts.ended hclean
      · rw [Bool.not_eq_true] at hends
        rw [hends]
        exact .pending hclean
  other stream c := by
    change unread stream.other (c.look child stream).2 = _
    unfold unread
    rw [look_child, pieces_withPieces, if_neg stream.other_ne]
  rest a c ha stream := by
    unfold unread
    rw [pieces_onHost ha]

theorem look_keeps (pid : Pid) (stream : Stream) (c : Script) :
    (c.look pid stream).2.clock = c.clock ∧ (c.look pid stream).2.patience = c.patience := by
  by_cases hpid : pid = child
  · rw [hpid, look_child]
    cases stream with
    | out => exact ⟨rfl, rfl⟩
    | err => exact ⟨rfl, rfl⟩
  · rw [look_of_ne hpid]
    exact ⟨rfl, rfl⟩

theorem clock_lt_await {limit : Instant} {c : Script} (hlimit : c.clock < limit) (pid : Pid) :
    c.clock < c.await (.output pid) (some limit) := by
  let ends := [limit] ++ (c.next? .out).toList ++ (c.next? .err).toList
  have hnext (stream : Stream) (time : Instant) (h : time ∈ (c.next? stream).toList) :
      c.clock < time := by
    have hfind : ((c.pieces stream).map (·.1)).find? (c.clock < ·) = some time :=
      Option.mem_toList.mp h
    simpa using List.find?_some hfind
  have hends : ∀ time ∈ ends, c.clock < time := by
    intro time htime
    rcases List.mem_append.mp htime with hleft | herr
    · rcases List.mem_append.mp hleft with hfirst | hout
      · rw [List.mem_singleton.mp hfirst]
        exact hlimit
      · exact hnext .out time hout
    · exact hnext .err time herr
  change c.clock < max c.clock (ends.min?.getD c.clock)
  cases hmin : ends.min? with
  | none => exact absurd (List.min?_eq_none_iff.mp hmin) (List.cons_ne_nil _ _)
  | some time =>
    exact Nat.lt_of_lt_of_le (hends time (List.min?_mem hmin)) (Nat.le_max_right c.clock time)

/-- Where nothing has arrived that is not read, the next arrival is the first later piece. -/
theorem find?_of_arrived {now time : Instant} (hnow : now ≤ time) {pieces : List (Instant × Bytes)}
    (hnone : (pieces.takeWhile (·.1 ≤ now)).flatMap (·.2) = [])
    (hsome : (pieces.takeWhile (·.1 ≤ time)).flatMap (·.2) ≠ []) :
    ∃ next, (pieces.map (·.1)).find? (now < ·) = some next ∧ next ≤ time := by
  induction pieces with
  | nil => exact absurd rfl hsome
  | cons piece pieces ih =>
    by_cases hhere : piece.1 ≤ now
    · -- what has arrived brings no bytes
      have hearly : ¬ now < piece.1 := Nat.not_lt_of_le hhere
      rw [List.takeWhile_cons, if_pos (decide_eq_true hhere), List.flatMap_cons,
        List.append_eq_nil_iff] at hnone
      rw [List.takeWhile_cons, if_pos (decide_eq_true (hhere.trans hnow)), List.flatMap_cons,
        hnone.1, List.nil_append] at hsome
      rw [List.map_cons, List.find?_cons, decide_eq_false hearly]
      exact ih hnone.2 hsome
    · have hlater : now < piece.1 := Nat.lt_of_not_le hhere
      refine ⟨piece.1, ?_, ?_⟩
      · rw [List.map_cons, List.find?_cons, decide_eq_true hlater]
      · by_contra htime
        rw [List.takeWhile_cons, if_neg (by simpa using htime)] at hsome
        exact hsome rfl

theorem await_le {limit : Option Instant} {stream : Stream} {time : Instant} {c : Script}
    (hnow : c.clock ≤ time) (hnone : arrived stream c.clock c = [])
    (hsome : arrived stream time c ≠ []) (pid : Pid) : c.await (.output pid) limit ≤ time := by
  let ends := limit.toList ++ (c.next? .out).toList ++ (c.next? .err).toList
  obtain ⟨next, hnext, hle⟩ := find?_of_arrived hnow hnone hsome
  have hnext : c.next? stream = some next := hnext
  have hmem : next ∈ ends := by
    cases stream with
    | out => simp [ends, hnext]
    | err => simp [ends, hnext]
  change max c.clock (ends.min?.getD c.clock) ≤ time
  exact max_le hnow ((List.min?_getD_le_of_mem hmem).trans hle)

theorem flatMap_prefix {l l' : List (Instant × Bytes)} (h : l <+: l') :
    l.flatMap (·.2) <+: l'.flatMap (·.2) := by
  obtain ⟨rest, rfl⟩ := h
  rw [List.flatMap_append]
  exact List.prefix_append _ _

theorem takeWhile_prefix_of_le {time later : Instant} (hle : time ≤ later)
    (pieces : List (Instant × Bytes)) :
    pieces.takeWhile (·.1 ≤ time) <+: pieces.takeWhile (·.1 ≤ later) := by
  induction pieces with
  | nil => exact List.prefix_rfl
  | cons piece pieces ih =>
    by_cases hhere : piece.1 ≤ time
    · have hlater : piece.1 ≤ later := hhere.trans hle
      rw [List.takeWhile_cons, if_pos (decide_eq_true hhere), List.takeWhile_cons,
        if_pos (decide_eq_true hlater), List.cons_prefix_cons]
      exact ⟨rfl, ih⟩
    · rw [List.takeWhile_cons, if_neg (by simpa using hhere)]
      exact List.nil_prefix

/-- What has arrived by a later time is what a look brings and what has arrived of the rest; what a
look without a line feed leaves has not arrived yet. -/
theorem look_arrived (stream : Stream) (c : Script) :
    (∀ time, c.clock ≤ time → arrived stream time c =
      (c.look child stream).1.bytes ++ arrived stream time (c.look child stream).2) ∧
    ((c.look child stream).1.stop = .pending →
      arrived stream c.clock (c.look child stream).2 = []) := by
  have h := takes c.clock (c.pieces stream)
  have hbytes : (c.look child stream).1.bytes = (take c.clock (c.pieces stream)).1 := by
    unfold look
    rw [if_neg (by simp)]
  have hleft (time : Instant) : arrived stream time (c.look child stream).2 =
      ((take c.clock (c.pieces stream)).2.2.takeWhile (·.1 ≤ time)).flatMap (·.2) := by
    unfold arrived
    rw [look_child, pieces_withPieces, if_pos rfl]
  refine ⟨fun time htime => ?_, fun hstop => ?_⟩
  · rw [hbytes, hleft]
    exact h.upTo time htime
  · have hfound : (take c.clock (c.pieces stream)).2.1 = false := by
      by_contra hfeed
      rw [Bool.not_eq_false] at hfeed
      unfold look at hstop
      simp [hfeed] at hstop
    rw [hleft, (h.pending hfound).2]
    rfl

theorem punctual : Host.IsPunctual child unread arrived where
  toDelivers := delivers
  alive _ _ := nofun
  patience a c := by
    cases a with
    | look pid stream => exact (look_keeps pid stream c).2
    | _ => rfl
  instant a c ha := by
    cases a with
    | look pid stream => exact (look_keeps pid stream c).1
    | await _ _ _ | capture _ _ => exact absurd ha nofun
    | _ => rfl
  sleeps _ _ := rfl
  waits _ c hlimit _ := clock_lt_await hlimit child
  wakes _ c _ _ hnow hnone hsome := await_le hnow hnone hsome child
  early _ _ _ := flatMap_prefix (List.takeWhile_prefix _)
  grows stream _ _ c hle := flatMap_prefix (takeWhile_prefix_of_le hle (c.pieces stream))
  keeps a c ha stream time := by
    unfold arrived
    rw [pieces_onHost ha]
  takes stream time c hnow := (look_arrived stream c).1 time hnow
  spares stream time c := by
    change arrived stream.other time (c.look child stream).2 = _
    unfold arrived
    rw [look_child, pieces_withPieces, if_neg stream.other_ne]
  drains stream c hstop := (look_arrived stream c).2 hstop

end LatencyHarness.Simulation.Script
