import LatencyHarness.Proofs.Delivery

/-! What the console shows of one child.

The lines of a child are echoed behind its label, and nothing else is printed that begins like that.
So the echoing of other children adds nothing under the label, and a turn of the child's own
forwarder adds just the lines that it has taken off the child's streams. -/
namespace LatencyHarness

open Text.Utf8 (Bytes decodeLossy)

/-! ### Lines under a label -/

/-- What stands before the text of an echoed line. -/
def labelMark (label : String) : List Char := s!"   {label}: ".toList

/-- A line of the console that begins like the echoed lines of a child. -/
def IsUnder (label line : String) : Prop := labelMark label <+: line.toList

instance (label line : String) : Decidable (IsUnder label line) :=
  inferInstanceAs (Decidable (labelMark label <+: line.toList))

theorem toList_echoText (label : String) (text : List Char) :
    (Task.echoText label text).toList = labelMark label ++ text := by
  simp [Task.echoText, labelMark, toString]

theorem isUnder_echoText (label : String) (text : List Char) :
    IsUnder label (Task.echoText label text) :=
  ⟨text, (toList_echoText label text).symm⟩

/-- No line is under both of the labels. -/
def Apart (label label' : String) : Prop := ∀ line, IsUnder label line → ¬ IsUnder label' line

theorem Role.name_apart {a b : Role} (h : a ≠ b) : Apart a.name b.name := by
  intro line ha hb
  have hprefix : labelMark a.name <+: labelMark b.name ∨ labelMark b.name <+: labelMark a.name :=
    List.prefix_or_prefix_of_prefix ha hb
  cases a <;> cases b <;> first | exact h rfl | exact absurd hprefix (by decide)

/-- A line that does not begin with a blank is under no label. -/
theorem not_isUnder {label line : String} (h : line.toList.head? ≠ some ' ') :
    ¬ IsUnder label line := by
  rintro ⟨text, htext⟩
  refine h ?_
  rw [← htext]
  simp [labelMark, toString]

namespace Journal

/-- The lines of the console that are under a label, the oldest first. -/
def under (label : String) (j : Journal) : List String := j.console.filter (IsUnder label ·)

variable {label : String} {j : Journal}

theorem under_append (new old : Journal) :
    under label (new ++ old) = under label old ++ under label new := by
  unfold under console
  rw [List.reverse_append, List.filterMap_append, List.filter_append]

theorem under_cons (e : Event) :
    under label (e :: j) = under label j ++ e.console?.toList.filter (IsUnder label ·) := by
  unfold under console
  rw [List.reverse_cons, List.filterMap_append, List.filter_append]
  cases h : e.console? <;> simp [h]

theorem under_cons_of_under {line : String} (h : IsUnder label line) :
    under label (.line line :: j) = under label j ++ [line] := by
  rw [under_cons]
  simp [Event.console?, h]

theorem under_cons_of_not {e : Event} (h : ∀ line, e.console? = some line → ¬ IsUnder label line) :
    under label (e :: j) = under label j := by
  rw [under_cons]
  cases he : e.console? with
  | none => simp
  | some line => simp [h line he]

end Journal

variable {σ : Type} [Host σ]

/-! ### A turn of a forwarder -/

namespace Forwarder

/-- The events by which some lines are echoed, the newest first. -/
def echoes (label : String) (lines : List Bytes) : Journal :=
  (lines.map fun bytes => .line (Task.echoText label (decodeLossy bytes))).reverse

/-- A forwarder has taken some lines off the streams of its child and echoed them. -/
structure Forwards (f : Forwarder) (s : Session σ) (lines : List Bytes) (f' : Forwarder)
    (s' : Session σ) : Prop where
  pid : f'.pid = f.pid
  label : f'.label = f.label
  forwarders : s'.forwarders = s.forwarders
  journal : s'.journal = echoes f.label lines ++ s.journal
  gives : ∀ unread, Host.Delivers f.pid unread → f.reader.Agrees unread s.host →
    ∃ l, l.map (·.2) = lines ∧ f.reader.Gives unread s.host l f'.reader s'.host

variable {f f' f'' : Forwarder} {s s' s'' : Session σ} {lines lines' : List Bytes}

omit [Host σ] in
theorem console_echoes (label : String) (lines : List Bytes) :
    (echoes label lines).console =
      lines.map fun bytes => Task.echoText label (decodeLossy bytes) := by
  unfold echoes Journal.console
  rw [List.reverse_reverse, List.filterMap_map, ← List.filterMap_eq_map]
  rfl

theorem Forwards.refl (f : Forwarder) (s : Session σ) : f.Forwards s [] f s where
  pid := rfl
  label := rfl
  forwarders := rfl
  journal := rfl
  gives _ _ hr := ⟨[], rfl, .of_eq hr fun _ => rfl⟩

theorem Forwards.trans (h : f.Forwards s lines f' s') (h' : f'.Forwards s' lines' f'' s'') :
    f.Forwards s (lines ++ lines') f'' s'' where
  pid := h'.pid.trans h.pid
  label := h'.label.trans h.label
  forwarders := h'.forwarders.trans h.forwarders
  journal := by
    unfold echoes
    rw [h'.journal, h.journal, h.label, List.map_append, List.reverse_append, List.append_assoc]
    rfl
  gives unread hd hr := by
    obtain ⟨l, hl, hgives⟩ := h.gives unread hd hr
    obtain ⟨l', hl', hgives'⟩ := h'.gives unread (h.pid ▸ hd) hgives.agrees
    refine ⟨l ++ l', ?_, hgives.trans hgives'⟩
    rw [List.map_append, hl, hl']

/-- The lines of a child are echoed behind its own label, each once. -/
theorem Forwards.under_own (h : f.Forwards s lines f' s') :
    s'.journal.under f.label = s.journal.under f.label ++
      lines.map fun bytes => Task.echoText f.label (decodeLossy bytes) := by
  rw [h.journal, Journal.under_append, Journal.under, Journal.under, console_echoes]
  refine congrArg _ (List.filter_eq_self.mpr fun line hline => ?_)
  obtain ⟨bytes, -, rfl⟩ := List.mem_map.mp hline
  exact decide_eq_true (isUnder_echoText f.label _)

/-- Nothing of them is printed behind a label that is apart from it. -/
theorem Forwards.under_apart (h : f.Forwards s lines f' s') {label : String}
    (ha : Apart f.label label) : s'.journal.under label = s.journal.under label := by
  rw [h.journal, Journal.under_append, Journal.under, Journal.under, console_echoes]
  refine (congrArg _ (List.filter_eq_nil_iff.mpr fun line hline => ?_)).trans (List.append_nil _)
  obtain ⟨bytes, -, rfl⟩ := List.mem_map.mp hline
  simpa using ha _ (isUnder_echoText f.label _)

/-- A forwarder of another child, under a label that is apart from the child's own. -/
def IsOther (pid : Pid) (label : String) (f : Forwarder) : Prop := f.pid ≠ pid ∧ Apart f.label label

end Forwarder

namespace Task

open Forwarder (Forwards)

theorem lookOnce_keeps (pid : Pid) (r : LineReader) (s : Session σ) :
    Ends (lookOnce pid r : Task σ _) s
      (fun _ s' => s'.journal = s.journal ∧ s'.forwarders = s.forwarders) fun _ _ => False := by
  have hlook (stream : Stream) (r : LineReader) (t : Session σ) :
      Ends (lookAt pid stream r : Task σ _) t
        (fun _ t' => t'.journal = t.journal ∧ t'.forwarders = t.forwarders) fun _ _ => False := by
    unfold lookAt
    split
    · exact And.intro rfl rfl
    · exact And.intro rfl rfl
  have hfirst : Ends (perform Host.firstStream : Task σ _) s
      (fun _ s' => s'.journal = s.journal ∧ s'.forwarders = s.forwarders) fun _ _ => False :=
    And.intro rfl rfl
  refine hfirst.bind fun stream s₁ h₁ => (hlook stream r s₁).bind fun (r₁, e) s₂ h₂ => ?_
  cases e with
  | some e => exact And.intro (h₂.1.trans h₁.1) (h₂.2.trans h₁.2)
  | none =>
    refine (hlook stream.other r₁ s₂).mono (fun _ _ h₃ => ?_) fun _ _ h => h
    exact And.intro (h₃.1.trans (h₂.1.trans h₁.1)) (h₃.2.trans (h₂.2.trans h₁.2))

/-- One look of a forwarder, with what it prints of it. -/
theorem lookOnce_forwards (f : Forwarder) (s : Session σ) :
    Ends (lookOnce f.pid f.reader.renew : Task σ _) s
      (fun x s' =>
        match x.2 with
        | some (.line bytes) => f.Forwards s [bytes] { f with reader := x.1 }
            ((Action.note (.line (echoText f.label (decodeLossy bytes)))).apply s')
        | some .streamClosed | some .allClosed | none =>
          f.Forwards s [] { f with reader := x.1 } s')
      fun _ _ => False := by
  refine ((lookOnce_keeps f.pid f.reader.renew s).and (Ends.self _ s)).mono ?_ fun _ _ h => h.1
  rintro ⟨r, e⟩ s' ⟨⟨hjournal, hforwarders⟩, hrun⟩
  have hgives : ∀ unread, Host.Delivers f.pid unread → f.reader.Agrees unread s.host →
      ∃ l, l.map (·.2) = (e.bind ReadEvent.line?).toList ∧
        f.reader.Gives unread s.host l r s'.host := by
    intro unread hd hr
    have hrenew := LineReader.Gives.renew hr
    obtain ⟨l, hl, hlook, -⟩ := (lookOnce_gives hd hrenew.agrees).of_ok hrun
    exact ⟨l, hl, hrenew.trans hlook⟩
  match e, hgives with
  | none, hgives | some .streamClosed, hgives | some .allClosed, hgives =>
    exact ⟨rfl, rfl, hforwarders, hjournal, hgives⟩
  | some (.line bytes), hgives =>
    refine ⟨rfl, rfl, hforwarders, congrArg _ hjournal, fun unread hd hr => ?_⟩
    -- the note does not touch the output
    obtain ⟨l, hl, hlook⟩ := hgives unread hd hr
    have hnoted := LineReader.Gives.of_eq hlook.agrees
      (hd.rest (.note (.line (echoText f.label (decodeLossy bytes)))) s'.host trivial)
    refine ⟨l ++ [], ?_, hlook.trans hnoted⟩
    rw [List.append_nil]
    exact hl

/-- What a turn of a forwarder prints are the lines that it takes off the streams of its child. -/
theorem forward_forwards (fuel : Nat) (f : Forwarder) (s : Session σ) :
    Ends (forward fuel f : Task σ _) s (fun f' s' => ∃ lines, f.Forwards s lines f' s')
      fun _ _ => False := by
  -- the forwarder goes into its next look with another reader
  induction fuel generalizing f s with
  | zero => exact ⟨[], .refl f s⟩
  | succ fuel ih =>
    have hnext {s₁ : Session σ} {lines : List Bytes} {f₁ : Forwarder}
        (h₁ : f.Forwards s lines f₁ s₁) : Ends (forward fuel f₁ : Task σ _) s₁
          (fun f' s' => ∃ lines, f.Forwards s lines f' s') fun _ _ => False :=
      (ih f₁ s₁).mono (fun _ _ ⟨lines', h'⟩ => ⟨lines ++ lines', h₁.trans h'⟩) fun _ _ h => h
    change Ends (if f.reader.isClosed then _ else _) s _ _
    split
    · exact ⟨[], .refl f s⟩
    · refine (lookOnce_forwards f s).bind fun (r, e) s₁ h₁ => ?_
      match e with
      | none | some .allClosed => exact ⟨[], h₁⟩
      | some .streamClosed => exact hnext h₁
      | some (.line bytes) => exact ends_emit_bind (hnext h₁)

variable {pid : Pid} {label : String}

/-- The turns of the forwarders of other children print nothing under the label of a child, and
leave its output to its own. -/
theorem forwardEach_others (fuel : Nat) {fs : List Forwarder}
    (hfs : ∀ f ∈ fs, f.IsOther pid label) (s : Session σ) :
    Ends (fs.mapM (forward fuel) : Task σ _) s
      (fun fs' s' => (∀ f ∈ fs', f.IsOther pid label) ∧
        s'.journal.under label = s.journal.under label ∧ s'.forwarders = s.forwarders ∧
        ∀ unread, Host.Delivers pid unread → ∀ stream, unread stream s'.host = unread stream s.host)
      fun _ _ => False := by
  induction fs generalizing s with
  | nil => exact ⟨nofun, rfl, rfl, fun _ _ _ => rfl⟩
  | cons f fs ih =>
    obtain ⟨⟨hpid, hapart⟩, hrest⟩ := List.forall_mem_cons.mp hfs
    rw [List.mapM_cons]
    have hmem : f.pid ∈ [f.pid] := List.mem_cons_self
    have hturn := (forward_forwards fuel f s).and (forward_echoes fuel hmem s)
    refine (hturn.mono (fun _ _ h => h) fun _ _ h => h.1).bind ?_
    rintro f' s₁ ⟨⟨lines, h₁⟩, -, hreach⟩
    refine (ih hrest s₁).bind ?_
    rintro fs' s₂ ⟨hfs', hunder, hforwarders, hunread⟩
    have hf' : f'.IsOther pid label := by
      unfold Forwarder.IsOther
      rw [h₁.pid, h₁.label]
      exact ⟨hpid, hapart⟩
    have hleft : s.Reaches (Action.leavesOutput pid) s₁ :=
      hreach.mono fun _ => Action.leavesOutput_of_isEcho (by simpa using hpid.symm)
    refine ⟨List.forall_mem_cons.mpr ⟨hf', hfs'⟩, hunder.trans (h₁.under_apart hapart),
      hforwarders.trans h₁.forwarders, fun unread hd stream => ?_⟩
    rw [hunread unread hd, hd.unread_eq hleft]

end Task

/-! ### A turn of all forwarders -/

/-- One forwarder echoes the output of a child, under the label, and those of other children are
apart from it. -/
structure Session.HasForwarder (s : Session σ) (pid : Pid) (label : String) (f : Forwarder) :
    Prop where
  own : s.forwarders.filter (·.pid = pid) = [f]
  labelled : f.label = label
  others : ∀ g ∈ s.forwarders, g.pid ≠ pid → Apart g.label label

namespace Session.HasForwarder

variable {s : Session σ} {pid : Pid} {label : String} {f g : Forwarder}

omit [Host σ] in
theorem mem (h : s.HasForwarder pid label f) : f ∈ s.forwarders ∧ f.pid = pid := by
  have hmem : f ∈ s.forwarders.filter (·.pid = pid) := by
    rw [h.own]
    exact List.mem_singleton_self f
  simpa using hmem

omit [Host σ] in
theorem eq_of_mem (h : s.HasForwarder pid label f) (hg : g ∈ s.forwarders) (hpid : g.pid = pid) :
    g = f := by
  have hmem : g ∈ s.forwarders.filter (·.pid = pid) := List.mem_filter.mpr ⟨hg, by simpa using hpid⟩
  rwa [h.own, List.mem_singleton] at hmem

end Session.HasForwarder

namespace Task

variable {unread : Stream → σ → Bytes} {pid : Pid} {label : String} {f : Forwarder}

theorem forwardEach_own (fuel : Nat) {before after : List Forwarder}
    (hd : Host.Delivers f.pid unread)
    (hbefore : ∀ g ∈ before, g.IsOther f.pid f.label)
    (hafter : ∀ g ∈ after, g.IsOther f.pid f.label) {s : Session σ}
    (hr : f.reader.Agrees unread s.host) :
    Ends ((before ++ f :: after).mapM (forward fuel) : Task σ _) s
      (fun fs s' => ∃ bs f' as l, fs = bs ++ f' :: as ∧ (∀ g ∈ bs, g.IsOther f.pid f.label) ∧
        (∀ g ∈ as, g.IsOther f.pid f.label) ∧ f'.pid = f.pid ∧ f'.label = f.label ∧
        f.reader.Gives unread s.host l f'.reader s'.host ∧
        s'.journal.under f.label = s.journal.under f.label ++
          l.map fun x => echoText f.label (decodeLossy x.2))
      fun _ _ => False := by
  rw [List.mapM_append, List.mapM_cons]
  simp only [bind_assoc, pure_bind]
  refine (forwardEach_others fuel hbefore s).bind ?_
  rintro bs s₁ ⟨hbs, hunder₁, -, hunread₁⟩
  have h₁ := LineReader.Gives.of_eq hr (hunread₁ unread hd)
  refine (forward_forwards fuel f s₁).bind ?_
  rintro f' s₂ ⟨lines, h₂⟩
  obtain ⟨l, rfl, hgives⟩ := h₂.gives unread hd h₁.agrees
  refine (forwardEach_others fuel hafter s₂).bind ?_
  rintro as s₃ ⟨has, hunder₃, -, hunread₃⟩
  have h₃ := LineReader.Gives.of_eq hgives.agrees (hunread₃ unread hd)
  refine ⟨bs, f', as, [] ++ l ++ [], rfl, hbs, has, h₂.pid, h₂.label,
    (h₁.trans hgives).trans h₃, ?_⟩
  rw [hunder₃, h₂.under_own, hunder₁, List.map_map, List.nil_append, List.append_nil]
  rfl

/-- In a turn of all forwarders the lines that are taken from a child are printed under its label,
and nothing else is. -/
theorem forwardAll_forwards {s : Session σ} (hs : s.HasForwarder pid label f)
    (hd : Host.Delivers pid unread) (hr : f.reader.Agrees unread s.host) :
    Ends (forwardAll : Task σ Unit) s
      (fun _ s' => ∃ f' l, s'.HasForwarder pid label f' ∧
        f.reader.Gives unread s.host l f'.reader s'.host ∧
        s'.journal.under label = s.journal.under label ++
          l.map fun x => echoText label (decodeLossy x.2))
      fun _ _ => False := by
  obtain ⟨before, after, hsplit, hbefore, hpid, hafter⟩ := List.filter_eq_cons_iff.mp hs.own
  obtain rfl : f.pid = pid := of_decide_eq_true hpid
  obtain rfl := hs.labelled
  have hother {g : Forwarder} (hg : g ∈ s.forwarders) (hne : g.pid ≠ f.pid) :
      g.IsOther f.pid f.label := ⟨hne, hs.others g hg hne⟩
  have hbefore' : ∀ g ∈ before, g.IsOther f.pid f.label := fun g hg =>
    hother (by simp [hsplit, hg]) (by simpa using hbefore g hg)
  have hafter' : ∀ g ∈ after, g.IsOther f.pid f.label := fun g hg =>
    hother (by simp [hsplit, hg]) (by simpa using List.filter_eq_nil_iff.mp hafter g hg)
  refine ends_ask_bind (Ends.get_bind ?_)
  rw [hsplit]
  refine (forwardEach_own _ hd hbefore' hafter' hr).bind ?_
  rintro fs s' ⟨bs, f', as, l, rfl, hbs, has, hpid', hlabel', hgives, hunder⟩
  have hnone {gs : List Forwarder} (hgs : ∀ g ∈ gs, g.IsOther f.pid f.label) :
      gs.filter (·.pid = f.pid) = [] := by
    rw [List.filter_eq_nil_iff]
    exact fun g hg => by simpa using (hgs g hg).1
  refine ⟨f', l, ⟨?_, hlabel', fun g hg hne => ?_⟩, hgives, hunder⟩
  · change (bs ++ f' :: as).filter _ = [f']
    rw [List.filter_append, hnone hbs, List.filter_cons_of_pos (by simpa using hpid'), hnone has]
    rfl
  · rcases List.mem_append.mp hg with hg | hg
    · exact (hbs g hg).2
    · rcases List.mem_cons.mp hg with rfl | hg
      · exact absurd hpid' hne
      · exact (has g hg).2

end Task

/-! ### While nothing is echoed under a label -/

/-- The actions that print nothing under a label, and leave it alone who is echoed. -/
def Action.IsMute (label : String) : Action → Prop
  | note e => ∀ line, e.console? = some line → ¬ IsUnder label line
  | forwarders _ => False
  | _ => True

namespace Session

variable {pid : Pid} {label : String} {s s' s'' : Session σ}

/-- All that is echoed is of other children, under other labels. -/
def Others (s : Session σ) (pid : Pid) (label : String) : Prop :=
  ∀ f ∈ s.forwarders, f.IsOther pid label

omit [Host σ] in
theorem Others.leaves (h : s.Others pid label) : s.Leaves pid := fun f hf => (h f hf).1

/-- From one session to the other nothing has been printed under a label. -/
structure Hushed (pid : Pid) (label : String) (s s' : Session σ) : Prop where
  others : s'.Others pid label
  under : s'.journal.under label = s.journal.under label

omit [Host σ] in
theorem Hushed.trans (h : Hushed pid label s s') (h' : Hushed pid label s' s'') :
    Hushed pid label s s'' :=
  ⟨h'.others, h'.under.trans h.under⟩

theorem Reaches.under_eq (h : s.Reaches (Action.IsMute label) s') :
    s'.journal.under label = s.journal.under label ∧ s'.forwarders = s.forwarders := by
  refine h.keeps (P := fun t => t.journal.under label = s.journal.under label ∧
    t.forwarders = s.forwarders) (fun t a ha ht => ?_) ⟨rfl, rfl⟩
  cases a with
  | note e => exact ⟨(Journal.under_cons_of_not ha).trans ht.1, ht.2⟩
  | forwarders fs => exact ha.elim
  | _ => exact ht

theorem Reaches.hushed (h : s.Reaches (Action.IsMute label) s') (hs : s.Others pid label) :
    Hushed pid label s s' := by
  obtain ⟨hunder, hforwarders⟩ := h.under_eq
  refine ⟨fun f hf => hs f ?_, hunder⟩
  rwa [← hforwarders]

end Session

namespace Task

variable {α β : Type} {pid : Pid} {label : String} {t : Task σ α} {f : α → Task σ β}

/-- A task that prints nothing under a label while all that is echoed is of other children. -/
def Hushes (pid : Pid) (label : String) (t : Task σ α) : Prop :=
  ∀ s : Session σ, s.Others pid label →
    Ends t s (fun _ s' => s.Hushed pid label s') fun _ _ => True

namespace Hushes

theorem of_within (h : t.Within (Action.IsMute label)) : t.Hushes pid label := fun s hs =>
  (h s).weaken fun _ _ hreach => hreach.hushed hs

omit [Host σ] in
theorem bind (ht : t.Hushes pid label) (hf : ∀ a, (f a).Hushes pid label) :
    (t >>= f).Hushes pid label := fun s hs =>
  (ht s hs).bind fun a s₁ h₁ => (hf a s₁ h₁.others).weaken fun _ _ h₂ => h₁.trans h₂

theorem isClosed : IsClosed fun α (t : Task σ α) => t.Hushes pid label where
  pure a := of_within (.pure a)
  bind := bind

end Hushes

/-- A request for shutdown is announced under no label. -/
theorem isMute_announcement {text : String}
    (htext : text ∈ ["", "⚠️  Interrupted, cleaning up..."]) :
    (Action.note (.line text)).IsMute label := by
  intro line hline
  obtain rfl := Option.some.inj hline
  simp only [List.mem_cons, List.not_mem_nil, or_false] at htext
  rcases htext with rfl | rfl
  · exact not_isUnder (by decide)
  · exact not_isUnder (by decide)

theorem hushes_listen : (listen : Task σ Unit).Hushes pid label :=
  .of_within (within_listen trivial trivial nofun fun _ htext => isMute_announcement htext)

theorem hushes_forwardAll : (forwardAll : Task σ Unit).Hushes pid label := by
  intro s hs
  refine ends_ask_bind (Ends.get_bind ?_)
  refine (forwardEach_others _ hs s).of_total.bind ?_
  rintro fs s₁ ⟨hfs, hunder, -, -⟩
  exact ⟨hfs, hunder⟩

theorem hushes_await (w : Wait) (limit : Option Instant) :
    (await w limit : Task σ Unit).Hushes pid label := by
  intro s hs
  let s₁ := (Action.await w limit s.interruptible).apply s
  have hcatchUp : (do listen; forwardAll; checkpoint : Task σ Unit).Hushes pid label :=
    hushes_listen.bind fun _ => hushes_forwardAll.bind fun _ => .of_within within_checkpoint
  exact (hcatchUp s₁ hs).weaken fun _ _ h => ⟨h.others, h.under⟩

theorem hushes_sleep (d : Millis) : (sleep d : Task σ Unit).Hushes pid label :=
  (Hushes.of_within (within_ask _)).bind fun _ => hushes_await _ _

end Task

theorem Reading.hushes_covers (pid : Pid) (label : String) :
    Covers pid fun α (t : Task σ α) => t.Hushes pid label where
  toIsClosed := Task.Hushes.isClosed
  now := .of_within (Task.within_ask _)
  patience := .of_within (Task.within_ask _)
  look r :=
    .of_within (Task.within_lookOnce (A := Action.IsMute label) trivial (fun _ => trivial) r)
  await _ := Task.hushes_await _ _
  exhausted := .of_within (.throw _)

end LatencyHarness
