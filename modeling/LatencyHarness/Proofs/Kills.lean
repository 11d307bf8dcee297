import LatencyHarness.Proofs.Bench
import LatencyHarness.Proofs.Calm
import LatencyHarness.Proofs.Conduct
import Mathlib.Algebra.Group.Int.Defs
import Mathlib.Algebra.Group.Nat.Defs

/-! Whom a reclamation kills.

What the probes report is not trusted: an id may be that of the harness, of the first process, of a
group if its 32 bits are read as a signed number, or of nobody. A reclamation passes over all of
these and comes to each of the others, whatever has become of the signals before. -/
namespace LatencyHarness

variable {σ : Type} [Host σ] {α β : Type}

/-- The number by which the operating system is told of a recipient: the 32 bits of the id as a
signed number, negated for a group. -/
def Recipient.number : Recipient → Int
  | .process pid => pid.toBitVec.toInt
  | .group leader => -leader.toBitVec.toInt

theorem Recipient.number_process {pid : Pid} (h : pid.toNat < 2 ^ 31) :
    (Recipient.process pid).number = pid.toNat := by
  apply BitVec.toInt_eq_toNat_of_lt
  have hpid : pid.toBitVec.toNat = pid.toNat := rfl
  omega

theorem isNone_osPid? (pid : Pid) : (osPid? pid).isNone = true ↔ 2 ^ 31 ≤ pid.toNat := by
  unfold osPid? maxOsPid
  split <;> simp <;> omega

namespace Session

variable {s s' t t' : Session σ}

/-- On the way from one session to the other an action is done. -/
def Does (s : Session σ) (a : Action) (s' : Session σ) : Prop :=
  ∃ u, s.Precedes u ∧ (a.apply u).Precedes s'

theorem Does.widen {a : Action} (h : s.Does a s') (ht : t.Precedes s) (ht' : s'.Precedes t') :
    t.Does a t' := by
  obtain ⟨u, hu, hu'⟩ := h
  exact ⟨u, ht.trans hu, hu'.trans ht'⟩

/-- On the way from one session to the other an event is noted that is logged as a warning. -/
def Warns (s : Session σ) (e : Event) (s' : Session σ) : Prop :=
  (∃ text, e.logged? = some (.warn, text)) ∧ s.Does (.note e) s'

/-- On the way from one session to the other a probe is asked, and with the second session it has
answered. -/
def Finds (s : Session σ) (question : Probe σ × Request)
    (answer : Except SystemError (List Target)) (s' : Session σ) : Prop :=
  ∃ u, s.Precedes u ∧ question.1.discover question.2 u = .ok answer s'

theorem Finds.widen {question : Probe σ × Request} {answer : Except SystemError (List Target)}
    (h : s.Finds question answer s') (ht : t.Precedes s) : t.Finds question answer s' := by
  obtain ⟨u, hu, hfound⟩ := h
  exact ⟨u, ht.trans hu, hfound⟩

/-- The processes that some probes have reported on the way from one session to the other. -/
def Reported (s : Session σ) (questions : List (Probe σ × Request)) (s' : Session σ) (pid : Pid) :
    Prop :=
  ∃ question ∈ questions, ∃ targets u, s.Finds question (.ok targets) u ∧ u.Precedes s' ∧
    ∃ x ∈ targets, x.pid = pid

theorem Reported.widen {qs qs' : List (Probe σ × Request)} {pid : Pid}
    (h : s.Reported qs s' pid) (hqs : qs ⊆ qs') (ht : t.Precedes s) (ht' : s'.Precedes t') :
    t.Reported qs' t' pid := by
  obtain ⟨question, hq, targets, u, hfound, hu, hx⟩ := h
  exact ⟨question, hqs hq, targets, u, hfound.widen ht, hu.trans ht', hx⟩

end Session

/-- A signal that may be sent: to kill a single process that is one of the victims, by a number
that stands for it, and that is neither the first process nor the harness. -/
structure MayKill (own : Pid) (victims : Pid → Prop) (signal : Signal) (r : Recipient) : Prop where
  kills : signal = .kill
  least : 2 ≤ r.number
  most : r.number ≤ 2 ^ 31 - 1
  other : r.number ≠ own.toNat
  victim : ∃ pid, victims pid ∧ r = .process pid ∧ r.number = pid.toNat

/-- The actions by which nobody but certain victims is signalled. -/
def Action.killsOnly (own : Pid) (victims : Pid → Prop) : Action → Prop
  | signal s r | note (.sent s r) => MayKill own victims s r
  | _ => True

section Kinds

variable {own : Pid} {V W : Pid → Prop}

theorem MayKill.mono {signal : Signal} {r : Recipient} (h : MayKill own V signal r)
    (hVW : ∀ pid, V pid → W pid) : MayKill own W signal r := by
  obtain ⟨pid, hpid, hr, hnumber⟩ := h.victim
  exact ⟨h.kills, h.least, h.most, h.other, pid, hVW pid hpid, hr, hnumber⟩

theorem MayKill.of_lt {pid : Pid} (hspared : ¬(pid ≤ 1 ∨ pid = own)) (hlt : pid.toNat < 2 ^ 31)
    (hV : V pid) : MayKill own V .kill (.process pid) := by
  have hnumber := Recipient.number_process hlt
  obtain ⟨hone, hself⟩ := not_or.mp hspared
  have hleast : 1 < pid.toNat := by
    apply Nat.lt_of_not_le
    intro h
    exact hone (UInt32.le_iff_toNat_le.mpr h)
  have hne : pid.toNat ≠ own.toNat := fun h => hself (UInt32.toNat.inj h)
  refine ⟨rfl, ?_, ?_, ?_, pid, hV, rfl, hnumber⟩
  · rw [hnumber]
    omega
  · rw [hnumber]
    omega
  · rw [hnumber]
    omega

namespace Action

theorem killsOnly_mono (hVW : ∀ pid, V pid → W pid) (a : Action) (h : a.killsOnly own V) :
    a.killsOnly own W := by
  cases a with
  | signal s r => exact h.mono hVW
  | note e =>
    cases e with
    | sent s r => exact MayKill.mono h hVW
    | _ => trivial
  | _ => trivial

theorem killsOnly_of_sendsNothing (a : Action) (h : a.sendsNothing = true) :
    a.killsOnly own V := by
  cases a with
  | signal s r => exact absurd h nofun
  | note e =>
    cases e with
    | sent s r => exact absurd h nofun
    | _ => trivial
  | _ => trivial

theorem sendsNothing_of_isWaiting {a : Action} (h : a.isWaiting = true) : a.sendsNothing = true :=
  sendsNothing_of_isSearching (isSearching_of_isWaiting h)

end Action

end Kinds

/-- A process keeps its id. -/
def Host.KeepsPid (σ : Type) [Host σ] : Prop :=
  ∀ (a : Action) (h : σ), Host.selfPid (a.onHost h) = Host.selfPid h

namespace Session

variable {s s' s'' t t' : Session σ} {V W : Pid → Prop}

theorem Reaches.selfPid_eq (hσ : Host.KeepsPid σ) {A : Action → Prop} (h : s.Reaches A s') :
    Host.selfPid s'.host = Host.selfPid s.host := by
  refine h.keeps (P := fun t => Host.selfPid t.host = Host.selfPid s.host) (fun t a _ ht => ?_) rfl
  rw [Action.apply_host, hσ a t.host, ht]

/-- From one session to the other nobody is signalled but some victims. -/
abbrev KillsOnly (s : Session σ) (victims : Pid → Prop) (s' : Session σ) : Prop :=
  s.Reaches (Action.killsOnly (Host.selfPid s.host) victims) s'

theorem KillsOnly.widen (h : s.KillsOnly V s') (hVW : ∀ pid, V pid → W pid) : s.KillsOnly W s' :=
  h.mono (Action.killsOnly_mono hVW)

theorem KillsOnly.trans (hσ : Host.KeepsPid σ) (h : s.KillsOnly V s') (h' : s'.KillsOnly V s'') :
    s.KillsOnly V s'' := by
  have hown : Host.selfPid s'.host = Host.selfPid s.host := h.selfPid_eq hσ
  exact Reaches.trans h (hown ▸ h')

theorem KillsOnly.of_sendsNothing (h : s.Reaches (Action.sendsNothing ·) s') : s.KillsOnly V s' :=
  h.mono Action.killsOnly_of_sendsNothing

/-- What becomes of a process that a probe has reported, between two sessions: it is not to be
signalled, or its id is no number of a process and there is a warning, or it is sent the kill
signal. -/
def Treats (s : Session σ) (pid : Pid) (s' : Session σ) : Prop :=
  (pid ≤ 1 ∨ pid = Host.selfPid s.host) ∨
    (2 ^ 31 ≤ pid.toNat ∧ s.Warns (.killFailed pid) s') ∨
    (pid.toNat < 2 ^ 31 ∧ s.Does (.signal .kill (.process pid)) s')

theorem Treats.widen (hσ : Host.KeepsPid σ) {pid : Pid} (h : s.Treats pid s') (ht : t.Precedes s)
    (ht' : s'.Precedes t') : t.Treats pid t' := by
  rcases h with hspared | ⟨hbig, hlogged, hdone⟩ | ⟨hlt, hdone⟩
  · exact .inl (ht.selfPid_eq hσ ▸ hspared)
  · exact .inr (.inl ⟨hbig, hlogged, hdone.widen ht ht'⟩)
  · exact .inr (.inr ⟨hlt, hdone.widen ht ht'⟩)

end Session

/-! ### The targets of a probe -/

/-- An attempt to kill a process that is not protected does nothing, or sends that process one
signal. -/
theorem Task.forceKill_ends {pid : Pid} {s : Session σ}
    (hspared : ¬(pid ≤ 1 ∨ pid = Host.selfPid s.host)) :
    Ends (forceKill pid : Task σ _) s
      (fun r s' => (2 ^ 31 ≤ pid.toNat ∧ (∃ e, r = .error e) ∧ s' = s) ∨
        (pid.toNat < 2 ^ 31 ∧ s' = s.sent .kill (.process pid)))
      (fun _ _ => False) := by
  have hguard : (decide (pid ≤ 1) || pid == Host.selfPid s.host) = false := by
    simpa [not_or] using hspared
  have hasked : Ends (isProtected pid : Task σ Bool) s (fun b s' => b = false ∧ s' = s)
      (fun _ _ => False) := ⟨hguard, rfl⟩
  refine hasked.bind fun b s₁ ⟨hb, hs₁⟩ => ?_
  subst hb hs₁
  change Ends (if (osPid? pid).isNone then _ else _) s₁ _ _
  split
  · next hnone => exact .inl ⟨(isNone_osPid? pid).mp hnone, ⟨_, rfl⟩, rfl⟩
  · next hsome =>
    have hlt : pid.toNat < 2 ^ 31 := Nat.lt_of_not_le fun h => hsome ((isNone_osPid? pid).mpr h)
    refine ends_send_bind fun r => ?_
    -- whatever the answer, the signal has been sent
    split
    · exact .inr ⟨hlt, rfl⟩
    · exact .inr ⟨hlt, rfl⟩
    · exact .inr ⟨hlt, rfl⟩

namespace Reclaimer

section Targets

variable {pause : Millis} {probe : String} {seen : List Pid} {t : Target} {ts : List Target}
  {s s₁ s' : Session σ}

/-- Between two sessions some targets, apart from those that have been seen, have had their turn. -/
def Clears (seen : List Pid) (ts : List Target) (s s' : Session σ) : Prop :=
  ∀ x ∈ ts, x.pid ∉ seen → s.Treats x.pid s'

theorem killTargets_rest (hσ : Host.KeepsPid σ)
    (ih : Ends (killTargets pause probe (t.pid :: seen) ts : Task σ _) s₁
      (fun _ s' => s₁.KillsOnly (· ∈ ts.map (·.pid)) s' ∧ Clears (t.pid :: seen) ts s₁ s')
      (fun _ s' => s₁.KillsOnly (· ∈ ts.map (·.pid)) s'))
    (h₁ : s.KillsOnly (· ∈ (t :: ts).map (·.pid)) s₁) (ht : t.pid ∈ seen ∨ s.Treats t.pid s₁) :
    Ends (killTargets pause probe (t.pid :: seen) ts : Task σ _) s₁
      (fun _ s' => s.KillsOnly (· ∈ (t :: ts).map (·.pid)) s' ∧ Clears seen (t :: ts) s s')
      (fun _ s' => s.KillsOnly (· ∈ (t :: ts).map (·.pid)) s') := by
  have hkills {s' : Session σ} (hr : s₁.KillsOnly (· ∈ ts.map (·.pid)) s') :
      s.KillsOnly (· ∈ (t :: ts).map (·.pid)) s' :=
    h₁.trans hσ (hr.widen fun pid hmem => List.mem_cons_of_mem t.pid hmem)
  refine ih.mono (fun _ s' ⟨hr, hclear⟩ => ⟨hkills hr, fun x hx hnew => ?_⟩) fun _ s' hr => hkills hr
  by_cases heq : x.pid = t.pid
  · -- the first target, and whichever others have its id
    rw [heq] at hnew ⊢
    have hturn : s.Treats t.pid s₁ := ht.resolve_left hnew
    exact hturn.widen hσ (.refl s) hr.precedes
  · have hmem : x ∈ ts := by
      rcases List.mem_cons.mp hx with rfl | hmem
      · exact absurd rfl heq
      · exact hmem
    have hnew' : x.pid ∉ t.pid :: seen := by
      intro hseen
      rcases List.mem_cons.mp hseen with h | h
      · exact heq h
      · exact hnew h
    exact (hclear x hmem hnew').widen hσ h₁.precedes (.refl s')

theorem sent_killsOnly {pid : Pid} {V : Pid → Prop}
    (hmay : MayKill (Host.selfPid s.host) V .kill (.process pid)) :
    s.KillsOnly V (s.sent .kill (.process pid)) ∧
      s.Does (.signal .kill (.process pid)) (s.sent .kill (.process pid)) := by
  have hnoted : s.KillsOnly V ((Action.note (.sent .kill (.process pid))).apply s) :=
    .step s (a := .note (.sent .kill (.process pid))) hmay
  exact ⟨Session.Reaches.tail hnoted (a := .signal .kill (.process pid)) hmay, _, hnoted.precedes,
    .refl _⟩

/-- However the killing of some targets ends, only targets have been signalled; and if it has not
been halted, each of them has had its turn. -/
theorem killTargets_ends (hσ : Host.KeepsPid σ) (pause : Millis) (probe : String) (seen : List Pid)
    (ts : List Target) (s : Session σ) :
    Ends (killTargets pause probe seen ts : Task σ _) s
      (fun _ s' => s.KillsOnly (· ∈ ts.map (·.pid)) s' ∧ Clears seen ts s s')
      (fun _ s' => s.KillsOnly (· ∈ ts.map (·.pid)) s') := by
  -- on the targets; what has been seen grows, and a signal may or may not have been sent
  induction ts generalizing seen s with
  | nil => exact ⟨.refl s, nofun⟩
  | cons t ts ih =>
    have hrest {s₁ : Session σ} := killTargets_rest hσ (s := s) (ih (t.pid :: seen) s₁)
    have hquiet {u u' : Session σ} (h : u.Reaches (Action.sendsNothing ·) u') :
        u.KillsOnly (· ∈ (t :: ts).map (·.pid)) u' := .of_sendsNothing h
    change Ends (if (seen.contains t.pid || (decide (t.pid ≤ 1) || t.pid == Host.selfPid s.host)) = true
      then _ else _) s _ _
    split
    · -- a target that has been seen, or that is protected, is passed over
      next hskip =>
      refine hrest (.refl s) ?_
      rcases Bool.or_eq_true_iff.mp hskip with hseen | hspared
      · exact .inl (List.contains_iff_mem.mp hseen)
      · exact .inr (.inl (by simpa using hspared))
    · next hturn =>
      have hspared : ¬(t.pid ≤ 1 ∨ t.pid = Host.selfPid s.host) := by
        intro h
        exact hturn (by simp [h])
      refine (Task.forceKill_ends hspared).of_total.bind fun r s₁ hr => ?_
      rcases hr with ⟨hbig, ⟨e, rfl⟩, rfl⟩ | ⟨hlt, rfl⟩
      · -- the id is no number of a process: there is a warning, and no signal
        have hwarns : s₁.Warns (.killFailed t.pid) ((Action.note (.killFailed t.pid)).apply s₁) :=
          ⟨⟨_, rfl⟩, s₁, .refl s₁, .refl _⟩
        exact Task.ends_emit_bind (hrest (hquiet (.step s₁ (a := .note (.killFailed t.pid)) rfl))
          (.inr (.inr (.inl ⟨hbig, hwarns⟩))))
      · -- the signal has been sent, with or without success
        let u := s.sent .kill (.process t.pid)
        have hmay := MayKill.of_lt (V := (· ∈ (t :: ts).map (·.pid))) hspared hlt List.mem_cons_self
        obtain ⟨hsent, hdone⟩ := sent_killsOnly hmay
        have hgoesOn {s₂ : Session σ} (h : u.Reaches (Action.sendsNothing ·) s₂) :
            s.KillsOnly (· ∈ (t :: ts).map (·.pid)) s₂ ∧ (t.pid ∈ seen ∨ s.Treats t.pid s₂) :=
          ⟨hsent.trans hσ (hquiet h), .inr (.inr (.inr ⟨hlt, hdone.widen (.refl s) h.precedes⟩))⟩
        cases r with
        | error e =>
          obtain ⟨hkills, htreated⟩ := hgoesOn (.step u (a := .note (.killFailed t.pid)) rfl)
          exact Task.ends_emit_bind (hrest hkills htreated)
        | ok delivered =>
          cases delivered with
          | false =>
            obtain ⟨hkills, htreated⟩ := hgoesOn (.step u (a := .note (.alreadyGone t.pid)) rfl)
            exact Task.ends_emit_bind (hrest hkills htreated)
          | true =>
            have hpause : (do Task.emit (.killed probe t)
                              Task.sleep pause : Task σ Unit).Within (Action.sendsNothing ·) :=
              (Task.within_emit (A := (Action.sendsNothing ·)) rfl).bind fun _ =>
                Task.within_sleep (fun _ => Action.sendsNothing_of_isWaiting) pause
            have hslept := (hpause u).mono (fun _ _ h => hgoesOn h) fun _ _ h => (hgoesOn h).1
            refine hslept.bind fun _ s₂ ⟨hkills, htreated⟩ => ?_
            exact (hrest hkills htreated).bind fun _ _ h => h

end Targets

end Reclaimer

/-! ### Questions to probes -/

namespace Session

variable {s s' s'' : Session σ} {question : Probe σ × Request} {qs qs' : List (Probe σ × Request)}

/-- Between two sessions a probe is asked, and after its answer each process that it has reported
has its turn. -/
def Answers (s : Session σ) (question : Probe σ × Request) (s' : Session σ) : Prop :=
  ∃ answer u, s.Finds question answer u ∧ u.Precedes s' ∧
    ∀ targets, answer = .ok targets → ∀ x ∈ targets, u.Treats x.pid s'

theorem Answers.widen (hσ : Host.KeepsPid σ) {t t' : Session σ} (h : s.Answers question s')
    (ht : t.Precedes s) (ht' : s'.Precedes t') : t.Answers question t' := by
  obtain ⟨answer, u, hfound, hu, htreated⟩ := h
  refine ⟨answer, u, hfound.widen ht, hu.trans ht', fun targets hok x hx => ?_⟩
  exact (htreated targets hok x hx).widen hσ (.refl u) ht'

/-- Between two sessions only processes that some probes have reported are signalled. -/
abbrev KillsReported (s : Session σ) (qs : List (Probe σ × Request)) (s' : Session σ) : Prop :=
  s.KillsOnly (s.Reported qs s') s'

theorem KillsReported.trans (hσ : Host.KeepsPid σ) (h : s.KillsReported qs s')
    (h' : s'.KillsReported qs' s'') : s.KillsReported (qs ++ qs') s'' := by
  have hleft : s.KillsOnly (s.Reported (qs ++ qs') s'') s' := by
    refine h.widen fun pid hpid => ?_
    exact hpid.widen (List.subset_append_left qs qs') (.refl s) h'.precedes
  have hright : s'.KillsOnly (s.Reported (qs ++ qs') s'') s'' := by
    refine h'.widen fun pid hpid => ?_
    exact hpid.widen (List.subset_append_right qs qs') h.precedes (.refl s'')
  exact hleft.trans hσ hright

end Session

namespace Task

/-- A task that puts some questions to probes and deals with what they report: all of it, if the
task is not halted, and nothing else. -/
def Clears (t : Task σ α) (qs : List (Probe σ × Request)) : Prop :=
  ∀ s, Ends t s (fun _ s' => s.KillsReported qs s' ∧ ∀ q ∈ qs, s.Answers q s')
    (fun _ s' => s.KillsReported qs s')

variable {t : Task σ α} {f : α → Task σ β} {qs qs' : List (Probe σ × Request)}

theorem Clears.of_within (ht : t.Within (Action.sendsNothing ·)) : t.Clears [] := fun s =>
  (ht s).mono (fun _ _ h => ⟨.of_sendsNothing h, nofun⟩) fun _ _ h => .of_sendsNothing h

theorem Clears.bind (hσ : Host.KeepsPid σ) (ht : t.Clears qs) (hf : ∀ a, (f a).Clears qs') :
    (t >>= f).Clears (qs ++ qs') := by
  intro s
  -- a task that is halted before the later questions has killed for the earlier ones only
  have hfirst : Ends t s (fun _ s' => s.KillsReported qs s' ∧ ∀ q ∈ qs, s.Answers q s')
      (fun _ s' => s.KillsReported (qs ++ qs') s') := by
    refine (ht s).mono (fun _ _ h => h) fun _ s' h => h.widen fun pid hpid => ?_
    exact hpid.widen (List.subset_append_left qs qs') (.refl s) (.refl s')
  refine hfirst.bind fun a s₁ ⟨h₁, hanswers₁⟩ => ?_
  refine (hf a s₁).mono (fun _ s' ⟨h₂, hanswers₂⟩ => ?_) fun _ _ h₂ => h₁.trans hσ h₂
  refine ⟨h₁.trans hσ h₂, fun q hq => ?_⟩
  rcases List.mem_append.mp hq with hleft | hright
  · exact (hanswers₁ q hleft).widen hσ (.refl s) h₂.precedes
  · exact (hanswers₂ q hright).widen hσ h₁.precedes (.refl s')

theorem Clears.before (hσ : Host.KeepsPid σ) (ht : t.Within (Action.sendsNothing ·))
    (hf : ∀ a, (f a).Clears qs) : (t >>= f).Clears qs := (of_within ht).bind hσ hf

theorem Clears.after (hσ : Host.KeepsPid σ) (ht : t.Clears qs)
    (hf : ∀ a, (f a).Within (Action.sendsNothing ·)) : (t >>= f).Clears qs := by
  have h := ht.bind hσ fun a => of_within (hf a)
  rwa [List.append_nil] at h

end Task

namespace Reclaimer

variable {r : Reclaimer σ}

theorem runProbe_clears (hσ : Host.KeepsPid σ) (pacing : ReclaimPacing) {p : Probe σ}
    (hp : p.Within (Action.sendsNothing ·)) (q : Request) :
    (runProbe pacing p q).Clears [(p, q)] := by
  intro s
  have hasked : Ends (p.discover q) s
      (fun answer u => p.discover q s = .ok answer u ∧ s.Reaches (Action.sendsNothing ·) u)
      (fun _ s' => s.KillsReported [(p, q)] s') :=
    ((Ends.self (p.discover q) s).and (hp q s)).mono (fun _ _ h => h) fun _ _ h =>
      .of_sendsNothing h.2
  refine hasked.bind fun answer u ⟨hanswer, hu⟩ => ?_
  have hfound : s.Finds (p, q) answer u := ⟨s, .refl s, hanswer⟩
  match answer with
  | .ok targets =>
    have hkills {s' : Session σ} (h : u.KillsOnly (· ∈ targets.map (·.pid)) s') :
        s.KillsReported [(p, q)] s' := by
      have hreported : u.KillsOnly (s.Reported [(p, q)] s') s' := by
        refine h.widen fun pid hmem => ?_
        obtain ⟨x, hx, hpid⟩ := List.mem_map.mp hmem
        exact ⟨(p, q), List.mem_singleton_self _, targets, u, hfound, h.precedes, x, hx, hpid⟩
      exact Session.KillsOnly.trans hσ (.of_sendsNothing hu) hreported
    refine (killTargets_ends hσ pacing.killPause p.name [] targets u).mono
      (fun _ s' ⟨h, hclear⟩ => ⟨hkills h, fun q' hq' => ?_⟩) fun _ _ h => hkills h
    obtain rfl := List.mem_singleton.mp hq'
    refine ⟨.ok targets, u, hfound, h.precedes, fun targets' hok x hx => ?_⟩
    obtain rfl : targets = targets' := Except.ok.inj hok
    exact hclear x hx List.not_mem_nil
  | .error e =>
    -- a probe that cannot run is noted
    have hnoted : s.Reaches (Action.sendsNothing ·)
        ((Action.note (.probeUnavailable p.name)).apply u) := hu.tail rfl
    refine Task.ends_emit_bind ⟨.of_sendsNothing hnoted, fun q' hq' => ?_⟩
    obtain rfl := List.mem_singleton.mp hq'
    exact ⟨.error e, u, hfound, .step u trivial, nofun⟩

theorem runProbes_clears (hσ : Host.KeepsPid σ) (pacing : ReclaimPacing) (q : Request)
    {ps : List (Probe σ)} (hps : ∀ p ∈ ps, p.Within (Action.sendsNothing ·)) :
    (runProbes pacing q ps).Clears (ps.map (·, q)) := by
  induction ps with
  | nil => exact .of_within (.pure _)
  | cons p ps ih =>
    have hrest := ih fun p' hp' => hps p' (List.mem_cons_of_mem p hp')
    refine (runProbe_clears hσ pacing (hps p List.mem_cons_self) q).bind hσ fun a => ?_
    exact hrest.after hσ fun b => .pure _

end Reclaimer

/-- The ways of freeing ports. -/
inductive Reclamation where
  | pass (ports : List Port) (patterns : List Pattern)
  | sweep (patterns : List Pattern)
  | escalation (ports : List Port) (patterns : List Pattern)

namespace Reclamation

def run (r : Reclaimer σ) : Reclamation → Task σ ReclaimReport
  | pass ports patterns => r.reclaim ports patterns
  | sweep patterns => r.sweep patterns
  | escalation ports patterns => r.escalate ports patterns

/-- Which probes are asked, and for what. -/
def questions (r : Reclaimer σ) : Reclamation → List (Probe σ × Request)
  | pass ports patterns => r.probes.map (·, ⟨ports, patterns⟩)
  | sweep patterns => [(r.sweeper, ⟨[], patterns⟩)]
  | escalation ports patterns =>
    (r.sweeper, ⟨[], patterns⟩) :: r.probes.map (·, ⟨ports, patterns⟩)

theorem run_clears (hσ : Host.KeepsPid σ) {r : Reclaimer σ} (hr : r.Searches (Action.sendsNothing ·))
    (x : Reclamation) : (x.run r).Clears (x.questions r) := by
  have hnote {e : Event} (he : (Action.note e).sendsNothing = true) :
      (Task.emit e : Task σ Unit).Within (Action.sendsNothing ·) := Task.within_emit he
  have hsleep (d : Millis) : (Task.sleep d : Task σ Unit).Within (Action.sendsNothing ·) :=
    Task.within_sleep (fun _ => Action.sendsNothing_of_isWaiting) d
  have hpass (ports : List Port) (patterns : List Pattern) :
      (r.reclaim ports patterns).Clears (r.probes.map (·, ⟨ports, patterns⟩)) := by
    refine (Reclaimer.runProbes_clears hσ r.pacing _ hr.probes).after hσ fun report => ?_
    -- a pause follows if anything was killed
    exact .ite ((hnote rfl).bind fun _ => (hsleep _).bind fun _ => .pure _) (.pure _)
  have hsweep (patterns : List Pattern) :
      (r.sweep patterns).Clears [(r.sweeper, ⟨[], patterns⟩)] :=
    Reclaimer.runProbe_clears hσ r.pacing hr.sweeper _
  cases x with
  | pass ports patterns => exact hpass ports patterns
  | sweep patterns => exact hsweep patterns
  | escalation ports patterns =>
    refine .before hσ (hnote rfl) fun _ => ?_
    refine (hsweep patterns).bind hσ fun a => ?_
    refine .before hσ (hsleep _) fun _ => ?_
    exact (hpass ports patterns).after hσ fun b => .pure _

end Reclamation

/-- A reclamation kills nobody but processes that a probe has reported to it, each by the number
that is its id, and never the first process, the harness or a group. Unless it is interrupted it
comes to every probe and to every process reported, with a warning for those whose id is no number
of a process; and it ends, if the probes do. -/
theorem Reclamation.kills_only_what_is_reported (hσ : Host.KeepsPid σ) {r : Reclaimer σ}
    (hr : r.Searches (Action.sendsNothing ·)) (x : Reclamation) (s : Session σ) :
    (∀ report s', x.run r s = .ok report s' →
        s.KillsReported (x.questions r) s' ∧ ∀ q ∈ x.questions r, s.Answers q s') ∧
      (∀ halt s', x.run r s = .error halt s' → s.KillsReported (x.questions r) s') ∧
      (r.IsCalm → s.interruptible = false → ∃ report s', x.run r s = .ok report s') := by
  have hclears := x.run_clears hσ hr s
  refine ⟨fun report s' hrun => hclears.of_ok hrun, fun halt s' hrun => hclears.of_error hrun,
    fun hcalm hs => ?_⟩
  have hends : (x.run r).Calm := by
    cases x with
    | pass ports patterns => exact hcalm.reclaim ports patterns
    | sweep patterns => exact hcalm.sweep patterns
    | escalation ports patterns => exact hcalm.escalate ports patterns
  obtain ⟨report, s', hrun, -⟩ := (hends s hs).exists_ok
  exact ⟨report, s', hrun⟩

namespace Simulation.Bench

/-- Reports the kernel, the first process, the harness, three processes, one of them twice, and two
ids that would be negative as numbers of processes. -/
def hostileProbe : Probe Bench where
  name := "hostile"
  discover _ := return .ok <|
    [0, 1, home, 201, 0x80000000, 201, 202, 0xffffffff, 203].map fun pid => ⟨pid, "reported"⟩

/-- A probe that cannot run. -/
def brokenProbe : Probe Bench where
  name := "broken"
  discover _ := return .error (.errno 2)

def hostileReclaimer : Reclaimer Bench :=
  ⟨[brokenProbe, hostileProbe, .pattern], hostileProbe, "lsof", config.reclaim⟩

theorem hostileReclaimer_searches : hostileReclaimer.Searches (Action.sendsNothing ·) where
  probes p hp := by
    simp only [hostileReclaimer, List.mem_cons, List.not_mem_nil, or_false] at hp
    rcases hp with rfl | rfl | rfl
    · exact fun _ => .pure _
    · exact fun _ => .pure _
    · exact Probe.within_pattern.mono fun _ ha =>
        Action.sendsNothing_of_isSearching (Action.isSearching_of_isAsking ha)
  sweeper _ := .pure _

theorem hostileReclaimer_isCalm : hostileReclaimer.IsCalm where
  probes p hp q := by
    simp only [hostileReclaimer, List.mem_cons, List.not_mem_nil, or_false] at hp
    rcases hp with rfl | rfl | rfl
    · exact .pure _
    · exact .pure _
    · exact (Probe.smooth_pattern q).calm
  sweeper _ := .pure _

theorem escalation_kills : Ends ((Reclamation.escalation [3002] []).run hostileReclaimer)
    (Session.start blank .absent)
    (fun report _ => report.killed.map (·.pid) = [201, 202, 203, 201, 202, 203])
    (fun _ _ => False) := by
  decide +kernel

end Simulation.Bench

/-- In an escalation on the bench two probes report what must not be signalled along with what may
be, and all that may be is killed. -/
theorem Reclamation.kills_only_what_is_reported_on_bench :
    ∃ report s', (Reclamation.escalation [3002] []).run Simulation.Bench.hostileReclaimer
        (Session.start Simulation.Bench.blank .absent) = .ok report s' ∧
      report.killed.map (·.pid) = [201, 202, 203, 201, 202, 203] ∧
      (Session.start Simulation.Bench.blank .absent).KillsReported
        ((Reclamation.escalation [3002] []).questions Simulation.Bench.hostileReclaimer) s' ∧
      ∀ q ∈ (Reclamation.escalation [3002] []).questions Simulation.Bench.hostileReclaimer,
        (Session.start Simulation.Bench.blank .absent).Answers q s' := by
  have hkeeps : Host.KeepsPid Simulation.Bench := fun _ _ => rfl
  have h := Reclamation.kills_only_what_is_reported hkeeps
    Simulation.Bench.hostileReclaimer_searches (.escalation [3002] [])
    (Session.start Simulation.Bench.blank .absent)
  obtain ⟨report, s', hrun⟩ := h.2.2 Simulation.Bench.hostileReclaimer_isCalm rfl
  have hkilled := Simulation.Bench.escalation_kills.of_ok hrun
  exact ⟨report, s', hrun, hkilled, h.1 report s' hrun⟩

end LatencyHarness
