import LatencyHarness.Proofs.Stopping
import LatencyHarness.Simulation.Bench

/-! The bench keeps the laws of a host that answers for its children and whose processes obey. -/
namespace LatencyHarness.Simulation

namespace BenchChild

/-- A child that time has passed for: an end stays, and a helper that is gone does not come
back. -/
structure Ages (c c' : BenchChild) : Prop where
  status : c.status = none ∨ c'.status = c.status
  helper : c'.hasHelper = c.hasHelper ∨ c'.hasHelper = false

theorem Ages.refl (c : BenchChild) : c.Ages c := ⟨.inr rfl, .inl rfl⟩

theorem ages_hit (signal : Signal) (c : BenchChild) : c.Ages (c.hit signal) := by
  refine ⟨?_, .inl rfl⟩
  cases hstatus : c.status with
  | none => exact .inl rfl
  | some status => exact .inr (by simp [hit, hstatus])

theorem ages_receive (signal : Signal) (r : Recipient) (pid : Pid) (c : BenchChild) :
    c.Ages (c.receive signal r pid) := by
  cases r with
  | process p =>
    simp only [receive]
    split
    · exact ages_hit signal c
    · exact .refl c
  | group g =>
    simp only [receive]
    split
    · exact ⟨(ages_hit signal c).status, .inr rfl⟩
    · exact .refl c

end BenchChild

namespace Bench

/-- What launches nothing lets the children that are there age, and brings no others. -/
theorem children_onHost (a : Action) (b : Bench) (ha : a.startsNothing = true) :
    ∃ f : Pid → BenchChild → BenchChild, (∀ q (c : BenchChild), c.Ages (f q c)) ∧
      ∀ q, (a.onHost b).children q = (b.children q).map (f q) := by
  -- most actions do not touch the children at all
  have hsame : ∃ f : Pid → BenchChild → BenchChild, (∀ q (c : BenchChild), c.Ages (f q c)) ∧
      ∀ q, b.children q = (b.children q).map (f q) :=
    ⟨fun _ c => c, fun _ c => .refl c, fun q => by simp⟩
  cases a with
  | spawn dir l => exact absurd ha nofun
  | signal s r => exact ⟨BenchChild.receive s r, fun q c => c.ages_receive s r q, fun _ => rfl⟩
  | look pid stream =>
    change ∃ f : Pid → BenchChild → BenchChild, (∀ q (c : BenchChild), c.Ages (f q c)) ∧
      ∀ q, (b.look pid stream).2.children q = (b.children q).map (f q)
    unfold look
    split
    · exact hsame
    · split
      · refine ⟨fun q c => if q = pid then { c with output := [] } else c, fun q c => ?_,
          fun _ => rfl⟩
        dsimp only
        split
        · exact ⟨.inr rfl, .inl rfl⟩
        · exact .refl c
      · split
        · exact hsame
        · exact hsame
  | _ => exact hsame

theorem exitStatus?_eq_some {pid : Pid} {status : WaitStatus} {b : Bench} :
    Host.exitStatus? pid b = .ok (some status) ↔
      ∃ c, b.children pid = some c ∧ c.status = some status := by
  change (Except.ok ((b.children pid).bind (·.status)) : Except SystemError _) = _ ↔ _
  simp [Option.bind_eq_some_iff]

theorem isReliable : Host.IsReliable Bench where
  answers _ _ := ⟨_, rfl⟩
  clock a b := by
    cases a with
    | await w limit cut => exact Nat.le_max_left b.clock _
    | spawn dir l =>
      change b.clock ≤ (b.spawn l).2.clock
      unfold spawn
      dsimp only
      split <;> exact Nat.le_refl _
    | look pid stream =>
      change b.clock ≤ (b.look pid stream).2.clock
      unfold look
      split
      · exact Nat.le_refl _
      · split
        · exact Nat.le_refl _
        · split <;> exact Nat.le_refl _
    | _ => exact Nat.le_refl _
  waits pid limit b := .inr (Nat.le_max_right b.clock limit)
  remembers a pid status b ha h := by
    obtain ⟨f, hf, hchildren⟩ := children_onHost a b ha
    obtain ⟨c, hc, hstatus⟩ := exitStatus?_eq_some.mp h
    refine exitStatus?_eq_some.mpr ⟨f pid c, by rw [hchildren, hc, Option.map_some], ?_⟩
    rcases (hf pid c).status with hnone | hsame
    · exact absurd (hnone.symm.trans hstatus) nofun
    · exact hsame.trans hstatus

/-- The living processes of a group are its leader, if that has not ended, and the helper. -/
theorem mem_members {pid q : Pid} {b : Bench} :
    q ∈ b.members pid ↔ ∃ c, b.children pid = some c ∧
      (c.status = none ∧ q = pid ∨ c.hasHelper = true ∧ q = pid + 1) := by
  -- the four kinds of children: ended or not, with a helper or without
  unfold members
  cases hc : b.children pid with
  | none => simp
  | some c => cases hstatus : c.status <;> cases hhelper : c.hasHelper <;> simp [hstatus, hhelper]

theorem members_onHost {a : Action} (ha : a.startsNothing = true) (pid : Pid) (b : Bench) :
    (a.onHost b).members pid ⊆ b.members pid := by
  intro q hq
  obtain ⟨f, hf, hchildren⟩ := children_onHost a b ha
  obtain ⟨c', hc', halive⟩ := mem_members.mp hq
  rw [hchildren] at hc'
  obtain ⟨c, hc, rfl⟩ := Option.map_eq_some_iff.mp hc'
  refine mem_members.mpr ⟨c, hc, ?_⟩
  -- neither the leader nor the helper can have come back
  rcases halive with ⟨hstatus, hq⟩ | ⟨hhelper, hq⟩
  · rcases (hf pid c).status with hnone | hsame
    · exact .inl ⟨hnone, hq⟩
    · exact .inl ⟨hsame.symm.trans hstatus, hq⟩
  · rcases (hf pid c).helper with hsame | hnone
    · exact .inr ⟨hsame.symm.trans hhelper, hq⟩
    · exact absurd (hnone.symm.trans hhelper) nofun

/-- Nobody comes into a group until the next launch. -/
theorem members_later {s s' : Session Bench} (h : s.Later s') (pid : Pid) :
    s'.host.members pid ⊆ s.host.members pid :=
  h.keeps (P := fun b => b.members pid ⊆ s.host.members pid)
    (fun _ b ha hb _ hq => hb (members_onHost ha pid b hq)) (List.Subset.refl _)

theorem members_sent (signal : Signal) (pid : Pid) (s : Session Bench) :
    (s.sent signal (.group pid)).host.members pid = [] := by
  refine List.eq_nil_iff_forall_not_mem.mpr fun q hq => ?_
  obtain ⟨c', hc', halive⟩ := mem_members.mp hq
  obtain ⟨c, -, rfl⟩ := Option.map_eq_some_iff.mp hc'
  simp [BenchChild.receive, BenchChild.hitAll, BenchChild.hit] at halive

theorem isObedient : Host.IsObedient (σ := Bench) fun pid b => {q | q ∈ b.members pid} where
  answers _ _ := ⟨_, rfl⟩
  leads _ _ _ _ h heq := (spawn_ok h).1 heq.symm
  ownGroup _ _ := rfl
  ended pid status b h hmem := by
    obtain ⟨c, hc, hstatus⟩ := exitStatus?_eq_some.mp h
    obtain ⟨c', hc', halive⟩ := mem_members.mp hmem
    obtain rfl : c = c' := Option.some.inj (hc.symm.trans hc')
    rcases halive with ⟨hnone, -⟩ | ⟨-, hpid⟩
    · exact absurd (hnone.symm.trans hstatus) nofun
    · exact absurd hpid (by simp)
  term pid s s' h := by
    intro q hq
    have hbefore := members_later h pid hq
    rw [members_sent] at hbefore
    exact absurd hbefore List.not_mem_nil
  kill pid s s' h := by
    refine Set.eq_empty_of_forall_notMem fun q hq => ?_
    have hbefore := members_later h pid hq
    rw [members_sent] at hbefore
    exact absurd hbefore List.not_mem_nil
  empty pid a b ha hempty := by
    refine Set.eq_empty_of_forall_notMem fun q hq => ?_
    exact Set.eq_empty_iff_forall_notMem.mp hempty q (members_onHost ha pid b hq)

/-! ### The run on the bench -/

theorem plan_eq [Pattern.Wording] : Plan.ofConfig config (.standard config.reclaim) = .ok plan := rfl

theorem plan_isOrderly : (Reclaimer.standard config.reclaim : Reclaimer Bench).IsOrderly :=
  Reclaimer.standard_isOrderly config.reclaim

/-- The run comes to its report: it has launched two services, which it has stopped, and a client,
which had ended by itself. -/
theorem run_ends : Ends (Running.run plan) start (fun report k =>
      report.state = .done .success ∧ report.teardownPasses = 1 ∧
        .launched .server2 101 ∈ k.supervisor.session.journal ∧
        .foundEnded 101 ∉ k.supervisor.session.journal ∧
        .clientLaunched 105 ∈ k.supervisor.session.journal ∧
        k.supervisor.session.host.members 105 = [106])
    (fun _ _ => False) := by
  decide +kernel

end Bench

end LatencyHarness.Simulation
