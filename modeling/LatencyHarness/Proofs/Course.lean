import LatencyHarness.Config
import LatencyHarness.Proofs.Steps
import Mathlib.Data.List.Chain
import Mathlib.Data.List.Induction

/-! The course of a run, as its milestones tell it.

`Course.Permits` says which milestone may follow the ones that a run has passed. A course all of
whose milestones were permitted goes through the states along the edges of `RunState.Edge`, each
at most once. -/
namespace LatencyHarness

/-- The edges along which a run goes from state to state. -/
inductive RunState.Edge : RunState → RunState → Prop where
  | launchFirst : Edge preflightCleanup startingDependencyA
  | launchSecond : Edge startingDependencyA startingDependencyB
  | runClient : Edge startingDependencyB runningClient
  | tearDown {a : RunState} (ha : a ≠ tearingDown) (hdone : ∀ v, a ≠ done v) : Edge a tearingDown
  | giveUp : Edge preflightCleanup (done .failure)
  | finish (v : Verdict) : Edge tearingDown (done v)

/-- The state that an event leads to, if it is a change of state. -/
def Event.arrival? : Event → Option RunState
  | stateChanged _ b => some b
  | _ => none

theorem Event.arrival?_eq_some {e : Event} {b : RunState} (h : e.arrival? = some b) :
    ∃ a, e = .stateChanged a b := by
  unfold arrival? at h
  split at h
  · next a b' => exact ⟨a, by rw [Option.some.inj h]⟩
  · simp at h

/-- The service that an event has launched. -/
def Event.launched? : Event → Option (Role × Pid)
  | launched role pid => some (role, pid)
  | _ => none

/-- The client that an event has launched. -/
def Event.client? : Event → Option Pid
  | clientLaunched pid => some pid
  | _ => none

/-- The child that an event has launched, be it a service or the client. -/
def Event.child? : Event → Option Pid
  | launched _ pid | clientLaunched pid => some pid
  | _ => none

namespace Course

/-- The states that a run has visited, the first one first. -/
def visits (ms : List Event) : List RunState :=
  .preflightCleanup :: ms.filterMap Event.arrival?

/-- The services that a run has launched, the first one first. -/
def launches (ms : List Event) : List (Role × Pid) := ms.filterMap Event.launched?

/-- The clients that a run has launched, the first one first. -/
def clients (ms : List Event) : List Pid := ms.filterMap Event.client?

/-- Whether a milestone may follow those that a run has passed: a change of state goes along an
edge to a new state, the services are launched one after the other, the first once the checks have
passed and the second once the first is ready, then the client once the second is ready, and
nothing is launched after the teardown has begun. -/
def Permits (c : Config) (past : List Event) : Event → Prop
  | .stateChanged a b =>
    (visits past).getLast? = some a ∧ a.Edge b ∧ b ∉ visits past
  | .launched role _ =>
    .tearingDown ∉ visits past ∧
      (launches past = [] ∧ role = c.server2.role ∧ (∃ v, .runnerFound v ∈ past) ∧
          .portsFree ∈ past ∨
        ∃ pid, launches past = [(c.server2.role, pid)] ∧ role = c.server1.role ∧
          .ready c.server2.role pid ∈ past)
  | .clientLaunched _ =>
    .tearingDown ∉ visits past ∧ (∀ pid, .clientLaunched pid ∉ past) ∧
      ∃ pid₂ pid₁, launches past = [(c.server2.role, pid₂), (c.server1.role, pid₁)] ∧
        .ready c.server1.role pid₁ ∈ past
  | _ => True

/-- A course whose every milestone was permitted when the run passed it. -/
def IsLawful (c : Config) (ms : List Event) : Prop :=
  ∀ past e rest, ms = past ++ e :: rest → Permits c past e

variable {c : Config} {ms : List Event} {e : Event}

@[simp] theorem visits_append (ms ms' : List Event) :
    visits (ms ++ ms') = visits ms ++ ms'.filterMap Event.arrival? := by
  simp [visits]

@[simp] theorem clients_append (ms ms' : List Event) :
    clients (ms ++ ms') = clients ms ++ clients ms' := by
  simp [clients]

theorem mem_visits_of_mem {a b : RunState} (h : .stateChanged a b ∈ ms) : b ∈ visits ms :=
  List.mem_cons_of_mem _ (List.mem_filterMap.mpr ⟨_, h, rfl⟩)

theorem visits_mono {ms' : List Event} (h : ms <+: ms') : visits ms <+: visits ms' :=
  (List.prefix_cons_inj _).mpr (h.filterMap _)

namespace IsLawful

theorem nil : IsLawful c [] := fun past e rest h => by simp at h

theorem of_start {ms' : List Event} (h : IsLawful c ms) (hp : ms' <+: ms) : IsLawful c ms' := by
  obtain ⟨t, rfl⟩ := hp
  intro past e rest hms
  exact h past e (rest ++ t) (by simp [hms])

theorem snoc (h : IsLawful c ms) (he : Permits c ms e) : IsLawful c (ms ++ [e]) := by
  intro past e' rest hms
  rcases rest.eq_nil_or_concat with rfl | ⟨rest', last, rfl⟩
  · -- the milestone asked about is the new one
    obtain ⟨rfl, rfl⟩ := List.append_singleton_inj.mp hms
    exact he
  · -- it is an old one, with the new one among those after it
    have hcut : ms = past ++ e' :: rest' := by
      rw [List.concat_eq_append, ← List.cons_append, ← List.append_assoc] at hms
      exact (List.append_singleton_inj.mp hms).1
    exact h past e' rest' hcut

theorem visits_chain (h : IsLawful c ms) :
    (visits ms).IsChain RunState.Edge ∧ (visits ms).Nodup := by
  -- the last milestone is the only one that may bring a new state
  induction ms using List.reverseRecOn with
  | nil => simp [visits]
  | append_singleton ms e ih =>
    obtain ⟨hchain, hnodup⟩ := ih (h.of_start (List.prefix_append ms [e]))
    rw [visits_append]
    cases he : e.arrival? with
    | none => simpa [he] using ⟨hchain, hnodup⟩
    | some b =>
      obtain ⟨a, rfl⟩ := Event.arrival?_eq_some he
      obtain ⟨hlast, hedge, hnew⟩ : Permits c ms (.stateChanged a b) := h ms _ [] rfl
      have hone : [Event.stateChanged a b].filterMap Event.arrival? = [b] := rfl
      rw [hone]
      constructor
      · -- the edge leads from the state that was visited last
        refine hchain.append (.singleton b) fun x hx y hy => ?_
        obtain rfl : a = x := Option.some.inj (hlast.symm.trans hx)
        obtain rfl : b = y := by simpa using hy
        exact hedge
      · exact List.nodup_append.mpr ⟨hnodup, by simp, fun x hx y hy hxy => hnew (by simp_all)⟩

end IsLawful

/-! ### The way to the end of the client -/

/-- The milestones of a run up to a good end of its client. -/
def way (c : Config) (version : String) (pid₂ pid₁ client : Pid) : List Event :=
  [.runnerFound version, .portsFree,
    .stateChanged .preflightCleanup .startingDependencyA,
    .launched c.server2.role pid₂, .ready c.server2.role pid₂,
    .stateChanged .startingDependencyA .startingDependencyB,
    .launched c.server1.role pid₁, .ready c.server1.role pid₁,
    .stateChanged .startingDependencyB .runningClient,
    .clientLaunched client, .clientExited (.exited 0)]

theorem way_lawful (c : Config) (version : String) (pid₂ pid₁ client : Pid) :
    IsLawful c (way c version pid₂ pid₁ client) := by
  -- milestone by milestone, each permitted after those before it
  have h₁ := IsLawful.nil (c := c) |>.snoc (e := .runnerFound version) trivial
  have h₂ := h₁.snoc (e := .portsFree) trivial
  have h₃ := h₂.snoc (e := .stateChanged .preflightCleanup .startingDependencyA)
    ⟨rfl, .launchFirst, by simp [visits, Event.arrival?]⟩
  have h₄ := h₃.snoc (e := .launched c.server2.role pid₂)
    ⟨by simp [visits, Event.arrival?], .inl ⟨rfl, rfl, ⟨version, by simp⟩, by simp⟩⟩
  have h₅ := h₄.snoc (e := .ready c.server2.role pid₂) trivial
  have h₆ := h₅.snoc (e := .stateChanged .startingDependencyA .startingDependencyB)
    ⟨rfl, .launchSecond, by simp [visits, Event.arrival?]⟩
  have h₇ := h₆.snoc (e := .launched c.server1.role pid₁)
    ⟨by simp [visits, Event.arrival?], .inr ⟨pid₂, rfl, rfl, by simp⟩⟩
  have h₈ := h₇.snoc (e := .ready c.server1.role pid₁) trivial
  have h₉ := h₈.snoc (e := .stateChanged .startingDependencyB .runningClient)
    ⟨rfl, .runClient, by simp [visits, Event.arrival?]⟩
  have h₁₀ := h₉.snoc (e := .clientLaunched client)
    ⟨by simp [visits, Event.arrival?], by simp, pid₂, pid₁, rfl, by simp⟩
  exact h₁₀.snoc (e := .clientExited (.exited 0)) trivial

/-- Only at its end does the client's good end stand on the way. -/
theorem eq_way_of_mem {version : String} {pid₂ pid₁ client : Pid}
    (hp : ms <+: way c version pid₂ pid₁ client) (he : .clientExited (.exited 0) ∈ ms) :
    ms = way c version pid₂ pid₁ client := by
  obtain ⟨rest, hrest⟩ := hp
  rcases rest.eq_nil_or_concat with rfl | ⟨rest, last, rfl⟩
  · simpa using hrest
  · -- otherwise it stands among the milestones before the last one
    have hcut := congrArg List.dropLast hrest
    rw [List.concat_eq_append, ← List.append_assoc, List.dropLast_concat] at hcut
    have hmem : Event.clientExited (.exited 0) ∈ (way c version pid₂ pid₁ client).dropLast :=
      hcut ▸ List.mem_append_left rest he
    simp [way] at hmem

theorem visits_of_onWay {version : String} {pid₂ pid₁ client : Pid}
    (hp : ms <+: way c version pid₂ pid₁ client) :
    visits ms <+: [.preflightCleanup, .startingDependencyA, .startingDependencyB,
      .runningClient] := visits_mono hp

end Course

end LatencyHarness
