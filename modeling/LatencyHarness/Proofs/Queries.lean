import LatencyHarness.Proofs.Halts
import LatencyHarness.Proofs.Listeners
import LatencyHarness.Simulation.Toolbox

/-! What the probe that asks for one port after the other makes of the answers.

If every query runs, each process id that one of them prints is found. The first query that does not
run ends the probe, and what the queries before it have printed is lost with what those after it
would have. -/
namespace LatencyHarness

open Text (lines trim)
open Text.Utf8 (decodeLossy)

variable {σ : Type} [Host σ]

/-- A tool that is asked for the holders of a port gives one answer for each port, at any time;
where that is none, it does not finish within its limit. -/
def Host.Lists (σ : Type) [Host σ] (program : String)
    (answer : Port → Option (Except SystemError Captured)) : Prop :=
  ∀ (h : σ) (port : Port),
    (Host.capture ⟨program, ["-ti", s!":{port.toNat}"]⟩ (some toolLimit) h).1 = answer port

/-- A line of what has been printed is this process id. -/
def Captured.Shows (c : Captured) (pid : Pid) : Prop :=
  ∃ line ∈ lines (decodeLossy c.out), SocketTable.pid? (trim line) = some pid

instance (c : Captured) (pid : Pid) : Decidable (c.Shows pid) :=
  inferInstanceAs (Decidable (∃ line ∈ lines (decodeLossy c.out),
    SocketTable.pid? (trim line) = some pid))

/-- A capture that has not failed and was in time. -/
def Ran (answer : Option (Except SystemError Captured)) : Prop := ∃ c, answer = some (.ok c)

theorem Task.capture_answers (launch : Launch) (limit : Millis) (s : Session σ) :
    Ends (capture launch limit : Task σ _) s
      (fun r _ => r = (Host.capture launch (some limit) s.host).1) fun _ _ => True := by
  -- the answer is there before anything else goes on
  let s₁ := (Action.capture launch (some limit)).apply s
  refine (Ends.ok_self (listen : Task σ Unit) s₁).bind fun _ s₂ _ => ?_
  refine (Ends.ok_self (forwardAll : Task σ Unit) s₂).bind fun _ s₃ _ => ?_
  exact (Ends.ok_self (checkpoint : Task σ Unit) s₃).bind fun _ _ _ => rfl

/-- What a tool answers that is asked who holds a port. -/
def Session.told (s : Session σ) (program : String) (port : Port) :
    Option (Except SystemError Captured) :=
  (Host.capture ⟨program, ["-ti", s!":{port.toNat}"]⟩ (some toolLimit) s.host).1

namespace Probe

variable {program : String} {answer : Port → Option (Except SystemError Captured)}

/-- The error of a query that has not run. -/
def failure? (program : String) : Option (Except SystemError Captured) → Option SystemError
  | none => some (.custom .timedOut s!"{program} did not finish within 5s")
  | some (.error e) => some e
  | some (.ok _) => none

theorem mem_ofLines {c : Captured} {pid : Pid} :
    pid ∈ SocketTable.ofLines (decodeLossy c.out) ↔ c.Shows pid := by
  unfold SocketTable.ofLines Captured.Shows
  rw [SocketTable.mem_ordered, List.mem_filterMap]

/-- A query that runs gives the process ids that it shows, and one that does not its error. -/
theorem portOwners_tells (program : String) (port : Port) (s : Session σ) :
    Ends (portOwners program port : Task σ _) s
      (fun r _ =>
        match r with
        | .ok pids => ∃ c, s.told program port = some (.ok c) ∧ ∀ pid, pid ∈ pids ↔ c.Shows pid
        | .error e => failure? program (s.told program port) = some e)
      fun _ _ => True := by
  refine Ends.bind (Q := fun r _ =>
    match r with
    | .ok c => s.told program port = some (.ok c)
    | .error e => failure? program (s.told program port) = some e) ?_ fun r _ hr => ?_
  · refine (Task.capture_answers _ toolLimit s).bind fun r _ hr => ?_
    change r = s.told program port at hr
    match r with
    | none => exact hr ▸ rfl
    | some (.error _) => exact hr ▸ rfl
    | some (.ok _) => exact hr.symm
  · cases r with
    | ok c => exact ⟨c, hr, fun _ => mem_ofLines⟩
    | error e => exact hr

theorem portOwners_ends (hlists : Host.Lists σ program answer) (port : Port) (s : Session σ) :
    Ends (portOwners program port : Task σ _) s
      (fun r _ =>
        match r with
        | .ok pids => ∃ c, answer port = some (.ok c) ∧ ∀ pid, pid ∈ pids ↔ c.Shows pid
        | .error e => failure? program (answer port) = some e)
      fun _ _ => True := by
  have htold : s.told program port = answer port := hlists s.host port
  rw [← htold]
  exact portOwners_tells program port s

theorem report_ends (tool : String) (port : Port) (pids : List Pid) (s : Session σ) :
    Ends (report tool port pids : Task σ _) s (fun ts _ => ts.map (·.pid) = pids)
      fun _ _ => True := by
  induction pids generalizing s with
  | nil => rfl
  | cons pid pids ih =>
    rw [report, List.mapM_cons]
    refine Ends.bind (Q := fun t _ => t.pid = pid) ?_ fun t s₁ ht => ?_
    · rfl
    · refine (ih s₁).bind fun ts _ hts => ?_
      change t.pid :: ts.map (·.pid) = pid :: pids
      rw [ht, hts]

theorem failure?_eq_none (program : String) {a : Option (Except SystemError Captured)} :
    failure? program a = none ↔ Ran a := by
  match a with
  | none => simp [failure?, Ran]
  | some (.error e) => simp [failure?, Ran]
  | some (.ok c) => simp [failure?, Ran]

/-- The queries end with the error of the first that has not run, or with what all of them show. -/
theorem lsofTargets_ends (hlists : Host.Lists σ program answer) (ports : List Port)
    (s : Session σ) :
    Ends (lsofTargets program ports : Task σ _) s
      (fun r _ =>
        match r with
        | .ok ts => ports.findSome? (fun port => failure? program (answer port)) = none ∧
            ∀ pid, pid ∈ ts.map (·.pid) ↔
              ∃ port ∈ ports, ∃ c, answer port = some (.ok c) ∧ c.Shows pid
        | .error e => ports.findSome? (fun port => failure? program (answer port)) = some e)
      fun _ _ => True := by
  induction ports generalizing s with
  | nil => exact ⟨rfl, by simp⟩
  | cons port ports ih =>
    let failed (port : Port) := failure? program (answer port)
    refine (portOwners_ends hlists port s).bind fun r s₁ hr => ?_
    match r with
    | .error e =>
      have hfirst : (port :: ports).findSome? failed = some e := by
        rw [List.findSome?_cons, show failed port = some e from hr]
      exact hfirst
    | .ok pids =>
      obtain ⟨c, hc, hpids⟩ := hr
      have hran : failed port = none := (failure?_eq_none program).mpr ⟨c, hc⟩
      have hpassed : (port :: ports).findSome? failed = ports.findSome? failed := by
        rw [List.findSome?_cons, hran]
      refine (report_ends "lsof" port pids s₁).bind fun found s₂ hfound => ?_
      refine (ih s₂).bind fun rest _ hrest => ?_
      cases rest with
      | error e => exact hpassed.trans hrest
      | ok ts =>
        obtain ⟨hnone, hts⟩ := hrest
        refine ⟨hpassed.trans hnone, fun pid => ?_⟩
        rw [List.map_append, List.mem_append, hfound, hpids, hts, List.exists_mem_cons_iff]
        refine or_congr_left ⟨fun h => ⟨c, hc, h⟩, fun ⟨c', hc', h⟩ => ?_⟩
        obtain rfl : c = c' := by simpa [hc] using hc'
        exact h

/-- The process ids that a probe contributes to a pass. -/
def contributed : Except SystemError (List Target) → List Pid
  | .ok ts => ts.map (·.pid)
  | .error _ => []

/-- If every query runs, the probe contributes each process id that one of them shows, whatever the
order of the ports, and no others. If one does not, it fails with the error of the first such query
and contributes none. Only a request for shutdown ends it otherwise. -/
theorem every_holder_is_found_if_all_queries_run (hlists : Host.Lists σ program answer)
    (ports : List Port) (patterns : List Pattern) (s : Session σ) :
    Ends ((lsof program : Probe σ).discover ⟨ports, patterns⟩) s
      (fun r _ =>
        ((∀ port ∈ ports, Ran (answer port)) → (∃ ts, r = .ok ts) ∧ ∀ pid, pid ∈ contributed r ↔
          ∃ port ∈ ports, ∃ c, answer port = some (.ok c) ∧ c.Shows pid) ∧
        ∀ e, ports.findSome? (fun port => failure? program (answer port)) = some e → r = .error e)
      fun e _ => e = .interrupted ∧ s.interruptible = true := by
  have hhalts := (steady_coversTools (σ := σ)).lsof program ⟨ports, patterns⟩ s
  refine ((lsofTargets_ends hlists ports s).and hhalts).mono (fun r _ hr => ?_) fun e _ he =>
    he.2.resolve_right id
  obtain ⟨hr, -⟩ := hr
  cases r with
  | ok ts =>
    obtain ⟨hnone, hts⟩ := hr
    exact ⟨fun _ => ⟨⟨ts, rfl⟩, hts⟩, fun e he => absurd (hnone.symm.trans he) nofun⟩
  | error e =>
    refine ⟨fun hran => ?_, fun e' he' => ?_⟩
    · have hnone := List.findSome?_eq_none_iff.mpr fun port hport =>
        (failure?_eq_none program).mpr (hran port hport)
      exact absurd (hnone.symm.trans hr) nofun
    · rw [Option.some.inj (hr.symm.trans he')]

end Probe

namespace Simulation.Toolbox

theorem lists (answers : List (List String × Except SystemError Captured)) (program : String) :
    Host.Lists (Toolbox answers) program (ofPort answers) := fun _ _ => rfl

/-- Two holders of one port and one of another. -/
def bothPorts : List (List String × Except SystemError Captured) :=
  [(["-ti", ":3002"], printed "123\n456\n"), (["-ti", ":3004"], printed "9\n")]

/-- The query for the second port does not finish. -/
def onePort : List (List String × Except SystemError Captured) :=
  [(["-ti", ":3002"], printed "123\n")]

end Simulation.Toolbox

namespace Probe

open Simulation

theorem every_holder_is_found_if_all_queries_run_for_both_ports :
    Host.Lists (Toolbox Toolbox.bothPorts) "lsof" (Toolbox.ofPort Toolbox.bothPorts) ∧
    (∀ port ∈ [3004, 3002], Ran (Toolbox.ofPort Toolbox.bothPorts port)) ∧
    Ends ((lsof "lsof" : Probe (Toolbox Toolbox.bothPorts)).discover ⟨[3004, 3002], []⟩)
      (Session.start ⟨⟩ .absent) (fun r _ => ∀ pid ∈ [9, 123, 456], pid ∈ contributed r)
      fun _ _ => False := by
  have hlists := Toolbox.lists Toolbox.bothPorts "lsof"
  have hran : ∀ port ∈ [3004, 3002], Ran (Toolbox.ofPort Toolbox.bothPorts port) := by
    simp only [List.forall_mem_cons]
    exact ⟨⟨_, rfl⟩, ⟨_, rfl⟩, nofun⟩
  have hends := every_holder_is_found_if_all_queries_run hlists [3004, 3002] []
    (Session.start ⟨⟩ .absent)
  refine ⟨hlists, hran, hends.mono (fun r _ hr pid hpid => ?_) fun e _ he => nomatch he.2⟩
  have hshown : ∃ port ∈ [3004, 3002], ∃ c,
      Toolbox.ofPort Toolbox.bothPorts port = some (.ok c) ∧ c.Shows pid := by
    simp only [List.mem_cons, List.not_mem_nil, or_false] at hpid
    rcases hpid with rfl | rfl | rfl
    · exact ⟨3004, by decide, _, rfl, by decide +kernel⟩
    · exact ⟨3002, by decide, _, rfl, by decide +kernel⟩
    · exact ⟨3002, by decide, _, rfl, by decide +kernel⟩
  exact ((hr.1 hran).2 pid).mpr hshown

/-- The query for the first port runs and shows a process, the one for the second does not finish,
and the process is lost. -/
theorem failing_query_loses_other_ports :
    ¬ ∀ (σ : Type) [Host σ] (program : String)
      (answer : Port → Option (Except SystemError Captured)), Host.Lists σ program answer →
      ∀ (ports : List Port) (patterns : List Pattern) (s : Session σ),
        Ends ((lsof program : Probe σ).discover ⟨ports, patterns⟩) s
          (fun r _ => ∀ port ∈ ports, ∀ c, answer port = some (.ok c) →
            ∀ pid, c.Shows pid → pid ∈ contributed r)
          fun e _ => e = .interrupted ∧ s.interruptible = true := by
  intro hall
  let start : Session (Toolbox Toolbox.onePort) := Session.start ⟨⟩ .absent
  have hlists := Toolbox.lists Toolbox.onePort "lsof"
  have hclaimed := hall _ "lsof" _ hlists [3002, 3004] [] start
  have hends := hclaimed.and (lsofTargets_ends hlists [3002, 3004] start)
  have htotal := hends.mono (fun _ _ h => h) fun e _ he => show False from nomatch he.1.2
  obtain ⟨r, -, -, hr, hfirst⟩ := htotal.exists_ok
  have hfound : 123 ∈ contributed r := hr 3002 (by decide) _ rfl 123 (by decide +kernel)
  cases r with
  | ok ts => exact absurd hfirst.1 nofun
  | error e => exact absurd hfound List.not_mem_nil

end Probe

end LatencyHarness
