import Ndk.Test.Sharding

/-!
# The run phase of `run_tests`

Each test run is submitted once to the sharding work queue, on its device group;
`wait_for_results` files every result in the report under its test's build system;
`restart_flaky_tests` takes the failing results `flake_filter` accepts out of the report and
submits their test runs again; a second `wait_for_results` files the new results.
`ndk.test.report` is not part of the sources: the report is modelled from the spec, as the
list of results with their build systems, and `remove_all_failing_flaky(pred)` removes and
returns exactly the failing entries `pred` accepts.

A test run is an object, told apart from an equal one by its place in the list of test runs.
The queue is the one of `Ndk.Test.Sharding`, its workers running `run_test`; before each
`get_result` the workers take the steps a schedule gives, with what the devices answer, so
every completion order and every outcome of every execution is one schedule.

* `waitForResults_eq_some`: a wait that returns has filed, in order, what `get_result`
  returned, and leaves the queue finished.
* `restartFlakyTests_idempotent`: restarting takes out every failure `flake_filter` accepts,
  so restarting again changes nothing.
* `runPhase_rounds`: the run phase in two rounds, a first result for each test run and a
  second one for each whose first result was a failure `flake_filter` accepted.
* `runPhase_report`: so the report holds one result per test run, under its build system; a
  test run ran twice exactly when its first result failed and `flake_filter` accepted it,
  never three times, and the report keeps its last result.
-/

namespace Ndk

/-- `ndk.test.report.Report`, modelled from the spec: the results with the build system each
was filed under, in the order `add_result` received them. -/
structure Report (τ : Type) where
  entries : List (String × Result τ)

namespace Report

variable {τ : Type}

/-- `report.add_result(suite, result)`. -/
def addResult (report : Report τ) (suite : String) (result : Result τ) : Report τ :=
  ⟨report.entries ++ [(suite, result)]⟩

/-- `report.remove_all_failing_flaky(pred)`: the entries whose result failed and satisfies
`pred`, taken out of the report. -/
def removeAllFailingFlaky (report : Report τ) (pred : Result τ → Bool) :
    List (String × Result τ) × Report τ :=
  (report.entries.filter fun e => e.2.failed && pred e.2,
    ⟨report.entries.filter fun e => !(e.2.failed && pred e.2)⟩)

end Report

/-- A test run as an object: its place in the list of test runs, and the test run. -/
abbrev TestRunRef (C D : Type) := ℕ × TestRun C D

/-- A worker step between two `get_result` calls. -/
inductive WorkerStep (Ω : Type)
  | take (worker : ℕ)
  | finish (worker : ℕ) (outcome : Ω)

/-- The queue action of a worker step. -/
def WorkerStep.toAction {D α Ω : Type} : WorkerStep Ω → Action D α Ω
  | take i => .take i
  | finish i o => .finish i o

section Phase

variable {C D : Type} [DecidableEq D]

/-- `run_test(worker, test)`: `test.run(device)` on the worker's device, which answers with
the execution. -/
def runTest (_device : D) (test : TestRunRef C D) (e : Execution) :
    Option (Result (TestRunRef C D)) :=
  (TestRun.run test e).toOption

/-- The sharding work queue of the run phase. -/
abbrev RunQueue (C D : Type) := Shard D (TestRunRef C D) (Result (TestRunRef C D))

/-- `wait_for_results(report, workqueue, printer)`: while `finished()` is false, take a
result with `get_result()` and file it under its test's build system. Before each call the
workers take the steps the schedule gives; the loop does not return normally when the
schedule runs out first, or when `get_result` would block for good or raises. -/
def waitForResults : List (List (WorkerStep Execution)) →
    Report (TestRunRef C D) × RunQueue C D → Option (Report (TestRunRef C D) × RunQueue C D)
  | sched, (report, s) =>
    if s.finished then some (report, s)
    else match sched with
      | [] => none
      | steps :: sched =>
        match (s.run runTest (steps.map WorkerStep.toAction)).getResult with
        | some (.ok result, s') =>
          waitForResults sched (report.addResult result.test.2.buildSystem result, s')
        | _ => none

/-- `restart_flaky_tests(report, workqueue)`. -/
def restartFlakyTests (report : Report (TestRunRef C D)) (s : RunQueue C D) :
    Except PyError (Report (TestRunRef C D) × RunQueue C D) := do
  let (rerunTests, report) := report.removeAllFailingFlaky (flakeFilter fun t => t.2.name)
  let s ← rerunTests.foldlM (fun (s : RunQueue C D) flakyReport =>
    s.addTask flakyReport.2.test.2.deviceGroup flakyReport.2.test) s
  pure (report, s)

/-- The results `restart_flaky_tests` takes out of the report: those that failed and that
`flake_filter` accepts. -/
def failingFlaky (r : Result (TestRunRef C D)) : Bool := r.failed && flakeFilter (fun t => t.2.name) r

/-- The run phase of `run_tests` over `test_runs`, as `pair_test_runs` made them and
`random.shuffle` ordered them, on a `ShardingWorkQueue` of 4 workers per device over the
fleet's groups: one `add_task` per test run on its device group, `wait_for_results`,
`restart_flaky_tests`, `wait_for_results`, from an empty report. -/
def runPhase (deviceGroups : List (DeviceGroup D)) (testRuns : List (TestRun C D))
    (sched₁ sched₂ : List (List (WorkerStep Execution))) :
    Option (Report (TestRunRef C D) × RunQueue C D) := do
  let s ← (testRuns.enum.foldlM (fun (s : RunQueue C D) testRun =>
    s.addTask testRun.2.deviceGroup testRun) (ShardingWorkQueue.init deviceGroups 4)).toOption
  let (report, s) ← waitForResults sched₁ (⟨[]⟩, s)
  let (report, s) ← (restartFlakyTests report s).toOption
  waitForResults sched₂ (report, s)

end Phase

/-! ### What the queue's operations leave alone -/

namespace Shard

variable {D α β Ω : Type} [DecidableEq D] {perform : D → α → Ω → Option β} {s s' : Shard D α β}

/-- A worker step changes neither what was submitted nor what `get_result` returned. -/
theorem step_toAction (st : WorkerStep Ω) :
    (s.step perform st.toAction).submitted = s.submitted ∧
      (s.step perform st.toAction).returned = s.returned := by
  cases st with
  | take i =>
    show ((s.take i).getD s).submitted = _ ∧ ((s.take i).getD s).returned = _
    cases h : s.take i with
    | none => exact ⟨rfl, rfl⟩
    | some s' => obtain ⟨_, _, _, -, -, -, rfl⟩ := take_eq_some h; exact ⟨rfl, rfl⟩
  | finish i o =>
    show ((s.finish perform i o).getD s).submitted = _ ∧ ((s.finish perform i o).getD s).returned = _
    cases h : s.finish perform i o with
    | none => exact ⟨rfl, rfl⟩
    | some s' => obtain ⟨_, _, -, -, rfl⟩ := finish_eq_some h; exact ⟨rfl, rfl⟩

theorem run_toAction (steps : List (WorkerStep Ω)) :
    (s.run perform (steps.map WorkerStep.toAction)).submitted = s.submitted ∧
      (s.run perform (steps.map WorkerStep.toAction)).returned = s.returned := by
  induction steps generalizing s with
  | nil => exact ⟨rfl, rfl⟩
  | cons st steps ih => exact ⟨ih.1.trans (step_toAction st).1, ih.2.trans (step_toAction st).2⟩

/-- `add_task` over a list, as the run phase and `restart_flaky_tests` call it: the actions of
a run, which submit the arguments in order and return nothing. -/
theorem addTasks_eq_ok (perform : D → α → Ω → Option β) {γ : Type} {group : γ → DeviceGroup D}
    {arg : γ → α} :
    ∀ {xs : List γ} {s s' : Shard D α β},
      xs.foldlM (fun s x => s.addTask (group x) (arg x)) s = .ok s' →
      s.run perform (xs.map fun x => .addTask (group x) (arg x)) = s' ∧
        s'.submitted.map (·.1.arg) = s.submitted.map (·.1.arg) ++ xs.map arg ∧
        s'.returned = s.returned
  | [], s, s', h => by cases h; exact ⟨rfl, by simp, rfl⟩
  | x :: xs, s, s', h => by
    rw [List.foldlM_cons] at h
    cases hx : s.addTask (group x) (arg x) with
    | error e => rw [hx] at h; cases h
    | ok s₁ =>
      rw [hx, except_ok_bind] at h
      obtain ⟨hrun, hsub, hret⟩ := addTasks_eq_ok perform h
      obtain ⟨q, -, hs₁⟩ := addTask_eq_ok hx
      have hstep : s.step perform (.addTask (group x) (arg x)) = s₁ := by simp only [step, hx]
      refine ⟨by rw [List.map_cons, run, List.foldl_cons, hstep]; exact hrun, ?_, ?_⟩
      · rw [hsub, hs₁]; simp
      · rw [hret, hs₁]

end Shard

/-! ### The two loops of the run phase -/

section Loops

variable {C D : Type} [DecidableEq D] {report report' : Report (TestRunRef C D)}
  {s s' : RunQueue C D}

omit [DecidableEq D] in
/-- `run_test` never raises, and its result is about the test run it was given. -/
theorem runTest_ok (d : D) (t : TestRunRef C D) (e : Execution) :
    ∃ r, runTest d t e = some r ∧ r.test = t := by
  obtain ⟨r, hr, ht⟩ := TestRun.run_ok t e
  exact ⟨r, by simp [runTest, hr, Except.toOption], ht⟩

/-- **A wait that returns** leaves the queue finished and its submissions as they were, and
has filed in order, under their test's build system, the results `get_result` returned. -/
theorem waitForResults_eq_some (sched : List (List (WorkerStep Execution))) (hi : s.Inv)
    (hs : s.Sound fun a r => r.test = a) (h : waitForResults sched (report, s) = some (report', s')) :
    s'.Inv ∧ (s'.Sound fun a r => r.test = a) ∧ s'.finished ∧ s'.submitted = s.submitted ∧
      ∃ rs, s'.returned = s.returned ++ rs ∧
        report'.entries = report.entries ++ rs.map fun p => (p.2.test.2.buildSystem, p.2) := by
  induction sched generalizing report s with
  | nil =>
    unfold waitForResults at h
    split at h
    · cases h; exact ⟨hi, hs, ‹_›, rfl, [], by simp, by simp⟩
    · cases h
  | cons steps sched ih =>
    unfold waitForResults at h
    split at h
    · cases h; exact ⟨hi, hs, ‹_›, rfl, [], by simp, by simp⟩
    dsimp only at h
    have hi₁ : (s.run runTest (steps.map WorkerStep.toAction)).Inv := hi.run _
    have hs₁ := hs.run runTest_ok (steps.map WorkerStep.toAction)
    obtain ⟨hsub₁, hret₁⟩ : (s.run runTest (steps.map WorkerStep.toAction)).submitted = s.submitted ∧
      (s.run runTest (steps.map WorkerStep.toAction)).returned = s.returned := Shard.run_toAction steps
    generalize s.run runTest (steps.map WorkerStep.toAction) = s₁ at h hi₁ hs₁ hsub₁ hret₁
    rcases hg : s₁.getResult with _ | ⟨r, s₂⟩
    · rw [hg] at h; cases h
    rcases Shard.getResult_eq_some hg with ⟨t, rest, -, rfl, -⟩ | ⟨t, v, rest, -, rfl, hs₂⟩
    · rw [hg] at h; cases h
    rw [hg] at h
    have hstep : s₁.step runTest .getResult = s₂ := by simp only [Shard.step, hg]
    obtain ⟨hi', hs', hf', hsub', rs, hret', hrep'⟩ :=
      ih (hi₁.getResult hg) (hstep ▸ hs₁.step runTest_ok .getResult) h
    refine ⟨hi', hs', hf', by rw [hsub', hs₂, hsub₁], (t, v) :: rs, ?_, ?_⟩
    · rw [hret', hs₂, hret₁]; simp
    · rw [hrep']; simp [Report.addResult]

/-- `restart_flaky_tests` leaves in the report the entries it does not restart, and submits,
as the actions of a run, the test runs of those it does. -/
theorem restartFlakyTests_eq_ok (h : restartFlakyTests report s = .ok (report', s')) :
    let rerun := report.entries.filter fun e => failingFlaky e.2
    report'.entries = report.entries.filter (fun e => !failingFlaky e.2) ∧
      s.run runTest (rerun.map fun e => .addTask e.2.test.2.deviceGroup e.2.test) = s' ∧
      s'.submitted.map (·.1.arg) = s.submitted.map (·.1.arg) ++ rerun.map (·.2.test) ∧
      s'.returned = s.returned := by
  obtain ⟨s₁, hfold, hpure⟩ := except_bind_eq_ok.1 h
  cases hpure
  exact ⟨rfl, Shard.addTasks_eq_ok runTest hfold⟩

/-- With no failure `flake_filter` accepts in the report, `restart_flaky_tests` changes
neither the report nor the queue. -/
theorem restartFlakyTests_of_none (h : ∀ e ∈ report.entries, failingFlaky e.2 = false) :
    restartFlakyTests report s = .ok (report, s) := by
  have hkeep : report.entries.filter (fun e => !failingFlaky e.2) = report.entries :=
    List.filter_eq_self.2 fun e he => by simp [h e he]
  have hnone : report.entries.filter (fun e => failingFlaky e.2) = [] :=
    List.filter_eq_nil_iff.2 fun e he => by simp [h e he]
  simp only [failingFlaky] at hkeep hnone
  simp only [restartFlakyTests, Report.removeAllFailingFlaky, hnone, hkeep]
  rfl

omit [DecidableEq D] in
/-- A finished queue on which every value was a result about its task's test run: one result
per submitted test run, and one per execution. -/
theorem finished_results (hi : s.Inv) (hs : s.Sound fun a r => r.test = a) (hf : s.finished) :
    ((s.returned.map Prod.snd).map Result.test).Perm (s.submitted.map (·.1.arg)) ∧
      (s.executed.map (·.1.arg)).Perm ((s.returned.map Prod.snd).map Result.test) := by
  have htest : (s.returned.map Prod.snd).map Result.test = s.returned.map (·.1.arg) := by
    rw [List.map_map]; exact List.map_congr_left fun p hp => hs.returned_ok p hp
  rw [htest]
  refine ⟨?_, ?_⟩
  · simpa only [List.map_map] using ((hi.finished_iff hs.raised_nil).1 hf).map Task.arg
  · simpa only [List.map_map] using (hi.executed_perm hs.raised_nil hf).map Task.arg

end Loops

/-! ### Two rounds of results -/

section Rounds

variable {γ τ : Type} [DecidableEq τ]

/-- The elements a function sends to `o`, counted. -/
theorem length_filter_eq_count (f : γ → τ) (L : List γ) (o : τ) :
    (L.filter fun x => f x = o).length = (L.map f).count o := by
  rw [List.count, List.countP_map, List.countP_eq_length_filter]; rfl

variable (ff : Result τ → Bool) {O : List τ} {L₁ L₂ : List (Result τ)}

omit [DecidableEq τ] in
/-- What the report keeps of two rounds is about each object once. -/
theorem rounds_perm (h₁ : (L₁.map Result.test).Perm O)
    (h₂ : (L₂.map Result.test).Perm ((L₁.filter ff).map Result.test)) :
    ((L₁.filter (!ff ·) ++ L₂).map Result.test).Perm O := by
  rw [List.map_append]
  calc List.Perm _ ((L₁.filter (!ff ·)).map Result.test ++ (L₁.filter ff).map Result.test) :=
        h₂.append_left _
    List.Perm _ ((L₁.filter ff ++ L₁.filter (!ff ·)).map Result.test) := by
        rw [List.map_append]; exact List.perm_append_comm
    List.Perm _ (L₁.map Result.test) := (List.filter_append_perm ff L₁).map _
    List.Perm _ O := h₁

/-- **One object in two rounds.** When the first round has one result about each object and
the second one about each object whose first result `ff` accepted, an object has one result,
which `ff` rejects, or two, of which `ff` accepted the first. -/
theorem rounds_filter (hn : O.Nodup) (h₁ : (L₁.map Result.test).Perm O)
    (h₂ : (L₂.map Result.test).Perm ((L₁.filter ff).map Result.test)) {o : τ} (ho : o ∈ O) :
    (∃ r ∈ L₁, (L₁ ++ L₂).filter (·.test = o) = [r] ∧ ff r = false) ∨
      ∃ r₁ r₂, r₂ ∈ L₂ ∧ (L₁ ++ L₂).filter (·.test = o) = [r₁, r₂] ∧ ff r₁ = true := by
  obtain ⟨r₁, hr₁⟩ := List.length_eq_one.1 <| (length_filter_eq_count Result.test L₁ o).trans <|
    (h₁.count_eq o).trans (List.count_eq_one_of_mem hn ho)
  have hm₁ : r₁ ∈ L₁ := (List.mem_filter.1 (hr₁ ▸ List.mem_singleton_self r₁)).1
  have hlen₂ : (L₂.filter (·.test = o)).length = ([r₁].filter ff).length := by
    rw [length_filter_eq_count, h₂.count_eq, ← length_filter_eq_count, ← hr₁, List.filter_filter,
      List.filter_filter]
    congr 2; funext r; exact Bool.and_comm ..
  rw [List.filter_append, hr₁]
  cases hf : ff r₁
  · left
    rw [List.filter_singleton, hf, cond_false, List.length_nil, List.length_eq_zero] at hlen₂
    exact ⟨r₁, hm₁, by rw [hlen₂]; rfl, hf⟩
  · right
    rw [List.filter_singleton, hf, cond_true] at hlen₂
    obtain ⟨r₂, hr₂⟩ := List.length_eq_one.1 hlen₂
    exact ⟨r₁, r₂, (List.mem_filter.1 (hr₂ ▸ List.mem_singleton_self r₂)).1, by rw [hr₂]; rfl, hf⟩

end Rounds

/-! ### The run phase -/

section Phase

variable {C D : Type} [DecidableEq D] {deviceGroups : List (DeviceGroup D)}
  {testRuns : List (TestRun C D)} {sched₁ sched₂ : List (List (WorkerStep Execution))}
  {report : Report (TestRunRef C D)} {s : RunQueue C D}

theorem runPhase_eq_some (h : runPhase deviceGroups testRuns sched₁ sched₂ = some (report, s)) :
    ∃ s₁ report₁ s₂ report₂ s₃,
      testRuns.enum.foldlM (fun (s : RunQueue C D) testRun => s.addTask testRun.2.deviceGroup testRun)
        (ShardingWorkQueue.init deviceGroups 4) = .ok s₁ ∧
      waitForResults sched₁ (⟨[]⟩, s₁) = some (report₁, s₂) ∧
      restartFlakyTests report₁ s₂ = .ok (report₂, s₃) ∧
      waitForResults sched₂ (report₂, s₃) = some (report, s) := by
  simp only [runPhase, Option.bind_eq_bind, Option.bind_eq_some, toOption_eq_some] at h
  obtain ⟨s₁, h₁, ⟨report₁, s₂⟩, h₂, ⟨report₂, s₃⟩, h₃, h₄⟩ := h
  exact ⟨s₁, report₁, s₂, report₂, s₃, h₁, h₂, h₃, h₄⟩

/-- **The run phase in two rounds.** When it returns, the results `get_result` returned are a
first round, one about each test run, then a second, one about each test run whose first
result was a failure `flake_filter` accepted; the report holds the first-round results it
did not restart and the second round, each under its test's build system; and each
execution gave one of these results. -/
theorem runPhase_rounds (h : runPhase deviceGroups testRuns sched₁ sched₂ = some (report, s)) :
    ∃ L₁ L₂ : List (Result (TestRunRef C D)),
      (L₁.map Result.test).Perm testRuns.enum ∧
      (L₂.map Result.test).Perm ((L₁.filter failingFlaky).map Result.test) ∧
      report.entries = (L₁.filter (!failingFlaky ·) ++ L₂).map (fun r => (r.test.2.buildSystem, r)) ∧
      s.returned.map Prod.snd = L₁ ++ L₂ ∧
      (s.executed.map (·.1.arg)).Perm ((L₁ ++ L₂).map Result.test) := by
  obtain ⟨s₁, report₁, s₂, report₂, s₃, h₁, h₂, h₃, h₄⟩ := runPhase_eq_some h
  obtain ⟨hi₀, -⟩ : (ShardingWorkQueue.init deviceGroups 4 : RunQueue C D).Inv ∧ _ :=
    init_inv deviceGroups 4
  obtain ⟨hrun₁, hsub₁, hret₁⟩ := Shard.addTasks_eq_ok runTest h₁
  have h₀ : (ShardingWorkQueue.init deviceGroups 4 : RunQueue C D).submitted = [] ∧
      (ShardingWorkQueue.init deviceGroups 4 : RunQueue C D).returned = [] := ⟨rfl, rfl⟩
  rw [h₀.1, List.map_nil, List.nil_append, List.map_id'] at hsub₁
  rw [h₀.2] at hret₁
  have hi₁ : s₁.Inv := hrun₁ ▸ hi₀.run _
  have hs₁ : s₁.Sound fun a r => r.test = a := hrun₁ ▸ (init_sound _ _ _).run runTest_ok _
  obtain ⟨hi₂, hs₂, hf₂, hsub₂, rs₁, hret₂, hrep₁⟩ := waitForResults_eq_some sched₁ hi₁ hs₁ h₂
  obtain ⟨hrep₂, hrun₃, hsub₃, hret₃⟩ := restartFlakyTests_eq_ok h₃
  have hi₃ : s₃.Inv := hrun₃ ▸ hi₂.run _
  have hs₃ : s₃.Sound fun a r => r.test = a := hrun₃ ▸ hs₂.run runTest_ok _
  obtain ⟨hi₄, hs₄, hf₄, hsub₄, rs₂, hret₄, hrep₃⟩ := waitForResults_eq_some sched₂ hi₃ hs₃ h₄
  have hfirst : ((rs₁.map Prod.snd).map Result.test).Perm testRuns.enum := by
    simpa [hret₂, hret₁, hsub₂, hsub₁] using (finished_results hi₂ hs₂ hf₂).1
  have hrerun : ((report₁.entries.filter fun e => failingFlaky e.2).map (·.2.test)) =
      ((rs₁.map Prod.snd).filter failingFlaky).map Result.test := by
    simp [hrep₁, List.filter_map, Function.comp_def]
  have hret : s.returned.map Prod.snd = rs₁.map Prod.snd ++ rs₂.map Prod.snd := by
    simp [hret₄, hret₃, hret₂, hret₁]
  obtain ⟨hall, hexe⟩ := finished_results hi₄ hs₄ hf₄
  rw [hret, hsub₄, hsub₃, hsub₂, hsub₁, hrerun, List.map_append] at hall
  refine ⟨rs₁.map Prod.snd, rs₂.map Prod.snd, hfirst, ?_, ?_, hret, hret ▸ hexe⟩
  · exact (List.perm_append_left_iff _).1 ((hfirst.append_right _).symm.trans hall)
  · simp [hrep₃, hrep₂, hrep₁, List.filter_map, Function.comp_def]

/-- **The report of the run phase.** For every list of test runs, every completion order and
every outcome of every execution, when the run phase returns: the report holds one result
about each test run, filed under its build system; and of the results `get_result` returned
about a test run, as many as it had executions, there is one, not a failure `flake_filter`
accepts, or two, the first a failure `flake_filter` accepted, and the report holds the last. -/
theorem runPhase_report [DecidableEq C] (deviceGroups : List (DeviceGroup D))
    (testRuns : List (TestRun C D)) (sched₁ sched₂ : List (List (WorkerStep Execution)))
    (report : Report (TestRunRef C D)) (s : RunQueue C D)
    (h : runPhase deviceGroups testRuns sched₁ sched₂ = some (report, s)) :
    (report.entries.map (·.2.test)).Perm testRuns.enum ∧
    (∀ e ∈ report.entries, e.1 = e.2.test.2.buildSystem) ∧
    ∀ o ∈ testRuns.enum,
      let results := (s.returned.map Prod.snd).filter (·.test = o)
      (s.executed.filter (·.1.arg = o)).length = results.length ∧
      ((∃ r, results = [r] ∧ ¬(r.failed ∧ flakeFilter (fun t => t.2.name) r) ∧
          (o.2.buildSystem, r) ∈ report.entries) ∨
        ∃ r₁ r₂, results = [r₁, r₂] ∧ r₁.failed ∧ flakeFilter (fun t => t.2.name) r₁ ∧
          (o.2.buildSystem, r₂) ∈ report.entries) := by
  obtain ⟨L₁, L₂, h₁, h₂, hrep, hret, hexe⟩ := runPhase_rounds h
  have hn : testRuns.enum.Nodup := List.Nodup.of_map Prod.fst (by simpa using List.nodup_range _)
  have hfiled : ∀ r ∈ L₁.filter (!failingFlaky ·) ++ L₂, (r.test.2.buildSystem, r) ∈ report.entries :=
    fun r hr => hrep ▸ List.mem_map_of_mem _ hr
  refine ⟨?_, fun e he => ?_, fun o ho => ?_⟩
  · rw [hrep, List.map_map]; exact rounds_perm failingFlaky h₁ h₂
  · rw [hrep] at he
    obtain ⟨r, -, rfl⟩ := List.mem_map.1 he
    rfl
  dsimp only
  rw [hret, length_filter_eq_count (fun e : Task (TestRunRef C D) × D => e.1.arg), hexe.count_eq,
    ← length_filter_eq_count]
  have htest : ∀ r ∈ (L₁ ++ L₂).filter (·.test = o), r.test = o := fun r hr =>
    of_decide_eq_true (List.mem_filter.1 hr).2
  rcases rounds_filter failingFlaky hn h₁ h₂ ho with ⟨r, hr, hf, hff⟩ | ⟨r₁, r₂, hr₂, hf, hff⟩
  · refine ⟨rfl, .inl ⟨r, hf, by simpa [failingFlaky] using hff, ?_⟩⟩
    rw [← htest r (by simp [hf])]
    exact hfiled r (List.mem_append_left _ (List.mem_filter.2 ⟨hr, by simp [hff]⟩))
  · simp only [failingFlaky, Bool.and_eq_true] at hff
    refine ⟨rfl, .inr ⟨r₁, r₂, hf, hff.1, hff.2, ?_⟩⟩
    rw [← htest r₂ (by simp [hf])]
    exact hfiled r₂ (List.mem_append_right _ hr₂)

/-- A thread test of libc++ fails, is restarted, and passes: the report keeps the pass. -/
theorem runPhase_report_thread_retry :
    let tr : TestRun Unit ℕ := ⟨⟨"libc++.std/thread/a", (), "libc++"⟩, ⟨[0]⟩⟩
    let fail : Execution := ⟨none, none, 1, "", "emulator"⟩
    let pass : Execution := ⟨none, none, 0, "", "emulator"⟩
    ∃ report s, runPhase [⟨[0]⟩] [tr] [[.take 0, .finish 0 fail]] [[.take 0, .finish 0 pass]] =
        some (report, s) ∧ report.entries = [("libc++", .success (0, tr))] ∧
      (report.entries.map (·.2.test)).Perm [tr].enum ∧
      (∀ e ∈ report.entries, e.1 = e.2.test.2.buildSystem) ∧
      ∀ o ∈ [tr].enum,
        let results := (s.returned.map Prod.snd).filter (·.test = o)
        (s.executed.filter (·.1.arg = o)).length = results.length ∧
        ((∃ r, results = [r] ∧ ¬(r.failed ∧ flakeFilter (fun t => t.2.name) r) ∧
            (o.2.buildSystem, r) ∈ report.entries) ∨
          ∃ r₁ r₂, results = [r₁, r₂] ∧ r₁.failed ∧ flakeFilter (fun t => t.2.name) r₁ ∧
            (o.2.buildSystem, r₂) ∈ report.entries) := by
  intro tr fail pass
  have he : (runPhase [⟨[0]⟩] [tr] [[.take 0, .finish 0 fail]] [[.take 0, .finish 0 pass]]).map
      (·.1.entries) = some [("libc++", .success (0, tr))] := by decide
  rcases h : runPhase [⟨[0]⟩] [tr] [[.take 0, .finish 0 fail]] [[.take 0, .finish 0 pass]] with
    _ | ⟨report, s⟩ <;> rw [h] at he
  · cases he
  · exact ⟨report, s, rfl, Option.some.inj he, runPhase_report _ _ _ _ _ _ h⟩

end Phase

end Ndk
