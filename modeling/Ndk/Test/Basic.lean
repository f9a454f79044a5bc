import Ndk.Python
import Mathlib.Data.List.Infix

/-!
# The data of `run_tests`: test cases, test runs and results

`ndk.test.devices` and `ndk.test.result` are not part of the sources; a device is a value of
a type `D`, what it can run is a parameter `canRunBuildConfig`, and results follow the
spec's five-way variant. A result records the test it is about, as the source's results do.

* `TestRun.run`: a result from what the device and the test's configuration answer; it
  never raises, since `make_result` only ever hands `fixup_xfail` a pass or a failure.
* `flakeFilter`: `flake_filter`, which never accepts an `UnexpectedSuccess`.
-/

namespace Ndk

/-- Python's `sub in s` for strings. -/
def strContains (s sub : String) : Bool := decide (sub.toList <:+: s.toList)

/-- A `DeviceGroup`: the devices the fleet treats as interchangeable. -/
structure DeviceGroup (D : Type*) where
  devices : List D
  deriving DecidableEq

/-- A `TestCase` found in the dist directory, with the fields the modelled code reads. -/
structure TestCase (C : Type*) where
  name : String
  config : C
  buildSystem : String
  deriving DecidableEq

/-- A `TestRun`: a test case mapped to the device group it will run on. -/
structure TestRun (C D : Type*) where
  testCase : TestCase C
  deviceGroup : DeviceGroup D
  deriving DecidableEq

/-- `TestRun.name`. -/
def TestRun.name {C D : Type*} (t : TestRun C D) : String := t.testCase.name

/-- `TestRun.build_system`. -/
def TestRun.buildSystem {C D : Type*} (t : TestRun C D) : String := t.testCase.buildSystem

/-- `ndk.test.result`, modelled from the spec: Success, Failure(message), Skipped(reason),
ExpectedFailure(reason, bug-id) and UnexpectedSuccess(reason, bug-id), each about a test. -/
inductive Result (τ : Type*)
  | success (test : τ)
  | failure (test : τ) (message : String)
  | skipped (test : τ) (reason : String)
  | expectedFailure (test : τ) (config bug : String)
  | unexpectedSuccess (test : τ) (config bug : String)
  deriving DecidableEq

namespace Result

variable {τ : Type*}

/-- `result.test`. -/
def test : Result τ → τ
  | success t | failure t _ | skipped t _ | expectedFailure t _ _ | unexpectedSuccess t _ _ => t

/-- `result.failed()`, modelled from the spec: a failure or an unexpected success. -/
def failed : Result τ → Bool
  | failure .. | unexpectedSuccess .. => true
  | _ => false

/-- `result.passed()`, modelled from the spec: a success or an expected failure. -/
def passed : Result τ → Bool
  | success _ | expectedFailure .. => true
  | _ => false

end Result

/-- What one execution of a test on a device answers: `check_unsupported(device)`,
`check_broken(device)` (a config and a bug, or none), the exit status and output of
`test_case.run(device)`, and `str(device)`. -/
structure Execution where
  unsupported : Option String
  broken : Option (String × String)
  status : ℤ
  out : String
  device : String

namespace TestRun

variable {τ : Type*}

/-- `TestRun.fixup_xfail(result, device)`. -/
def fixupXfail (self : τ) (result : Result τ) (broken : Option (String × String)) :
    Except PyError (Result τ) :=
  match broken with
  | some (config, bug) =>
    if result.failed then .ok (.expectedFailure self config bug)
    else if result.passed then .ok (.unexpectedSuccess self config bug)
    else .error (.valueError "Test result must have either failed or passed.")
  | none => .ok result

/-- `TestRun.make_result(adb_result_tuple, device)`. -/
def makeResult (self : τ) (e : Execution) : Except PyError (Result τ) :=
  let result := if e.status = 0 then .success self else .failure self ("\n".intercalate [e.device, e.out])
  fixupXfail self result e.broken

/-- `TestRun.run(device)`. -/
def run (self : τ) (e : Execution) : Except PyError (Result τ) :=
  match e.unsupported with
  | some config => .ok (.skipped self ("test unsupported for " ++ config))
  | none => makeResult self e

/-- `TestRun.run` never raises, and the result is about the test run. -/
theorem run_ok (self : τ) (e : Execution) : ∃ r, run self e = .ok r ∧ r.test = self := by
  unfold run makeResult fixupXfail
  rcases e with ⟨_ | u, _ | ⟨c, b⟩, st, out, dev⟩ <;>
    by_cases hs : st = 0 <;> simp [hs, Result.failed, Result.passed, Result.test]

end TestRun

/-- `flake_filter(result)`, for a result that failed (`remove_all_failing_flaky` only asks
about those): a failure whose output lost the exit status, or one of the timing-sensitive
libc++ thread tests. -/
def flakeFilter {τ : Type*} (name : τ → String) : Result τ → Bool
  | .unexpectedSuccess .. => false
  | .failure t message =>
    strContains message "Could not find exit status in shell output." ||
      strContains (name t) "libc++.libcxx/thread" || strContains (name t) "libc++.std/thread"
  | _ => false

end Ndk
