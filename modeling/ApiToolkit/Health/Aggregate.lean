import Mathlib.Data.List.Nodup

/-!
# Aggregating health checks

The health manager of `src/unnamed/part_004` and `CompositeChecker` of `src/health/checkers.go`.
Three loops turn the results of several checks into one status. `GetDetailedHealth` counts the
results by status and takes unhealthy if any is unhealthy, else degraded, else healthy, else
unknown: that is the rule `worstStatus` (`overallOf_summarize`). `performChecks` and
`CompositeChecker.Check` run their checks in one loop (`checkLoop`) that returns at the first
unhealthy result, and otherwise fold the results with one status loop (`aggregate`) that starts
from the empty status and only ever moves it up to healthy, degraded or unhealthy. So they compute
the rule with the empty status `""` in place of unknown (`loopStatus`,
`aggregation_agrees_except_unknown`): when no result is healthy, degraded or unhealthy, as when
every checker is unknown or missing, they return `""`, which is none of the four constants
(`aggregate_of_unknown_is_empty`).

A checker is the result its `Check` returns when called at a time, and the time of each check is
read from a clock, so that a checker called twice may answer twice differently.
-/

namespace ApiToolkit.Health

/-- `HealthStatusHealthy`. -/
def HealthStatusHealthy : String := "healthy"

/-- `HealthStatusUnhealthy`. -/
def HealthStatusUnhealthy : String := "unhealthy"

/-- `HealthStatusDegraded`. -/
def HealthStatusDegraded : String := "degraded"

/-- `HealthStatusUnknown`. -/
def HealthStatusUnknown : String := "unknown"

/-- `HealthResult`, with the fields the aggregation reads and writes. `Details` and `Duration` are
left out. -/
structure HealthResult where
  Status : String
  Message : String
  Timestamp : Int
  deriving DecidableEq, Repr

/-- `fmt.Sprintf("%v", messages)` of a list of strings: the strings between brackets, separated by
spaces. -/
def fmtList (messages : List String) : String := "[" ++ " ".intercalate messages ++ "]"

/-! ## The status loop -/

/-- One turn of the status loop that `performChecks` and `CompositeChecker.Check` share: the status so
far and the messages kept. -/
def aggregateStep (acc : String × List String) (result : HealthResult) : String × List String :=
  let keep := fun (messages : List String) =>
    if result.Message ≠ "" then messages ++ [result.Message] else messages
  if result.Status = HealthStatusUnhealthy then (HealthStatusUnhealthy, keep acc.2)
  else if result.Status = HealthStatusDegraded then
    if acc.1 ≠ HealthStatusUnhealthy then (HealthStatusDegraded, keep acc.2) else acc
  else if result.Status = HealthStatusHealthy then
    if acc.1 = "" then (HealthStatusHealthy, acc.2) else acc
  else acc

/-- The status loop, from the empty status. -/
def aggregate (results : List HealthResult) : String × List String :=
  results.foldl aggregateStep ("", [])

/-! ## `GetDetailedHealth`'s rule -/

/-- `HealthSummary`. -/
structure HealthSummary where
  Total : Nat
  Healthy : Nat
  Unhealthy : Nat
  Degraded : Nat
  Unknown : Nat
  deriving DecidableEq, Repr

/-- One turn of the counting loop of `GetDetailedHealth`. -/
def countStep (summary : HealthSummary) (result : HealthResult) : HealthSummary :=
  if result.Status = HealthStatusHealthy then { summary with Healthy := summary.Healthy + 1 }
  else if result.Status = HealthStatusUnhealthy then { summary with Unhealthy := summary.Unhealthy + 1 }
  else if result.Status = HealthStatusDegraded then { summary with Degraded := summary.Degraded + 1 }
  else if result.Status = HealthStatusUnknown then { summary with Unknown := summary.Unknown + 1 }
  else summary

/-- The counts of `GetDetailedHealth`. -/
def summarize (results : List HealthResult) : HealthSummary :=
  results.foldl countStep ⟨results.length, 0, 0, 0, 0⟩

/-- The overall status of `GetDetailedHealth`. -/
def overallOf (summary : HealthSummary) : String :=
  if summary.Unhealthy > 0 then HealthStatusUnhealthy
  else if summary.Degraded > 0 then HealthStatusDegraded
  else if summary.Healthy > 0 then HealthStatusHealthy
  else HealthStatusUnknown

/-- The rule in the words of the spec: unhealthy if any result is unhealthy, else degraded if any is
degraded, else healthy if any is healthy, else unknown. -/
def worstStatus (results : List HealthResult) : String :=
  if results.any (·.Status = HealthStatusUnhealthy) then HealthStatusUnhealthy
  else if results.any (·.Status = HealthStatusDegraded) then HealthStatusDegraded
  else if results.any (·.Status = HealthStatusHealthy) then HealthStatusHealthy
  else HealthStatusUnknown

/-! ## The manager -/

/-- `HealthCheckConfig`, with the fields the checks read. `Timeout` bounds the context of the
checks, and `EnableDetailed` is read by no method of the manager; both are left out. -/
structure HealthCheckConfig where
  CacheDuration : Int
  EnableCaching : Bool
  LivenessChecks : List String
  ReadinessChecks : List String

/-- `Manager`: its configuration, its checkers by name, each the result its `Check` returns when
called at a time, and its cache of results. -/
structure Manager where
  config : HealthCheckConfig
  checkers : List (String × (Int → HealthResult))
  names_nodup : (checkers.map (·.1)).Nodup
  cache : String → Option HealthResult

/-- `NewWithConfig`: no checker and an empty cache. -/
def NewWithConfig (config : HealthCheckConfig) : Manager := ⟨config, [], List.nodup_nil, fun _ => none⟩

/-- `New`: the default configuration, with caching for five seconds (in nanoseconds). -/
def New : Manager :=
  NewWithConfig ⟨5000000000, true, ["basic"], ["database", "basic"]⟩

/-- `RegisterChecker`: the checker replaces any other of its name. -/
def Manager.RegisterChecker (m : Manager) (name : String) (check : Int → HealthResult) : Manager :=
  { m with
    checkers := (name, check) :: m.checkers.filter (·.1 ≠ name)
    names_nodup := by
      refine List.nodup_cons.2 ⟨?_, m.names_nodup.sublist ((List.filter_sublist _).map _)⟩
      simp [List.mem_filter] }

/-- `performCheck` at the time `now`: a fresh cached result, else the checker's result, stamped and
cached, or unknown when no checker has the name. -/
def Manager.performCheck (m : Manager) (now : Int) (name : String) : Manager × HealthResult :=
  let cached := if m.config.EnableCaching then
      (m.cache name).filter fun c => decide (now - c.Timestamp < m.config.CacheDuration)
    else none
  match cached with
  | some c => (m, c)
  | none =>
    match (m.checkers.find? (·.1 == name)).map (·.2) with
    | none => (m, ⟨HealthStatusUnknown, "Checker '" ++ name ++ "' not found", now⟩)
    | some check =>
      let result := { check now with Timestamp := now }
      (if m.config.EnableCaching then { m with cache := Function.update m.cache name (some result) }
        else m, result)

/-- The check loop that `performChecks` and `CompositeChecker.Check` share: each check in turn, at the
clock's reading `i` onwards and threading the state `σ` that a check may change, up to the first
unhealthy result, which ends the loop. -/
def checkLoop {σ α : Type} (run : σ → Int → α → σ × HealthResult) (clock : Nat → Int) :
    Nat → σ → List α → σ × List HealthResult × Option HealthResult
  | _, st, [] => (st, [], none)
  | i, st, a :: as =>
    let step := run st (clock i) a
    if step.2.Status = HealthStatusUnhealthy then (step.1, [step.2], some step.2)
    else
      let rest := checkLoop run clock (i + 1) step.1 as
      (rest.1, step.2 :: rest.2.1, rest.2.2)

/-- `performChecks`. -/
def Manager.performChecks (m : Manager) (clock : Nat → Int) (names : List String) : Manager × HealthResult :=
  if names.length = 0 then (m, ⟨HealthStatusHealthy, "No checks configured", clock 0⟩)
  else
    let g := checkLoop Manager.performCheck clock 0 m names
    match g.2.2 with
    | some result => (g.1, result)
    | none =>
      let a := aggregate g.2.1
      (g.1, ⟨a.1, if a.2 ≠ [] then "Issues: " ++ fmtList a.2 else "", clock names.length⟩)

/-- `GetLiveness`. -/
def Manager.GetLiveness (m : Manager) (clock : Nat → Int) : Manager × HealthResult :=
  m.performChecks clock m.config.LivenessChecks

/-- `GetReadiness`. -/
def Manager.GetReadiness (m : Manager) (clock : Nat → Int) : Manager × HealthResult :=
  m.performChecks clock m.config.ReadinessChecks

/-- The check loop of `GetDetailedHealth`: every checker, in the order the map is visited. -/
def detailedChecks (clock : Nat → Int) : Nat → Manager → List String → Manager × List HealthResult
  | _, m, [] => (m, [])
  | i, m, name :: names =>
    let step := m.performCheck (clock i) name
    let rest := detailedChecks clock (i + 1) step.1 names
    (rest.1, step.2 :: rest.2)

/-- `GetDetailedHealth`: the overall status and the counts. The map of results by name is left out. -/
def Manager.GetDetailedHealth (m : Manager) (clock : Nat → Int) : Manager × String × HealthSummary :=
  let d := detailedChecks clock 0 m (m.checkers.map (·.1))
  (d.1, overallOf (summarize d.2), summarize d.2)

/-! ## `CompositeChecker` -/

/-- `CompositeChecker`: a name and its checkers. -/
structure CompositeChecker where
  name : String
  checkers : List (Int → HealthResult)

/-- A checker of a composite, run at a time: it has no state to change. -/
def runChecker (_ : Unit) (now : Int) (check : Int → HealthResult) : Unit × HealthResult := ((), check now)

/-- `CompositeChecker.Check`. -/
def CompositeChecker.Check (c : CompositeChecker) (clock : Nat → Int) : HealthResult :=
  if c.checkers.length = 0 then ⟨HealthStatusUnknown, "No checkers configured", clock 0⟩
  else
    let l := (checkLoop runChecker clock 0 () c.checkers).2
    match l.2 with
    | some result =>
      ⟨HealthStatusUnhealthy, "Composite check failed: " ++ result.Message, clock c.checkers.length⟩
    | none =>
      let a := aggregate l.1
      ⟨a.1, if a.2 ≠ [] then "Composite check: " ++ fmtList a.2 else "All composite checks passed",
        clock c.checkers.length⟩

/-! ## The status loop computes the rule, with `""` for unknown -/

/-- What the status loop of `performChecks` and `CompositeChecker.Check` yields on a list of results:
the rule, with the empty status in place of unknown. -/
def loopStatus (results : List HealthResult) : String :=
  if worstStatus results = HealthStatusUnknown then "" else worstStatus results

/-- The loop's status by membership: unhealthy, degraded or healthy as the rule says, else empty. -/
theorem loopStatus_eq (results : List HealthResult) :
    loopStatus results =
      if results.any (·.Status = HealthStatusUnhealthy) then HealthStatusUnhealthy
      else if results.any (·.Status = HealthStatusDegraded) then HealthStatusDegraded
      else if results.any (·.Status = HealthStatusHealthy) then HealthStatusHealthy
      else "" := by
  unfold loopStatus worstStatus
  cases results.any (·.Status = HealthStatusUnhealthy) <;>
    cases results.any (·.Status = HealthStatusDegraded) <;>
    cases results.any (·.Status = HealthStatusHealthy) <;> rfl

/-- One turn of the status loop moves the status of the results so far to the status with one more. -/
theorem aggregateStep_status (pre : List HealthResult) (messages : List String) (r : HealthResult) :
    (aggregateStep (loopStatus pre, messages) r).1 = loopStatus (pre ++ [r]) := by
  simp only [aggregateStep, loopStatus_eq, List.any_append, List.any_cons, List.any_nil, Bool.or_false]
  generalize pre.any (·.Status = HealthStatusUnhealthy) = a
  generalize pre.any (·.Status = HealthStatusDegraded) = b
  generalize pre.any (·.Status = HealthStatusHealthy) = c
  unfold HealthStatusUnhealthy HealthStatusDegraded HealthStatusHealthy
  by_cases hu : r.Status = "unhealthy"
  · simp [hu]
  by_cases hd : r.Status = "degraded"
  · cases a <;> cases b <;> cases c <;> simp [hd]
  by_cases hh : r.Status = "healthy"
  · cases a <;> cases b <;> cases c <;> simp [hh]
  · cases a <;> cases b <;> cases c <;> simp [hu, hd, hh]

/-- The status loop, from the status of the results before, yields the status of all of them. -/
theorem foldl_aggregateStep_status (l : List HealthResult) :
    ∀ (pre : List HealthResult) (messages : List String),
      (l.foldl aggregateStep (loopStatus pre, messages)).1 = loopStatus (pre ++ l) := by
  induction l with
  | nil => simp
  | cons r l ih =>
    intro pre messages
    have hstep : aggregateStep (loopStatus pre, messages) r =
        (loopStatus (pre ++ [r]), (aggregateStep (loopStatus pre, messages) r).2) :=
      Prod.ext (aggregateStep_status pre messages r) rfl
    rw [List.foldl_cons, hstep, ih]
    simp

/-- The status loop yields the rule, with the empty status in place of unknown. -/
theorem aggregate_status (results : List HealthResult) : (aggregate results).1 = loopStatus results :=
  foldl_aggregateStep_status results [] []

/-- A list with an unhealthy result has the status unhealthy for the loop. -/
theorem loopStatus_of_unhealthy {results : List HealthResult} {r : HealthResult} (hr : r ∈ results)
    (hu : r.Status = HealthStatusUnhealthy) : loopStatus results = HealthStatusUnhealthy := by
  rw [loopStatus_eq, if_pos (List.any_eq_true.2 ⟨r, hr, by simpa using hu⟩)]

/-! ## `GetDetailedHealth` applies the rule -/

/-- The counting loop adds to each count the number of results of its status. -/
theorem foldl_countStep (l : List HealthResult) :
    ∀ s : HealthSummary, l.foldl countStep s =
      ⟨s.Total, s.Healthy + l.countP (·.Status = HealthStatusHealthy),
        s.Unhealthy + l.countP (·.Status = HealthStatusUnhealthy),
        s.Degraded + l.countP (·.Status = HealthStatusDegraded),
        s.Unknown + l.countP (·.Status = HealthStatusUnknown)⟩ := by
  induction l with
  | nil => intro s; rfl
  | cons r l ih =>
    intro s
    rw [List.foldl_cons, ih]
    unfold countStep HealthStatusHealthy HealthStatusUnhealthy HealthStatusDegraded HealthStatusUnknown
    split_ifs <;> simp_all [List.countP_cons] <;> omega

/-- The overall status of `GetDetailedHealth` is the rule. -/
theorem overallOf_summarize (results : List HealthResult) :
    overallOf (summarize results) = worstStatus results := by
  simp only [overallOf, summarize, foldl_countStep, worstStatus, Nat.zero_add, gt_iff_lt,
    List.countP_pos_iff, List.any_eq_true]

/-! ## The three loops against the rule -/

/-- The check loop ends early only at an unhealthy result, one of those it gathered. -/
theorem checkLoop_early {σ α : Type} (run : σ → Int → α → σ × HealthResult) (clock : Nat → Int) :
    ∀ (i : Nat) (st : σ) (as : List α) {r : HealthResult},
      (checkLoop run clock i st as).2.2 = some r →
        r.Status = HealthStatusUnhealthy ∧ r ∈ (checkLoop run clock i st as).2.1
  | _, _, [], _, h => by simp [checkLoop] at h
  | i, st, a :: as, r, h => by
    dsimp only [checkLoop] at h ⊢
    split_ifs at h ⊢ with hu
    · cases h; exact ⟨hu, List.mem_singleton_self _⟩
    · exact (checkLoop_early run clock (i + 1) _ as h).imp_right (List.mem_cons_of_mem _)

/-- The status `performChecks` returns for a non-empty list of names: the status of the loop on the
results it gathered. -/
theorem performChecks_status (m : Manager) (clock : Nat → Int) {names : List String}
    (hnames : names ≠ []) :
    (m.performChecks clock names).2.Status =
      loopStatus (checkLoop Manager.performCheck clock 0 m names).2.1 := by
  have hlen : names.length ≠ 0 := by simpa using hnames
  unfold Manager.performChecks
  rw [if_neg hlen]
  dsimp only
  cases h : (checkLoop Manager.performCheck clock 0 m names).2.2 with
  | none => exact aggregate_status _
  | some r =>
    obtain ⟨hu, hr⟩ := checkLoop_early _ clock 0 m names h
    exact hu.trans (loopStatus_of_unhealthy hr hu).symm

/-- The status `CompositeChecker.Check` returns with at least one checker: the status of the loop on
the results it gathered. -/
theorem CompositeChecker.Check_status (c : CompositeChecker) (clock : Nat → Int)
    (hc : c.checkers ≠ []) :
    (c.Check clock).Status = loopStatus (checkLoop runChecker clock 0 () c.checkers).2.1 := by
  have hlen : c.checkers.length ≠ 0 := by simpa using hc
  unfold CompositeChecker.Check
  rw [if_neg hlen]
  dsimp only
  cases h : (checkLoop runChecker clock 0 () c.checkers).2.2 with
  | none => exact aggregate_status _
  | some r =>
    obtain ⟨hu, hr⟩ := checkLoop_early _ clock 0 () c.checkers h
    exact (loopStatus_of_unhealthy hr hu).symm

/-- A checker that reports unknown. -/
def unknownChecker (now : Int) : HealthResult := ⟨HealthStatusUnknown, "", now⟩

/-- The default manager with the unknown checker registered as `x`. -/
def unknownManager : Manager := New.RegisterChecker "x" unknownChecker

/-- The three loops agree with the rule of `GetDetailedHealth` except at unknown. For every manager,
with any checkers and any cache, every clock and every non-empty list of names, `performChecks`
returns the rule applied to the results it gathered when the rule is not unknown, and the empty
status when it is; so does `CompositeChecker.Check` with at least one checker; and
`GetDetailedHealth` returns the rule applied to its results. -/
theorem aggregation_agrees_except_unknown (m : Manager) (c : CompositeChecker) (clock : Nat → Int)
    {names : List String} (hnames : names ≠ []) (hc : c.checkers ≠ []) :
    (m.performChecks clock names).2.Status =
        loopStatus (checkLoop Manager.performCheck clock 0 m names).2.1 ∧
      (c.Check clock).Status = loopStatus (checkLoop runChecker clock 0 () c.checkers).2.1 ∧
      (m.GetDetailedHealth clock).2.1 =
        worstStatus (detailedChecks clock 0 m (m.checkers.map (·.1))).2 :=
  ⟨performChecks_status m clock hnames, c.Check_status clock hc, overallOf_summarize _⟩

/-- The agreement at the unknown checker, over the names `["x"]`, with the clock that reads `i` at
its `i`-th reading. -/
theorem aggregation_agrees_at_unknown_checker :
    ["x"] ≠ ([] : List String) ∧ [unknownChecker] ≠ [] ∧
      ((unknownManager.performChecks Int.ofNat ["x"]).2.Status =
          loopStatus (checkLoop Manager.performCheck Int.ofNat 0 unknownManager ["x"]).2.1 ∧
        (CompositeChecker.Check ⟨"composite", [unknownChecker]⟩ Int.ofNat).Status =
          loopStatus (checkLoop runChecker Int.ofNat 0 () [unknownChecker]).2.1 ∧
        (unknownManager.GetDetailedHealth Int.ofNat).2.1 =
          worstStatus (detailedChecks Int.ofNat 0 unknownManager (unknownManager.checkers.map (·.1))).2) :=
  ⟨by simp, by simp, aggregation_agrees_except_unknown unknownManager ⟨"composite", [unknownChecker]⟩
    Int.ofNat (by simp) (by simp)⟩

/-- The loops at one unknown checker: for every clock, `GetDetailedHealth` says unknown, while
`performChecks` over `["x"]` and a composite of the checker return the empty status, which is none
of the four constants. -/
theorem aggregate_of_unknown_is_empty (clock : Nat → Int) :
    (unknownManager.GetDetailedHealth clock).2.1 = HealthStatusUnknown ∧
      (unknownManager.performChecks clock ["x"]).2.Status = "" ∧
      (CompositeChecker.Check ⟨"composite", [unknownChecker]⟩ clock).Status = "" ∧
      "" ∉ [HealthStatusHealthy, HealthStatusUnhealthy, HealthStatusDegraded, HealthStatusUnknown] :=
  ⟨rfl, rfl, rfl, by decide⟩

end ApiToolkit.Health
