import ApiToolkit.Health.Aggregate

/-!
# The health endpoints

`LivenessHandler`, `ReadinessHandler`, `HealthHandler` and `DetailedHealthHandler` of
`src/health/handlers.go`, with `GetHealth` of `src/unnamed/part_004`. Each handler asks the manager
for a result and passes `WriteJSON` the status code `503` for an unhealthy result and `200` for any
other, with the result as the body. `WriteJSON` itself belongs to the package `response_writer`,
which is not part of the sources; the model ends at the code and the body it is given.

The probes fail exactly when a check fails: the readiness and the health endpoints answer `503`
exactly when one of the readiness checks the manager ran came back unhealthy
(`ReadinessHandler_code`), and the detailed endpoint exactly when one of the registered checkers
did (`DetailedHealthHandler_code`). A missing checker is unknown, not unhealthy, and fails neither.
-/

namespace ApiToolkit.Health

/-- `HealthResponse`. -/
structure HealthResponse where
  Status : String
  Timestamp : Int
  Message : String
  deriving DecidableEq, Repr

/-- `GetHealth`: the readiness result, as a `HealthResponse`. -/
def Manager.GetHealth (m : Manager) (clock : Nat → Int) : Manager × HealthResponse :=
  let g := m.GetReadiness clock
  (g.1, ⟨g.2.Status, g.2.Timestamp, g.2.Message⟩)

/-- The status code a health handler passes to `WriteJSON`: `503` for an unhealthy result, `200`
otherwise. -/
def statusCode (status : String) : BitVec 64 := if status = HealthStatusUnhealthy then 503 else 200

namespace Handler

/-- The body the four handlers share: the manager's answer, the status code of its status, and the
answer as the body. -/
def respond {α : Type} (get : Manager → Manager × α) (status : α → String) (m : Manager) :
    Manager × BitVec 64 × α :=
  let g := get m
  (g.1, statusCode (status g.2), g.2)

/-- `LivenessHandler`. -/
def LivenessHandler (m : Manager) (clock : Nat → Int) : Manager × BitVec 64 × HealthResult :=
  respond (·.GetLiveness clock) HealthResult.Status m

/-- `ReadinessHandler`. -/
def ReadinessHandler (m : Manager) (clock : Nat → Int) : Manager × BitVec 64 × HealthResult :=
  respond (·.GetReadiness clock) HealthResult.Status m

/-- `HealthHandler`. -/
def HealthHandler (m : Manager) (clock : Nat → Int) : Manager × BitVec 64 × HealthResponse :=
  respond (·.GetHealth clock) HealthResponse.Status m

/-- `DetailedHealthHandler`, with the body's status and counts. -/
def DetailedHealthHandler (m : Manager) (clock : Nat → Int) : Manager × BitVec 64 × String × HealthSummary :=
  respond (·.GetDetailedHealth clock) Prod.fst m

end Handler

/-- The status loop yields unhealthy exactly when one of the results is unhealthy. -/
theorem loopStatus_eq_unhealthy_iff (results : List HealthResult) :
    loopStatus results = HealthStatusUnhealthy ↔ ∃ r ∈ results, r.Status = HealthStatusUnhealthy := by
  rw [loopStatus_eq]
  by_cases hu : results.any (·.Status = HealthStatusUnhealthy)
  · simpa [hu] using List.any_eq_true.1 hu
  · have hnone : ¬∃ r ∈ results, r.Status = HealthStatusUnhealthy := fun ⟨r, hr, h⟩ =>
      hu (List.any_eq_true.2 ⟨r, hr, by simpa using h⟩)
    simp only [hu, hnone, iff_false, Bool.false_eq_true, if_false]
    unfold HealthStatusUnhealthy HealthStatusDegraded HealthStatusHealthy
    split_ifs <;> decide

/-- The rule of `GetDetailedHealth` is unhealthy exactly when one of the results is unhealthy. -/
theorem worstStatus_eq_unhealthy_iff (results : List HealthResult) :
    worstStatus results = HealthStatusUnhealthy ↔ ∃ r ∈ results, r.Status = HealthStatusUnhealthy := by
  have h := loopStatus_eq_unhealthy_iff results
  unfold loopStatus at h
  split_ifs at h with hw
  · rw [hw, ← h]; decide
  · exact h

/-- The status code of a status that is unhealthy exactly when one of some results is. -/
theorem statusCode_of_iff {status : String} {results : List HealthResult}
    (h : status = HealthStatusUnhealthy ↔ ∃ r ∈ results, r.Status = HealthStatusUnhealthy) :
    statusCode status = if ∃ r ∈ results, r.Status = HealthStatusUnhealthy then 503 else 200 := by
  unfold statusCode
  simp only [h]

/-- The code of `performChecks`'s result: `503` exactly when one of the checks the loop ran came back
unhealthy. With no names, no check runs, and the result is healthy. -/
theorem statusCode_performChecks (m : Manager) (clock : Nat → Int) (names : List String) :
    statusCode (m.performChecks clock names).2.Status =
      if ∃ r ∈ (checkLoop Manager.performCheck clock 0 m names).2.1, r.Status = HealthStatusUnhealthy
      then 503 else 200 := by
  cases names with
  | nil => rfl
  | cons name names =>
    apply statusCode_of_iff
    rw [performChecks_status m clock (List.cons_ne_nil name names)]
    exact loopStatus_eq_unhealthy_iff _

/-- The readiness and the health endpoints answer alike, `503` exactly when one of the readiness
checks the manager ran came back unhealthy, and `200` otherwise: when every check passed, was
degraded or unknown, or no readiness check is configured. -/
theorem ReadinessHandler_code (m : Manager) (clock : Nat → Int) :
    (Handler.HealthHandler m clock).2.1 = (Handler.ReadinessHandler m clock).2.1 ∧
      (Handler.ReadinessHandler m clock).2.1 =
        if ∃ r ∈ (checkLoop Manager.performCheck clock 0 m m.config.ReadinessChecks).2.1,
          r.Status = HealthStatusUnhealthy then 503 else 200 :=
  ⟨rfl, statusCode_performChecks m clock _⟩

/-- The detailed endpoint answers `503` exactly when one of the registered checkers came back
unhealthy, and `200` otherwise. -/
theorem DetailedHealthHandler_code (m : Manager) (clock : Nat → Int) :
    (Handler.DetailedHealthHandler m clock).2.1 =
      if ∃ r ∈ (detailedChecks clock 0 m (m.checkers.map Prod.fst)).2, r.Status = HealthStatusUnhealthy
      then 503 else 200 := by
  apply statusCode_of_iff
  show overallOf (summarize _) = _ ↔ _
  rw [overallOf_summarize]
  exact worstStatus_eq_unhealthy_iff _

end ApiToolkit.Health
