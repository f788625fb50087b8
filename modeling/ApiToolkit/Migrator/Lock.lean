import ApiToolkit.Migrator.Down

/-!
# The advisory lock over connection pools

`withLock` sends `SELECT pg_advisory_lock($1)` and, deferred, `SELECT pg_advisory_unlock($1)`, each
through `r.DB.ExecContext`, so `database/sql` runs each on whichever open connection of the
process's pool it picks. The lock is PostgreSQL's session-level advisory lock: a session (one
connection) holds it; the session that holds it takes it again and must release it as many times;
the unlock of another session returns `false` and changes nothing; and the end of a session releases
what it holds. A pool may open a connection at any time and close an idle one.

The model has processes, each with its pool and its place in `withLock` (`Phase`), and the server's
lock: the session that holds it and how many times. An event is the lock or unlock statement of a
process on one of its connections, or its pool opening or closing a connection (`step`); the other
statements of `Up` and `Down` leave the lock alone. A run is any interleaving of events of all
processes (`run`). The events of one process follow its calls: a call of `Up` or `Down` sends one
use of the lock, the lock first and, when the database took it, the unlock last, with no lock
statement between (`Up_sent`, `Down_sent`). So a runner sends a lock only outside the protected
function (`inside_eq_false_of_issued`), and a deployment of runners (`Deployed`), whose statements
are those of their calls, is simulated by the model: each statement makes at most one event
(`stmtEvent`), and a runner is in `withLock` exactly when its statements leave it inside the
protected function (`Deployed.simulation`).

Sending the two statements through the pool breaks both promises of the lock. A pool that closes
the connection whose session took the lock releases it while its process is still inside the
protected function, and another process takes it (`withLock_overlap`); an unlock that runs on
another connection of the pool releases nothing, and the lock stays held after `withLock` returns
(`withLock_leaks_lock`). Without those two events the lock does what the spec says: mutual
exclusion holds in every run in which no pool closes the session that holds the lock, and so no two
runners of a deployment are inside the protected function at once (`mutual_exclusion_of_no_close`);
a process that is not in `withLock` holds the lock in none of its sessions when each unlock runs on
the connection of its lock (`released_of_pinned_unlock`).
-/

namespace ApiToolkit.Migrator

/-! ## The lock's statements of a call -/

/-- Whether a statement is the advisory lock's or its unlock's. -/
def Call.isLockStmt : Call → Bool
  | .lock _ | .unlock _ => true
  | _ => false

/-- A method that sends no lock or unlock statement: it only appends other statements. -/
def Quiet (x : M α) : Prop :=
  ∀ s, ∃ l, (after (x s)).sent = s.sent ++ l ∧ ∀ c ∈ l, c.isLockStmt = false

/-- A sequence of quiet methods is quiet. -/
theorem Quiet.bind {x : M α} {f : α → M β} (hx : Quiet x) (hf : ∀ a, Quiet (f a)) : Quiet (x >>= f) := by
  intro s
  obtain ⟨l, hl, hq⟩ := hx s
  rw [bind_apply]
  cases hxs : x s with
  | ok a s' =>
    obtain ⟨l', hl', hq'⟩ := hf a s'
    rw [hxs] at hl
    refine ⟨l ++ l', by simp_all, fun c hc => ?_⟩
    rcases List.mem_append.1 hc with hc | hc
    exacts [hq c hc, hq' c hc]
  | error e s' => exact ⟨l, by rw [hxs] at hl; exact hl, hq⟩

/-- A method that sends at most one statement, not the lock's. -/
theorem Quiet.of_sent {x : M α} (c : Call) (hc : c.isLockStmt = false)
    (h : ∀ s, (after (x s)).sent = s.sent ++ [c] ∨ (after (x s)).sent = s.sent) : Quiet x := fun s => by
  rcases h s with h | h
  · exact ⟨[c], h, by simp [hc]⟩
  · exact ⟨[], by simp [h], by simp⟩

theorem pure_quiet (a : α) : Quiet (pure a : M α) := .of_sent .begin rfl fun _ => .inr rfl
theorem get_quiet : Quiet (get : M Proc) := .of_sent .begin rfl fun _ => .inr rfl
theorem throw_quiet (x : Stop) : Quiet (throw x : M α) := .of_sent .begin rfl fun _ => .inr rfl
theorem ofExcept_quiet (x : Except Stop α) : Quiet (ofExcept x) := .of_sent .begin rfl fun _ => by
  cases x <;> exact .inr rfl

theorem attempt_quiet {x : M α} (hx : Quiet x) : Quiet (attempt x) := fun s => by
  obtain ⟨l, hl, hq⟩ := hx s
  refine ⟨l, ?_, hq⟩
  unfold attempt
  split <;> simp_all

theorem onTable_quiet (e : Env) {c : Call} (hc : c.isLockStmt = false) (f : Table → Table) : Quiet (onTable e c f) :=
  .of_sent c hc fun s => .inl (by unfold onTable; split <;> rfl)

theorem ensureTable_quiet (e : Env) : Quiet (ensureTable e) :=
  .of_sent .ensureTable rfl fun s => .inl (by unfold ensureTable send; split_ifs <;> rfl)

theorem load_quiet (e : Env) : Quiet (load e) :=
  .of_sent .begin rfl fun s => .inr (by unfold load; split <;> rfl)

theorem loadApplied_quiet (e : Env) : Quiet (loadApplied e) :=
  .of_sent .loadApplied rfl fun s => .inl (by unfold loadApplied; split <;> rfl)

theorem record_quiet (e : Env) (m : Migration) (execMS : Nat) (ok : Bool) : Quiet (record e m execMS ok) :=
  fun s => onTable_quiet e (c := .record m ok) rfl
    (·.upsert (recordRow m (e.now s.sent) execMS ok)) s

theorem BeginTx_quiet (e : Env) : Quiet (BeginTx e) :=
  .of_sent .begin rfl fun s => .inl (by unfold BeginTx send; split_ifs <;> rfl)

theorem Exec_quiet (e : Env) (tx : Db) (m : Migration) : Quiet (Exec e tx m) :=
  .of_sent (.exec m) rfl fun s => .inl (by unfold Exec send; split_ifs <;> rfl)

theorem DeleteRow_quiet (e : Env) (tx : Db) (v : Int) : Quiet (DeleteRow e tx v) :=
  .of_sent (.delete v) rfl fun s => .inl (by unfold DeleteRow; split <;> rfl)

theorem Commit_quiet (e : Env) (tx : Db) : Quiet (Commit e tx) :=
  .of_sent .commit rfl fun s => .inl (by unfold Commit send; split_ifs <;> rfl)

theorem Rollback_quiet : Quiet Rollback := .of_sent .rollback rfl fun _ => .inl rfl

/-- Every statement of the Apply Engine is the database's, not the lock's. -/
theorem applyOne_quiet (e : Env) (m : Migration) : Quiet (applyOne e m) := by
  unfold applyOne
  refine Quiet.bind (BeginTx_quiet e) fun tx => Quiet.bind (attempt_quiet (Exec_quiet e tx m)) fun res =>
    Quiet.bind get_quiet fun s => ?_
  cases res with
  | error err =>
    exact Quiet.bind Rollback_quiet fun _ =>
      Quiet.bind (attempt_quiet (record_quiet e m _ false)) fun _ => throw_quiet _
  | ok tx =>
    refine Quiet.bind (attempt_quiet (Commit_quiet e tx)) fun r => ?_
    cases r with
    | error err => exact Quiet.bind (attempt_quiet (record_quiet e m _ false)) fun _ => throw_quiet _
    | ok u => exact record_quiet e m _ true

theorem applyAll_quiet (e : Env) : ∀ l, Quiet (applyAll e l)
  | [] => pure_quiet ()
  | m :: ms => Quiet.bind (applyOne_quiet e m) fun _ => applyAll_quiet e ms

theorem loadAppliedSuccess_quiet (e : Env) : Quiet (loadAppliedSuccess e) :=
  Quiet.bind (loadApplied_quiet e) fun _ => pure_quiet _

/-- Every statement of the Revert Engine is the database's, not the lock's. -/
theorem revertOne_quiet (e : Env) (m : Migration) : Quiet (revertOne e m) := by
  refine Quiet.bind (BeginTx_quiet e) fun tx => Quiet.bind ?_ fun tx => ?_
  · unfold runDownSQL
    split_ifs
    · refine Quiet.bind (attempt_quiet (Exec_quiet e tx m)) fun res => ?_
      cases res with
      | error err => exact Quiet.bind Rollback_quiet fun _ => throw_quiet _
      | ok tx => exact pure_quiet _
    · exact pure_quiet _
  · unfold deleteRecord
    refine Quiet.bind (attempt_quiet (DeleteRow_quiet e tx m.Version)) fun res => ?_
    rcases res with err | ⟨tx, aff⟩
    · exact Quiet.bind Rollback_quiet fun _ => throw_quiet _
    · dsimp only
      split_ifs
      · exact Quiet.bind Rollback_quiet fun _ => Quiet.bind get_quiet fun _ => throw_quiet _
      · exact Commit_quiet e tx

/-- The statements a call sends after `h` are one use of the lock `k`: the lock alone, which the
database refused, or the lock it took, then statements that are not the lock's, then the unlock. -/
def LockUse (e : Env) (k : Int) (h h' : List Call) : Prop :=
  (e.ok h (.lock k) = false ∧ h' = h ++ [.lock k]) ∨
    (e.ok h (.lock k) = true ∧ ∃ l, (∀ c ∈ l, c.isLockStmt = false) ∧ h' = h ++ .lock k :: l ++ [.unlock k])

/-- `withLock` sends the lock first and, when the database accepted it, the unlock last, with only
the protected function's statements between them. -/
theorem withLock_sent (e : Env) {fn : M Unit} (hfn : Quiet fn) (s : Proc) :
    LockUse e s.r.Opts.LockKey s.sent (after (withLock e fn s)).sent := by
  unfold withLock send
  dsimp only
  cases h : e.ok s.sent (.lock s.r.Opts.LockKey)
  · exact .inl ⟨h, rfl⟩
  · obtain ⟨l, hl, hq⟩ := hfn { s with sent := s.sent ++ [.lock s.r.Opts.LockKey] }
    refine .inr ⟨h, l, hq, ?_⟩
    simp only [if_true]
    split <;> simp_all

/-- The lock's statements of a call of `Up`: one use of the lock. -/
theorem Up_sent (e : Env) (s : Proc) : LockUse e s.r.Opts.LockKey s.sent (after (Up e s)).sent :=
  withLock_sent e (Quiet.bind (ensureTable_quiet e) fun _ => Quiet.bind (load_quiet e) fun _ =>
    Quiet.bind (loadApplied_quiet e) fun _ => Quiet.bind get_quiet fun _ =>
      Quiet.bind (ofExcept_quiet _) fun pending => applyAll_quiet e pending) s

/-- The lock's statements of a call of `Down`: none when `Down` is disabled, and otherwise one use of
the lock. -/
theorem Down_sent (e : Env) (s : Proc) :
    (after (Down e s)).sent = s.sent ∨ LockUse e s.r.Opts.LockKey s.sent (after (Down e s)).sent := by
  have hbody : Quiet (do
      ensureTable e
      load e
      let appliedOK ← loadAppliedSuccess e
      match appliedOK.getLast? with
      | none => pure ()
      | some latest =>
        match find (← get).r.migrations latest.Version .down with
        | none => throw (.err (.noDown latest.Version latest.Name))
        | some down => revertOne e down) := by
    refine Quiet.bind (ensureTable_quiet e) fun _ => Quiet.bind (load_quiet e) fun _ =>
      Quiet.bind (loadAppliedSuccess_quiet e) fun applied => ?_
    rcases applied.getLast? with _ | latest
    · exact pure_quiet ()
    · refine Quiet.bind get_quiet fun s => ?_
      rcases find s.r.migrations latest.Version .down with _ | down
      · exact throw_quiet _
      · exact revertOne_quiet e down
  unfold Down
  cases hen : s.r.Opts.AllowDangerousDown
  · simp [hen]
  · right
    simpa [hen] using withLock_sent e hbody s

/-! ## Inside the protected function -/

/-- What a statement sent after `h` does to being inside the protected function of `withLock`,
from `b`: a lock enters it when the database takes the lock, an unlock leaves it, and the other
statements keep `b`. -/
def insideStep (e : Env) (h : List Call) (b : Bool) : Call → Bool
  | .lock k => e.ok h (.lock k)
  | .unlock _ => false
  | _ => b

/-- Being inside the protected function after the statements `h` sent after `pre`, from `b`. -/
def insideAfter (e : Env) (pre : List Call) (b : Bool) : List Call → Bool
  | [] => b
  | c :: h => insideAfter e (pre ++ [c]) (insideStep e pre b c) h

/-- Whether a process that has sent `h` is inside the protected function of `withLock`: its last
lock statement is a lock the database took. -/
def inside (e : Env) (h : List Call) : Bool := insideAfter e [] false h

theorem insideAfter_append_singleton (e : Env) (c : Call) :
    ∀ (h pre : List Call) (b : Bool), insideAfter e pre b (h ++ [c]) = insideStep e (pre ++ h) (insideAfter e pre b h) c
  | [], pre, b => by simp [insideAfter]
  | c' :: h, pre, b => by
    show insideAfter e (pre ++ [c']) (insideStep e pre b c') (h ++ [c]) = _
    rw [insideAfter_append_singleton e c h, List.append_assoc, List.singleton_append]
    rfl

@[simp] theorem inside_nil (e : Env) : inside e [] = false := rfl

theorem inside_append_singleton (e : Env) (h : List Call) (c : Call) :
    inside e (h ++ [c]) = insideStep e h (inside e h) c :=
  insideAfter_append_singleton e c h [] false

/-- A process that has sent `h` takes the lock only outside the protected function, and is outside
it after `h`. -/
def LocksOutside (e : Env) (h : List Call) : Prop :=
  inside e h = false ∧ ∀ pre k rest, h = pre ++ .lock k :: rest → inside e pre = false

/-- One use of the lock keeps a process taking the lock only outside the protected function. -/
theorem LocksOutside.lockUse {e : Env} {k : Int} {h h' : List Call} (ho : LocksOutside e h)
    (hu : LockUse e k h h') : LocksOutside e h' := by
  -- a use is the lock, then statements none of which is a lock
  obtain ⟨u, rfl, hu, hin⟩ : ∃ u, h' = h ++ .lock k :: u ∧ (∀ k', Call.lock k' ∉ u) ∧ inside e h' = false := by
    rcases hu with ⟨hok, rfl⟩ | ⟨hok, l, hl, rfl⟩
    · exact ⟨[], rfl, by simp, by rw [inside_append_singleton]; exact hok⟩
    · refine ⟨l ++ [.unlock k], by simp, fun k' hk' => ?_, ?_⟩
      · rcases List.mem_append.1 hk' with hk' | hk'
        · have := hl _ hk'
          simp [Call.isLockStmt] at this
        · simp at hk'
      · rw [show h ++ .lock k :: l ++ [.unlock k] = (h ++ .lock k :: l) ++ [.unlock k] by simp,
          inside_append_singleton]
        rfl
  refine ⟨hin, fun pre k' rest he => ?_⟩
  rcases List.append_eq_append_iff.1 he with ⟨a, rfl, ha⟩ | ⟨c, rfl, hc⟩
  · -- the lock is the use's own, or one of the statements after it, none of which is a lock
    cases a with
    | nil => simpa using ho.1
    | cons x a =>
      have hu' := (List.cons.inj ha).2
      exact absurd (hu' ▸ by simp : Call.lock k' ∈ u) (hu k')
  · -- the lock is one sent before the use
    cases c with
    | nil => simpa using ho.1
    | cons x c =>
      obtain ⟨hx, -⟩ := List.cons.inj hc
      exact ho.2 pre k' c (by rw [hx])

/-- One call of `Up` or `Down`. -/
def Proc.Calls (e : Env) (s s' : Proc) : Prop := s' = after (Up e s) ∨ s' = after (Down e s)

/-- A run of calls keeps a process taking the lock only outside the protected function. -/
theorem LocksOutside.calls {e : Env} {s s' : Proc} (hr : Relation.ReflTransGen (Proc.Calls e) s s')
    (ho : LocksOutside e s.sent) : LocksOutside e s'.sent := by
  induction hr with
  | refl => exact ho
  | tail _ hc ih =>
    rcases hc with rfl | rfl
    · exact ih.lockUse (Up_sent e _)
    · rcases Down_sent e _ with h | h
      · rw [h]; exact ih
      · exact ih.lockUse h

/-- The statements a process may have sent so far: a prefix of what a run of its calls of `Up` and
`Down` sends, from a process that has sent nothing. -/
def Issued (e : Env) (h : List Call) : Prop :=
  ∃ s₀ s₁ : Proc, s₀.sent = [] ∧ Relation.ReflTransGen (Proc.Calls e) s₀ s₁ ∧ h <+: s₁.sent

/-- A process sends a lock only outside the protected function. -/
theorem inside_eq_false_of_issued {e : Env} {h : List Call} {k : Int} (hi : Issued e (h ++ [.lock k])) :
    inside e h = false := by
  obtain ⟨s₀, s₁, h₀, hr, rest, hp⟩ := hi
  have ho : LocksOutside e s₀.sent := by
    rw [h₀]
    exact ⟨rfl, fun pre k rest he => absurd he.symm (by simp)⟩
  exact (ho.calls hr).2 h k rest (by rw [← hp]; simp)

/-- The lock statement of a first call of `Up`. -/
theorem issued_lock (e : Env) {s : Proc} (h : s.sent = []) : Issued e [.lock s.r.Opts.LockKey] := by
  refine ⟨s, _, h, .single (.inl rfl), ?_⟩
  rcases Up_sent e s with ⟨-, he⟩ | ⟨-, l, -, he⟩ <;> rw [he, h]
  · exact List.prefix_refl _
  · exact ⟨l ++ [.unlock s.r.Opts.LockKey], by simp⟩

end ApiToolkit.Migrator

namespace ApiToolkit.Migrator.Advisory

/-- Where a process is in `withLock`. -/
inductive Phase
  /-- No call of `withLock` in progress. -/
  | idle
  /-- The lock statement returned on the connection `conn`; the protected function runs. -/
  | inFn (conn : Nat)
  deriving DecidableEq, Repr

/-- The processes, their pools and the server's lock for `LockKey`. Sessions are numbered in the
order the pools open them; a pool is the set of sessions it has open. -/
structure Sys where
  /-- The session that holds the lock, and how many times it took it. -/
  holder : Option (Nat × Nat)
  /-- The process whose pool has each session open, if any. -/
  owner : Nat → Option Nat
  /-- Where each process is in `withLock`. -/
  phase : Nat → Phase
  /-- The number of the next session a pool opens. -/
  next : Nat

/-- No lock held, no connection open, no process in `withLock`. -/
def Sys.init : Sys := ⟨none, fun _ => none, fun _ => .idle, 0⟩

/-- An event of a process `p`. -/
inductive Event
  /-- The pool of `p` opens a connection, a new session. -/
  | connect (p : Nat)
  /-- The pool of `p` closes its idle connection `c`, and the session ends. -/
  | close (p c : Nat)
  /-- `withLock` of `p` runs `pg_advisory_lock` on the connection `c`. -/
  | lock (p c : Nat)
  /-- The deferred `pg_advisory_unlock` of `p` runs on the connection `c`. -/
  | unlock (p c : Nat)
  deriving DecidableEq, Repr

/-- The end of session `c`: the lock is released if `c` holds it. -/
def endSession (holder : Option (Nat × Nat)) (c : Nat) : Option (Nat × Nat) :=
  match holder with
  | some (h, _) => if h = c then none else holder
  | none => none

/-- `pg_advisory_unlock` on session `c`: one of the session's holds is released; on a session that
does not hold the lock it changes nothing. -/
def unlockOn (holder : Option (Nat × Nat)) (c : Nat) : Option (Nat × Nat) :=
  match holder with
  | some (h, n) => if h = c then (if n ≤ 1 then none else some (h, n - 1)) else holder
  | none => none

/-- An event, when it can happen: a pool closes only its own connections; a process takes the lock
only outside `withLock`, on a connection of its pool, and only when no session or its connection's
own session holds it (otherwise the statement waits); the unlock ends the call of `withLock`. -/
def step (s : Sys) : Event → Option Sys
  | .connect p =>
    some { s with owner := Function.update s.owner s.next (some p), next := s.next + 1 }
  | .close p c =>
    if s.owner c = some p then
      some { s with owner := Function.update s.owner c none, holder := endSession s.holder c }
    else none
  | .lock p c =>
    if s.phase p = .idle ∧ s.owner c = some p then
      match s.holder with
      | none => some { s with holder := some (c, 1), phase := Function.update s.phase p (.inFn c) }
      | some (h, n) =>
        if h = c then some { s with holder := some (c, n + 1), phase := Function.update s.phase p (.inFn c) }
        else none
    else none
  | .unlock p c =>
    if s.phase p ≠ .idle ∧ s.owner c = some p then
      some { s with holder := unlockOn s.holder c, phase := Function.update s.phase p .idle }
    else none

/-- A run: the events in order, or `none` from the first that cannot happen. -/
def run (s : Sys) : List Event → Option Sys
  | [] => some s
  | e :: es => (step s e).bind (run · es)

/-- Mutual exclusion: no two processes are inside the protected function at once. -/
def MutualExclusion (s : Sys) : Prop :=
  ∀ p q, p ≠ q → s.phase p ≠ .idle → s.phase q ≠ .idle → False

/-- A process outside `withLock` holds the lock in none of its sessions. -/
def Released (s : Sys) : Prop :=
  ∀ p, s.phase p = .idle → ∀ c, s.owner c = some p → ∀ n, s.holder ≠ some (c, n)

/-- Process `0` takes the lock on its connection `0`; its pool closes the idle connection, which
releases the lock; process `1` takes it: both are inside the protected function. -/
theorem withLock_overlap :
    ∃ s, run .init [.connect 0, .lock 0 0, .close 0 0, .connect 1, .lock 1 1] = some s ∧
      s.phase 0 = .inFn 0 ∧ s.phase 1 = .inFn 1 ∧ ¬ MutualExclusion s :=
  ⟨_, rfl, rfl, rfl, fun h => h 0 1 (by decide) (by decide) (by decide)⟩

/-- Process `0`, with two connections, takes the lock on connection `0` and sends the unlock on
connection `1`: `withLock` has returned, and session `0` still holds the lock. -/
theorem withLock_leaks_lock :
    ∃ s, run .init [.connect 0, .connect 0, .lock 0 0, .unlock 0 1] = some s ∧
      s.phase 0 = .idle ∧ s.holder = some (0, 1) ∧ ¬ Released s :=
  ⟨_, rfl, rfl, rfl, fun h => h 0 rfl 0 rfl 1 rfl⟩

/-! ## When the lock does exclude -/

/-- What an event does when it happens. -/
theorem step_eq_some {s s' : Sys} {e : Event} (h : step s e = some s') :
    (∃ p, e = .connect p ∧ s' = { s with owner := Function.update s.owner s.next (some p), next := s.next + 1 }) ∨
    (∃ p c, e = .close p c ∧ s.owner c = some p ∧
      s' = { s with owner := Function.update s.owner c none, holder := endSession s.holder c }) ∨
    (∃ p c n, e = .lock p c ∧ s.phase p = .idle ∧ s.owner c = some p ∧
      (s.holder = none ∧ n = 0 ∨ s.holder = some (c, n)) ∧
      s' = { s with holder := some (c, n + 1), phase := Function.update s.phase p (.inFn c) }) ∨
    (∃ p c, e = .unlock p c ∧ s.phase p ≠ .idle ∧ s.owner c = some p ∧
      s' = { s with holder := unlockOn s.holder c, phase := Function.update s.phase p .idle }) := by
  cases e with
  | connect p => exact .inl ⟨p, rfl, (Option.some.inj h).symm⟩
  | close p c =>
    simp only [step] at h
    split_ifs at h with hc
    exact .inr (.inl ⟨p, c, rfl, hc, (Option.some.inj h).symm⟩)
  | lock p c =>
    simp only [step] at h
    split_ifs at h with hen
    split at h
    · exact .inr (.inr (.inl ⟨p, c, 0, rfl, hen.1, hen.2, .inl ⟨‹_›, rfl⟩, (Option.some.inj h).symm⟩))
    · split_ifs at h with hc
      subst hc
      exact .inr (.inr (.inl ⟨p, _, _, rfl, hen.1, hen.2, .inr ‹_›, (Option.some.inj h).symm⟩))
  | unlock p c =>
    simp only [step] at h
    split_ifs at h with hen
    exact .inr (.inr (.inr ⟨p, c, rfl, hen.1, hen.2, (Option.some.inj h).symm⟩))

/-- The states of the runs from `Sys.init` whose every event satisfies `ok` in the state it
happens in. -/
inductive Reach (ok : Sys → Event → Prop) : Sys → Prop
  | init : Reach ok .init
  | step {s s' : Sys} {e : Event} : Reach ok s → ok s e → step s e = some s' → Reach ok s'

/-- The event does not close the session that holds the lock. -/
def KeepsHolder (s : Sys) : Event → Prop
  | .close _ c => ∀ n, s.holder ≠ some (c, n)
  | _ => True

/-- The event does not close the session that holds the lock, and an unlock runs on the connection
of its process's lock. -/
def Pinned (s : Sys) : Event → Prop
  | .close _ c => ∀ n, s.holder ≠ some (c, n)
  | .unlock p c => s.phase p = .inFn c
  | _ => True

/-- The end of a session that does not hold the lock leaves the lock as it is. -/
theorem endSession_of_ne {holder : Option (Nat × Nat)} {c : Nat} (h : ∀ n, holder ≠ some (c, n)) :
    endSession holder c = holder := by
  rcases hh : holder with _ | ⟨h', n⟩
  · rfl
  · have : h' ≠ c := fun hc => h n (hc ▸ hh)
    simp [endSession, this]

/-- What runs that keep the holding session maintain: no session from `next` on is open, and a
process in `withLock` has the holding session in its pool. -/
structure Sys.Inv (s : Sys) : Prop where
  fresh : ∀ c, s.next ≤ c → s.owner c = none
  holds : ∀ p, s.phase p ≠ .idle → ∃ c n, s.owner c = some p ∧ s.holder = some (c, n)

theorem Sys.Inv.mutualExclusion {s : Sys} (hi : s.Inv) : MutualExclusion s := by
  intro p q hpq hp hq
  obtain ⟨c, n, hc, hh⟩ := hi.holds p hp
  obtain ⟨c', n', hc', hh'⟩ := hi.holds q hq
  rw [hh, Option.some.injEq, Prod.mk.injEq] at hh'
  rw [← hh'.1, hc, Option.some.injEq] at hc'
  exact hpq hc'

theorem Sys.Inv.init : Sys.init.Inv := ⟨fun _ _ => rfl, fun _ h => absurd rfl h⟩

theorem Sys.Inv.after_step {s s' : Sys} {e : Event} (hi : s.Inv) (hk : KeepsHolder s e)
    (hs : step s e = some s') : s'.Inv := by
  rcases step_eq_some hs with ⟨p, rfl, rfl⟩ | ⟨p, c, rfl, -, rfl⟩ | ⟨p, c, n, rfl, hp, hc, hh, rfl⟩ |
    ⟨p, c, rfl, hp, hc, rfl⟩
  · -- a new session, in the pool of `p`
    refine ⟨fun c hc => ?_, fun q hq => ?_⟩
    · have hc : s.next + 1 ≤ c := hc
      simpa [Function.update_noteq (show c ≠ s.next by omega)] using hi.fresh c (by omega)
    · obtain ⟨c, n, hc, hh⟩ := hi.holds q hq
      have : c ≠ s.next := fun h => by simp [h, hi.fresh s.next le_rfl] at hc
      exact ⟨c, n, by simpa [Function.update_noteq this] using hc, hh⟩
  · -- a session that does not hold the lock ends
    have hend := endSession_of_ne hk
    refine ⟨fun c' hc' => ?_, fun q hq => ?_⟩
    · by_cases h : c' = c <;> simp [Function.update_apply, h, hi.fresh c' hc']
    · obtain ⟨c', n, hc', hh⟩ := hi.holds q hq
      have : c' ≠ c := fun h => hk n (h ▸ hh)
      exact ⟨c', n, by simpa [Function.update_noteq this] using hc', by rw [hend, hh]⟩
  · -- `p` takes the lock on `c`, which no other session holds
    refine ⟨hi.fresh, fun q hq => ?_⟩
    by_cases hqp : q = p
    · exact ⟨c, n + 1, hqp ▸ hc, rfl⟩
    · obtain ⟨c', n', hc', hh'⟩ := hi.holds q (by simpa [hqp] using hq)
      rcases hh with ⟨hnone, -⟩ | hh
      · simp [hnone] at hh'
      · rw [hh, Option.some.injEq, Prod.mk.injEq] at hh'
        exact ⟨c, n + 1, hh'.1 ▸ hc', rfl⟩
  · -- `p` leaves `withLock`; no other process was in it
    refine ⟨hi.fresh, fun q hq => ?_⟩
    have hqp : q ≠ p := fun h => hq (by subst h; simp)
    exact (hi.mutualExclusion q p hqp (by simpa [hqp] using hq) hp).elim

/-- Every run in which no pool closes the session that holds the lock keeps `Sys.Inv`. -/
theorem Sys.Inv.of_reach {s : Sys} (h : Reach KeepsHolder s) : s.Inv := by
  induction h with
  | init => exact .init
  | step _ hk hs ih => exact ih.after_step hk hs

/-- What runs with pinned unlocks maintain: a process in `withLock` holds the lock once, on the
connection of its lock statement, and the lock is held only so. -/
structure Sys.PinnedInv (s : Sys) : Prop where
  inv : s.Inv
  locked : ∀ p c, s.phase p = .inFn c → s.owner c = some p ∧ s.holder = some (c, 1)
  held : ∀ c n, s.holder = some (c, n) → ∃ p, s.phase p = .inFn c

theorem Sys.PinnedInv.released {s : Sys} (hi : s.PinnedInv) : Released s := by
  intro p hp c hc n hh
  obtain ⟨q, hq⟩ := hi.held c n hh
  rw [(hi.locked q c hq).1, Option.some.injEq] at hc
  subst hc
  simp [hq] at hp

theorem Sys.PinnedInv.init : Sys.init.PinnedInv :=
  ⟨.init, fun _ _ h => (nomatch h), fun _ _ h => (nomatch h)⟩

theorem Pinned.keepsHolder {s : Sys} {e : Event} (h : Pinned s e) : KeepsHolder s e := by
  cases e <;> first | exact h | trivial

theorem Sys.PinnedInv.after_step {s s' : Sys} {e : Event} (hi : s.PinnedInv) (hk : Pinned s e)
    (hs : step s e = some s') : s'.PinnedInv := by
  have hinv := hi.inv.after_step hk.keepsHolder hs
  rcases step_eq_some hs with ⟨p, rfl, rfl⟩ | ⟨p, c, rfl, -, rfl⟩ | ⟨p, c, n, rfl, hp, hc, hh, rfl⟩ |
    ⟨p, c, rfl, hp, hc, rfl⟩
  · -- the new session is not the lock's
    refine ⟨hinv, fun q c hq => ?_, hi.held⟩
    obtain ⟨hc, hh⟩ := hi.locked q c hq
    have : c ≠ s.next := fun h => by simp [h, hi.inv.fresh s.next le_rfl] at hc
    exact ⟨by simpa [Function.update_noteq this] using hc, hh⟩
  · -- a session that does not hold the lock ends
    have hend := endSession_of_ne hk
    refine ⟨hinv, fun q c' hq => ?_, fun c' n hh => hi.held c' n (hend ▸ hh)⟩
    obtain ⟨hc', hh⟩ := hi.locked q c' hq
    have : c' ≠ c := fun h => hk 1 (h ▸ hh)
    exact ⟨by simpa [Function.update_noteq this] using hc', by rw [hend, hh]⟩
  · -- the lock is free: a process that held it would be in `withLock`, on a session of its own
    rcases hh with ⟨hnone, rfl⟩ | hh
    · refine ⟨hinv, fun q c' hq => ?_, fun c' n hh => ⟨p, by simp_all⟩⟩
      by_cases hqp : q = p
      · subst hqp
        simp only [Function.update_same, Phase.inFn.injEq] at hq
        exact ⟨hq ▸ hc, by rw [hq]⟩
      · have := (hi.locked q c' (by simpa [hqp] using hq)).2
        simp [hnone] at this
    · obtain ⟨q, hq⟩ := hi.held c n hh
      rw [(hi.locked q c hq).1, Option.some.injEq] at hc
      subst hc
      simp [hq] at hp
  · -- the pinned unlock releases the only hold, and no other process was in `withLock`
    obtain ⟨-, hh⟩ := hi.locked p c hk
    refine ⟨hinv, fun q c' hq => ?_, fun c' n hh' => by simp [hh, unlockOn] at hh'⟩
    have hqp : q ≠ p := fun h => by subst h; simp at hq
    have hq : s.phase q = .inFn c' := by simpa [hqp] using hq
    exact (hi.inv.mutualExclusion q p hqp (by simp [hq]) hp).elim

/-- Every run with pinned unlocks keeps `Sys.PinnedInv`. -/
theorem Sys.PinnedInv.of_reach {s : Sys} (h : Reach Pinned s) : s.PinnedInv := by
  induction h with
  | init => exact .init
  | step _ hk hs ih => exact ih.after_step hk hs

/-! ## A deployment of runners -/

/-- The event of the lock's model that the statement `c` of process `p` makes, sent after its
statements `h` on the connection `conn`: a lock the database took, or an unlock. The other
statements, and a lock the database refused, make none. -/
def stmtEvent (e : Env) (h : List Call) (p conn : Nat) : Call → Option Event
  | .lock k => if e.ok h (.lock k) then some (.lock p conn) else none
  | .unlock _ => some (.unlock p conn)
  | _ => none

/-- An event of the pools. -/
def Event.isPool : Event → Bool
  | .connect _ | .close .. => true
  | _ => false

/-- A state of the lock's model and each process's statements so far, reached by a deployment of
runners: events of the pools, and the statements of the processes' calls of `Up` and `Down`, each
sent on a connection of the process's pool and making its event, every event satisfying `ok`.
Process `p` sees the database as `e p`. -/
inductive Deployed (e : Nat → Env) (ok : Sys → Event → Prop) : Sys → (Nat → List Call) → Prop
  | init : Deployed e ok .init fun _ => []
  | pool {s s' : Sys} {H : Nat → List Call} {ev : Event} : Deployed e ok s H → ev.isPool = true →
      ok s ev → step s ev = some s' → Deployed e ok s' H
  | quiet {s : Sys} {H : Nat → List Call} {p conn : Nat} {c : Call} : Deployed e ok s H →
      Issued (e p) (H p ++ [c]) → stmtEvent (e p) (H p) p conn c = none →
      Deployed e ok s (Function.update H p (H p ++ [c]))
  | stmt {s s' : Sys} {H : Nat → List Call} {p conn : Nat} {c : Call} {ev : Event} : Deployed e ok s H →
      Issued (e p) (H p ++ [c]) → stmtEvent (e p) (H p) p conn c = some ev → ok s ev →
      step s ev = some s' → Deployed e ok s' (Function.update H p (H p ++ [c]))

/-- A statement that makes no event leaves its process where it was. -/
theorem inside_of_stmtEvent_none {e : Env} {h : List Call} {p conn : Nat} {c : Call}
    (hi : Issued e (h ++ [c])) (hn : stmtEvent e h p conn c = none) : inside e (h ++ [c]) = inside e h := by
  rw [inside_append_singleton]
  cases c with
  | lock k =>
    have hk : e.ok h (.lock k) = false := by simpa [stmtEvent] using hn
    rw [insideStep, hk, inside_eq_false_of_issued hi]
  | unlock k => cases hn
  | _ => rfl

/-- A statement that makes an event is a lock the database took, which enters the protected
function, or an unlock, which leaves it. -/
theorem stmtEvent_eq_some {e : Env} {h : List Call} {p conn : Nat} {c : Call} {ev : Event}
    (hs : stmtEvent e h p conn c = some ev) :
    (ev = .lock p conn ∧ inside e (h ++ [c]) = true) ∨ (ev = .unlock p conn ∧ inside e (h ++ [c]) = false) := by
  rw [inside_append_singleton]
  cases c with
  | lock k =>
    by_cases hk : e.ok h (.lock k)
    · simp only [stmtEvent, hk, if_true, Option.some.injEq] at hs
      exact .inl ⟨hs.symm, hk⟩
    · simp [stmtEvent, hk] at hs
  | unlock k => exact .inr ⟨(Option.some.inj hs).symm, rfl⟩
  | _ => cases hs

/-- The event of a statement moves its process into `withLock` at a lock the database took, and out
of it at an unlock, as its statements so far say. -/
theorem phase_of_stmtEvent {e : Env} {h : List Call} {p conn : Nat} {c : Call} {ev : Event} {s s' : Sys}
    (hev : stmtEvent e h p conn c = some ev) (hs : step s ev = some s') :
    s'.phase = Function.update s.phase p (if inside e (h ++ [c]) then .inFn conn else .idle) := by
  rcases stmtEvent_eq_some hev with ⟨rfl, hin⟩ | ⟨rfl, hin⟩ <;> rw [hin] <;>
    rcases step_eq_some hs with ⟨_, he, -⟩ | ⟨_, _, he, -⟩ | ⟨_, _, _, he, -, -, -, rfl⟩ |
      ⟨_, _, he, -, -, rfl⟩ <;> cases he <;> rfl

/-- The pools' events leave every process where it is. -/
theorem phase_of_isPool {s s' : Sys} {ev : Event} (hp : ev.isPool = true) (hs : step s ev = some s') :
    s'.phase = s.phase := by
  rcases step_eq_some hs with ⟨_, rfl, rfl⟩ | ⟨_, _, rfl, -, rfl⟩ | ⟨_, _, _, rfl, -⟩ | ⟨_, _, rfl, -⟩
  · rfl
  · rfl
  · cases hp
  · cases hp

/-- The simulation of a deployment by the lock's model: every state a deployment reaches is reached
in the lock's model by events that satisfy `ok`, and a process is in `withLock` there exactly when
its statements so far leave it inside the protected function. -/
theorem Deployed.simulation {e : Nat → Env} {ok : Sys → Event → Prop} {s : Sys} {H : Nat → List Call}
    (h : Deployed e ok s H) : Reach ok s ∧ ∀ p, s.phase p ≠ .idle ↔ inside (e p) (H p) = true := by
  induction h with
  | init => exact ⟨.init, fun p => by simp [Sys.init]⟩
  | pool _ hp hok hs ih => exact ⟨.step ih.1 hok hs, by rw [phase_of_isPool hp hs]; exact ih.2⟩
  | @quiet s H p conn c _ hi hn ih =>
    refine ⟨ih.1, fun q => ?_⟩
    by_cases hq : q = p
    · subst hq; rw [Function.update_same, inside_of_stmtEvent_none hi hn]; exact ih.2 q
    · rw [Function.update_noteq hq]; exact ih.2 q
  | @stmt s s' H p conn c ev _ hi hev hok hs ih =>
    refine ⟨.step ih.1 hok hs, fun q => ?_⟩
    rw [phase_of_stmtEvent hev hs]
    by_cases hq : q = p
    · subst hq
      rw [Function.update_same, Function.update_same]
      cases inside (e q) (H q ++ [c]) <;> simp
    · rw [Function.update_noteq hq, Function.update_noteq hq]; exact ih.2 q

/-- Mutual exclusion holds in every run in which no pool closes the session that holds the lock,
whatever connections the lock and unlock statements take; and so, by the simulation, no two runners
of a deployment are inside the protected function of `withLock` at once, whatever their calls of
`Up` and `Down`, their databases and their pools do, as long as no pool closes the holding session. -/
theorem mutual_exclusion_of_no_close :
    (∀ {s : Sys}, Reach KeepsHolder s → MutualExclusion s) ∧
      ∀ {e : Nat → Env} {s : Sys} {H : Nat → List Call}, Deployed e KeepsHolder s H →
        ∀ p q, p ≠ q → inside (e p) (H p) = true → inside (e q) (H q) = true → False :=
  ⟨fun h => (Sys.Inv.of_reach h).mutualExclusion, fun hd p q hpq hp hq =>
    (Sys.Inv.of_reach hd.simulation.1).mutualExclusion p q hpq ((hd.simulation.2 p).2 hp)
      ((hd.simulation.2 q).2 hq)⟩

/-- A run of one call of `withLock` by process `0`, on one connection: the lock statement of a first
call of `Up` by a runner over `revertibleDir`, which the database takes. -/
theorem mutual_exclusion_of_no_close_one_call :
    ∃ s, run .init [.connect 0, .lock 0 0] = some s ∧ Reach KeepsHolder s ∧ MutualExclusion s ∧
      Deployed (fun _ => acceptsAll) KeepsHolder s (Function.update (fun _ => []) 0 [.lock outOfOrderProc.r.Opts.LockKey]) ∧
      ∀ p q, p ≠ q →
        inside acceptsAll (Function.update (fun _ => []) 0 [.lock outOfOrderProc.r.Opts.LockKey] p) = true →
        inside acceptsAll (Function.update (fun _ => []) 0 [.lock outOfOrderProc.r.Opts.LockKey] q) = true → False :=
  have h : Reach KeepsHolder _ := .step (e := .lock 0 0) (.step (e := .connect 0) .init trivial rfl) trivial rfl
  have hd : Deployed (fun _ => acceptsAll) KeepsHolder _ (Function.update (fun _ => []) 0 [.lock outOfOrderProc.r.Opts.LockKey]) :=
    @Deployed.stmt _ _ _ _ _ 0 0 _ _ (@Deployed.pool _ _ _ _ _ (.connect 0) .init rfl trivial rfl)
      (issued_lock acceptsAll (s := outOfOrderProc) rfl) rfl trivial rfl
  ⟨_, rfl, h, mutual_exclusion_of_no_close.1 h, hd, mutual_exclusion_of_no_close.2 hd⟩

/-- When no pool closes the session that holds the lock and each unlock runs on the connection of
its process's lock, a process outside `withLock` holds the lock in none of its sessions; and so, by
the simulation, neither does a runner of a deployment that is not inside the protected function. -/
theorem released_of_pinned_unlock :
    (∀ {s : Sys}, Reach Pinned s → Released s) ∧
      ∀ {e : Nat → Env} {s : Sys} {H : Nat → List Call}, Deployed e Pinned s H →
        ∀ p, inside (e p) (H p) = false → ∀ c, s.owner c = some p → ∀ n, s.holder ≠ some (c, n) :=
  ⟨fun h => (Sys.PinnedInv.of_reach h).released, fun hd p hp =>
    (Sys.PinnedInv.of_reach hd.simulation.1).released p
      (not_not.1 fun hne => by rw [(hd.simulation.2 p).1 hne] at hp; cases hp)⟩

/-- A call of `withLock` by process `0` whose unlock runs on the connection of its lock; and a
deployment in which process `0` has taken the lock for its first call of `Up`, while process `1`,
which has sent nothing, holds it in none of its sessions. -/
theorem released_of_pinned_unlock_one_call :
    (∃ s, run .init [.connect 0, .lock 0 0, .unlock 0 0] = some s ∧ Reach Pinned s ∧ Released s) ∧
      ∃ s, Deployed (fun _ => acceptsAll) Pinned s (Function.update (fun _ => []) 0 [.lock outOfOrderProc.r.Opts.LockKey]) ∧
        ∀ c, s.owner c = some 1 → ∀ n, s.holder ≠ some (c, n) :=
  have h : Reach Pinned _ := .step (e := .unlock 0 0)
    (.step (e := .lock 0 0) (.step (e := .connect 0) .init trivial rfl) trivial rfl) rfl rfl
  have hd : Deployed (fun _ => acceptsAll) Pinned _ (Function.update (fun _ => []) 0 [.lock outOfOrderProc.r.Opts.LockKey]) :=
    @Deployed.stmt _ _ _ _ _ 0 0 _ _ (@Deployed.pool _ _ _ _ _ (.connect 0) .init rfl trivial rfl)
      (issued_lock acceptsAll (s := outOfOrderProc) rfl) rfl trivial rfl
  ⟨⟨_, rfl, h, released_of_pinned_unlock.1 h⟩, _, hd, released_of_pinned_unlock.2 hd 1 rfl⟩

end ApiToolkit.Migrator.Advisory
