import Mathlib.Data.List.Basic

/-!
# Transactions of `txpostgres`

`Manager.WithinTx` acquires a connection, begins a transaction on it, and runs `fn` with a context
that holds the transaction; it commits when `fn` returns nil, and rolls back otherwise. `FromCtx`
gives the transaction of the context, or a facade that runs each statement on a pooled connection,
outside any transaction.

`WithinTx` does not look for a transaction in the context it is given. So a `WithinTx` called from
inside the `fn` of another begins a second, independent transaction on a second connection, and
commits it when its own `fn` returns nil. Its writes then persist whatever the outer call does
after: the outermost call is not atomic under nesting (`nested_commit_survives_outer_error`). A function that does not nest is atomic: its writes persist exactly when it
returns nil and the commit succeeds (`WithinTx_flat_atomic`).

The database is an environment that accepts or refuses each statement, as a function of the
statements sent before it.
-/

namespace ApiToolkit.TxPostgres

/-- A statement sent to the pool or the database. -/
inductive Call
  /-- `Pool.Acquire`. -/
  | acquire
  /-- `conn.Begin`. -/
  | begin
  /-- `Exec` of a write, in the transaction `tx` or, with `none`, on a pooled connection. -/
  | exec (tx : Option Nat) (w : String)
  /-- `tx.Commit`. -/
  | commit (tx : Nat)
  /-- The deferred `tx.Rollback`, whose error is dropped. -/
  | rollback (tx : Nat)
  /-- `conn.Release`. -/
  | release
  deriving DecidableEq, Repr

/-- The database and the pool: whether they accept a statement, after the statements sent before
it. -/
structure Env where
  ok : List Call → Call → Bool

/-- The database: the writes that persist, in the order they were committed; the writes of each
transaction so far; the number of the next transaction; and the statements sent. -/
structure Db where
  committed : List String
  pending : Nat → List String
  next : Nat
  sent : List Call

/-- What a function passed to `WithinTx` does with the context it receives: it returns nil or an
error, or it makes a call with that context and goes on by whether the call returned an error. -/
inductive Fn
  /-- `return nil`, or `return err` when `err` is set. -/
  | done (err : Bool)
  /-- `_, err := FromCtx(ctx, pool).Exec(ctx, w)`, then the branch for nil and the one for an error. -/
  | exec (w : String) (ok fail : Fn)
  /-- `err := m.WithinTx(ctx, inner)`, then the branch for nil and the one for an error. -/
  | withinTx (inner ok fail : Fn)

/-- The database after sending `c`. -/
def Db.send (s : Db) (c : Call) : Db := { s with sent := s.sent ++ [c] }

/-- The database after `conn.Begin`: the transaction numbered `next` opens with no writes. -/
def Db.beginTx (s : Db) : Db :=
  { s.send .begin with next := s.next + 1, pending := Function.update s.pending s.next [] }

/-- `FromCtx(ctx, pool).Exec(ctx, w)`: in the context's transaction, a write of that transaction;
without one, the pooled facade's `Acquire`, an `Exec` outside any transaction, and `Release`. True
where it returns no error. -/
def execIn (e : Env) (ctx : Option Nat) (w : String) (s : Db) : Bool × Db :=
  match ctx with
  | some t =>
    if e.ok s.sent (.exec (some t) w) then
      (true, { s.send (.exec (some t) w) with pending := Function.update s.pending t (s.pending t ++ [w]) })
    else (false, s.send (.exec (some t) w))
  | none =>
    if e.ok s.sent .acquire then
      let s := s.send .acquire
      if e.ok s.sent (.exec none w) then
        (true, { (s.send (.exec none w)).send .release with committed := s.committed ++ [w] })
      else (false, (s.send (.exec none w)).send .release)
    else (false, s.send .acquire)

/-- `Manager.WithinTx`, whose `fn` runs in the context that holds the transaction numbered by its
first argument. True where it returns nil. -/
def WithinTx (e : Env) (fn : Nat → Db → Bool × Db) (s : Db) : Bool × Db :=
  if e.ok s.sent .acquire then
    let s := s.send .acquire
    if e.ok s.sent .begin then
      let t := s.next
      let r := fn t s.beginTx
      if r.1 then
        if e.ok r.2.sent (.commit t) then
          (true, { ((r.2.send (.commit t)).send (.rollback t)).send .release with
            committed := r.2.committed ++ r.2.pending t })
        else (false, ((r.2.send (.commit t)).send (.rollback t)).send .release)
      else (false, (r.2.send (.rollback t)).send .release)
    else (false, (s.send .begin).send .release)
  else (false, s.send .acquire)

/-- A function run with the context `ctx`. True where it returns nil. -/
def runFn (e : Env) (ctx : Option Nat) : Fn → Db → Bool × Db
  | .done err, s => (!err, s)
  | .exec w ok fail, s =>
    let r := execIn e ctx w s
    if r.1 then runFn e ctx ok r.2 else runFn e ctx fail r.2
  | .withinTx inner ok fail, s =>
    let r := WithinTx e (fun t => runFn e (some t) inner) s
    if r.1 then runFn e ctx ok r.2 else runFn e ctx fail r.2

/-- The outermost call `m.WithinTx(ctx, fn)`. -/
def withinTxOf (e : Env) (fn : Fn) (s : Db) : Bool × Db :=
  WithinTx e (fun t => runFn e (some t) fn) s

/-- A database and pool that accept every statement. -/
def Env.acceptAll : Env := ⟨fun _ _ => true⟩

/-- A database with no writes, no transaction and no statement sent. -/
def Db.init : Db := ⟨[], fun _ => [], 0, []⟩

@[simp] theorem Db.send_sent (s : Db) (c : Call) : (s.send c).sent = s.sent ++ [c] := rfl
@[simp] theorem Db.send_committed (s : Db) (c : Call) : (s.send c).committed = s.committed := rfl
@[simp] theorem Db.send_pending (s : Db) (c : Call) : (s.send c).pending = s.pending := rfl
@[simp] theorem Db.send_next (s : Db) (c : Call) : (s.send c).next = s.next := rfl
@[simp] theorem Db.beginTx_sent (s : Db) : s.beginTx.sent = s.sent ++ [.begin] := rfl
@[simp] theorem Db.beginTx_committed (s : Db) : s.beginTx.committed = s.committed := rfl
@[simp] theorem Db.beginTx_pending (s : Db) : s.beginTx.pending = Function.update s.pending s.next [] :=
  rfl

/-- What `WithinTx` can return: a refused `Acquire`, a refused `Begin`, an error of the function
(then the rollback), a refused commit, or the commit of the transaction's writes. -/
theorem WithinTx_cases (e : Env) (fn : Nat → Db → Bool × Db) (s : Db) :
    let r := fn s.next (s.send .acquire).beginTx
    WithinTx e fn s = (false, s.send .acquire) ∨
    WithinTx e fn s = (false, ((s.send .acquire).send .begin).send .release) ∨
    WithinTx e fn s = (false, (r.2.send (.rollback s.next)).send .release) ∨
    WithinTx e fn s = (false, ((r.2.send (.commit s.next)).send (.rollback s.next)).send .release) ∨
    WithinTx e fn s = (true, { ((r.2.send (.commit s.next)).send (.rollback s.next)).send .release with
      committed := r.2.committed ++ r.2.pending s.next }) := by
  unfold WithinTx
  simp only [Db.send_next]
  split_ifs <;> simp

/-! ## Nesting -/

/-- The outermost `WithinTx` is not atomic under nesting: its function calls `WithinTx` with the
context it received, the nested function writes through `FromCtx` and returns nil, and the outer
function then returns an error. The outermost call returns that error, and the nested write has
persisted. -/
theorem nested_commit_survives_outer_error :
    (withinTxOf .acceptAll (.withinTx (.exec "w" (.done false) (.done false)) (.done true) (.done true))
      .init).1 = false ∧
    (withinTxOf .acceptAll (.withinTx (.exec "w" (.done false) (.done false)) (.done true) (.done true))
      .init).2.committed = ["w"] := by
  decide

/-! ## A function that does not nest is atomic -/

/-- The function makes no nested `WithinTx` call, on any branch. -/
def Fn.flat : Fn → Bool
  | .done _ => true
  | .exec _ ok fail => ok.flat && fail.flat
  | .withinTx .. => false

/-- The write of a statement sent after `pre`, when it is a write of the transaction `t` that the
database accepts. -/
def writeOf (e : Env) (t : Nat) (pre : List Call) : Call → List String
  | .exec (some u) w => if u = t ∧ e.ok pre (.exec (some u) w) then [w] else []
  | _ => []

/-- The writes of the transaction `t` that the database accepted among the statements `cs` sent
after `pre`: each statement is judged on the statements before it. -/
def acceptedIn (e : Env) (t : Nat) : List Call → List Call → List String
  | _, [] => []
  | pre, c :: cs => writeOf e t pre c ++ acceptedIn e t (pre ++ [c]) cs

/-- The accepted writes of two runs of statements, the second judged after the first. -/
theorem acceptedIn_append (e : Env) (t : Nat) : ∀ (pre xs ys : List Call),
    acceptedIn e t pre (xs ++ ys) = acceptedIn e t pre xs ++ acceptedIn e t (pre ++ xs) ys
  | _, [], _ => by simp [acceptedIn]
  | pre, c :: cs, ys => by simp [acceptedIn, acceptedIn_append e t (pre ++ [c]) cs ys]

/-- `s'` follows `s` by statements of the transaction `t` alone: nothing is committed, and the
transaction's writes grow by the writes among those statements that the database accepted. -/
def FlatRun (e : Env) (t : Nat) (s s' : Db) : Prop :=
  ∃ new, s'.sent = s.sent ++ new ∧ s'.committed = s.committed ∧
    s'.pending t = s.pending t ++ acceptedIn e t s.sent new

/-- No statement is a run of any transaction. -/
theorem FlatRun.refl (e : Env) (t : Nat) (s : Db) : FlatRun e t s s :=
  ⟨[], by simp [acceptedIn]⟩

/-- Two runs of the transaction `t` one after the other are a run of `t`. -/
theorem FlatRun.trans {e : Env} {t : Nat} {s s₁ s₂ : Db} (h₁ : FlatRun e t s s₁)
    (h₂ : FlatRun e t s₁ s₂) : FlatRun e t s s₂ := by
  obtain ⟨n₁, a₁, b₁, c₁⟩ := h₁
  obtain ⟨n₂, a₂, b₂, c₂⟩ := h₂
  exact ⟨n₁ ++ n₂, by simp [a₂, a₁], b₂.trans b₁, by rw [c₂, c₁, a₁, acceptedIn_append, List.append_assoc]⟩

/-- A call through `FromCtx` in the context of the transaction `t` is a step of `t` alone. -/
theorem execIn_flatRun (e : Env) (t : Nat) (w : String) (s : Db) :
    FlatRun e t s (execIn e (some t) w s).2 := by
  refine ⟨[.exec (some t) w], ?_⟩
  by_cases h : e.ok s.sent (.exec (some t) w) <;> simp [execIn, acceptedIn, writeOf, h]

/-- A function that does not nest, run in the context of the transaction `t`, is a run of `t`
alone. -/
theorem runFn_flatRun (e : Env) (t : Nat) : ∀ (fn : Fn), fn.flat = true → ∀ s : Db,
    FlatRun e t s (runFn e (some t) fn s).2
  | .done _, _, s => FlatRun.refl e t s
  | .exec w ok fail, h, s => by
    simp only [Fn.flat, Bool.and_eq_true] at h
    simp only [runFn]
    split
    · exact (execIn_flatRun e t w s).trans (runFn_flatRun e t ok h.1 _)
    · exact (execIn_flatRun e t w s).trans (runFn_flatRun e t fail h.2 _)

/-- `WithinTx` of a function that does not nest is atomic: the accepted writes of its transaction
are committed, all of them, when the call returns nil, that is when the function returns nil and
the commit succeeds; otherwise nothing is committed. -/
theorem WithinTx_flat_atomic (e : Env) (fn : Fn) (hflat : fn.flat = true) (s : Db) :
    ∃ new, (withinTxOf e fn s).2.sent = s.sent ++ new ∧
      (withinTxOf e fn s).2.committed =
        s.committed ++ if (withinTxOf e fn s).1 then acceptedIn e s.next s.sent new else [] := by
  obtain ⟨new, hsent, hcomm, hpend⟩ := runFn_flatRun e s.next fn hflat (s.send .acquire).beginTx
  simp only [Db.beginTx_sent, Db.send_sent, Db.beginTx_committed, Db.send_committed] at hsent hcomm
  unfold withinTxOf
  rcases WithinTx_cases e (fun t => runFn e (some t) fn) s with h | h | h | h | h <;> rw [h] <;>
    simp only [Db.send_sent, Db.send_committed, hsent, hcomm, List.append_assoc]
  · exact ⟨[.acquire], by simp⟩  -- `Acquire` refused
  · exact ⟨[.acquire, .begin, .release], by simp⟩  -- `Begin` refused
  · exact ⟨_, rfl, by simp⟩  -- the function's error, then the rollback
  · exact ⟨_, rfl, by simp⟩  -- the commit refused
  · -- the commit: the transaction's writes are those the database accepted
    refine ⟨_, rfl, ?_⟩
    simp [hpend, acceptedIn_append, acceptedIn, writeOf]

/-- One write, accepted and committed. -/
theorem WithinTx_flat_atomic_one_write :
    (Fn.exec "w" (.done false) (.done true)).flat = true ∧
    ∃ new, (withinTxOf .acceptAll (.exec "w" (.done false) (.done true)) .init).2.sent =
        Db.init.sent ++ new ∧
      (withinTxOf .acceptAll (.exec "w" (.done false) (.done true)) .init).2.committed =
        Db.init.committed ++
          if (withinTxOf .acceptAll (.exec "w" (.done false) (.done true)) .init).1 then
            acceptedIn .acceptAll Db.init.next Db.init.sent new else [] :=
  ⟨rfl, WithinTx_flat_atomic .acceptAll (.exec "w" (.done false) (.done true)) rfl .init⟩

end ApiToolkit.TxPostgres
