import ApiToolkit.Migrator.Load

/-!
# Statements to the database

The runner's statements, each one `Call` sent to the database through `send`: the database
refuses it or carries it out. `ensureTable`, `loadApplied` and `record` act on the tracking table
(the State Store of the spec); `BeginTx`, `Exec`, `DeleteRow`, `Commit` and `Rollback` act on a
transaction, which is a working copy of the database that `Commit` installs and `Rollback` drops;
`withLock` brackets a call between the lock and the unlock of the advisory lock, whose effect on
other processes is the subject of `Migrator/Lock.lean`.

A refused `Commit` commits nothing. The unlock runs whatever the protected function did, as Go's
`defer` does, and its error is dropped.
-/

namespace ApiToolkit.Migrator

@[simp] theorem bind_apply (x : M α) (f : α → M β) (s : Proc) :
    (x >>= f) s = match x s with
      | .ok a s => f a s
      | .error e s => .error e s := by
  show EStateM.bind x f s = _
  unfold EStateM.bind
  cases x s <;> rfl

@[simp] theorem map_apply (f : α → β) (x : M α) (s : Proc) :
    (f <$> x) s = match x s with
      | .ok a s => .ok (f a) s
      | .error e s => .error e s := by
  show EStateM.map f x s = _
  unfold EStateM.map
  cases x s <;> rfl

@[simp] theorem pure_apply (a : α) (s : Proc) : (pure a : M α) s = .ok a s := rfl

@[simp] theorem get_apply (s : Proc) : (get : M Proc) s = .ok s s := rfl

@[simp] theorem throw_apply (x : Stop) (s : Proc) : (throw x : M α) s = .error x s := rfl

/-- The process as a method leaves it, whether it returned or not. -/
def after : EStateM.Result Stop Proc α → Proc
  | .ok _ s => s
  | .error _ s => s

/-- How a method ended: its value, or the error it returned or the panic. -/
def ret : EStateM.Result Stop Proc α → Except Stop α
  | .ok a _ => .ok a
  | .error x _ => .error x

@[simp] theorem after_ok (a : α) (s : Proc) : after (.ok a s : EStateM.Result Stop Proc α) = s := rfl

@[simp] theorem after_error (x : Stop) (s : Proc) :
    after (.error x s : EStateM.Result Stop Proc α) = s := rfl

@[simp] theorem ret_ok (a : α) (s : Proc) : ret (.ok a s : EStateM.Result Stop Proc α) = .ok a := rfl

@[simp] theorem ret_error (x : Stop) (s : Proc) :
    ret (.error x s : EStateM.Result Stop Proc α) = .error x := rfl

/-- `err := f()` where the caller inspects `err` instead of returning it. A panic goes on. -/
def attempt (x : M α) : M (Except Err α) := fun s =>
  match x s with
  | .ok a s => .ok (.ok a) s
  | .error (.err e) s => .ok (.error e) s
  | .error p s => .error p s

/-- Sends `c`, and fails with the database's error when the database refuses it. -/
def send (e : Env) (c : Call) : M Unit := fun s =>
  if e.ok s.sent c then .ok () { s with sent := s.sent ++ [c] }
  else .error (.err (.db c)) { s with sent := s.sent ++ [c] }

/-- Sends `c` on the tracking table, which `f` rewrites; it fails when the database refuses it or
the table does not exist. -/
def onTable (e : Env) (c : Call) (f : Table → Table) : M Unit := fun s =>
  match e.ok s.sent c, s.db.table with
  | true, some t => .ok () { s with db := { s.db with table := some (f t) }, sent := s.sent ++ [c] }
  | _, _ => .error (.err (.db c)) { s with sent := s.sent ++ [c] }

/-- `ensureTable`: `CREATE TABLE IF NOT EXISTS`. -/
def ensureTable (e : Env) : M Unit := fun s =>
  match send e .ensureTable s with
  | .ok () s => .ok () { s with db := { s.db with table := some (s.db.table.getD .empty) } }
  | .error x s => .error x s

/-- Over an existing table, `ensureTable` only sends its statement. -/
theorem ensureTable_of_isSome {e : Env} {s : Proc} (ht : s.db.table.isSome) :
    ensureTable e s = send e .ensureTable s := by
  obtain ⟨r, ⟨schema, _ | t⟩, sent⟩ := s
  · cases ht
  · unfold ensureTable send
    split_ifs <;> rfl

/-- The order of `loadApplied`, `ORDER BY applied_at ASC, version ASC`. -/
def appliedLe (a b : AppliedRow) : Prop :=
  a.AppliedAt < b.AppliedAt ∨ a.AppliedAt = b.AppliedAt ∧ a.Version ≤ b.Version

instance : DecidableRel appliedLe := fun _ _ => inferInstanceAs (Decidable (_ ∨ _))

instance : IsTotal AppliedRow appliedLe := ⟨fun _ _ => by unfold appliedLe; omega⟩

instance : IsTrans AppliedRow appliedLe := ⟨fun _ _ _ => by unfold appliedLe; omega⟩

/-- The rows of a table, in the order of `loadApplied`. -/
def Table.loaded (t : Table) : List AppliedRow := t.rows.insertionSort appliedLe

/-- `loadApplied`: every row, by `applied_at`, then by version. -/
def loadApplied (e : Env) : M (List AppliedRow) := fun s =>
  match e.ok s.sent .loadApplied, s.db.table with
  | true, some t => .ok t.loaded { s with sent := s.sent ++ [.loadApplied] }
  | _, _ => .error (.err (.db .loadApplied)) { s with sent := s.sent ++ [.loadApplied] }

/-- `loadAppliedSuccess`: the rows of `loadApplied` with `success = true`, in its order. -/
def loadAppliedSuccess (e : Env) : M (List AppliedRow) := do
  let all ← loadApplied e
  return all.filter (·.Success)

/-- The row that `record` writes for `m`, at the server's time `now`. -/
def recordRow (m : Migration) (now execMS : Nat) (ok : Bool) : AppliedRow :=
  ⟨m.Version, m.Name, m.Checksum, now, execMS, ok⟩

@[simp] theorem recordRow_Version (m : Migration) (now execMS : Nat) (ok : Bool) :
    (recordRow m now execMS ok).Version = m.Version := rfl

/-- `record`: the upsert of `m`'s row, outside any transaction, stamped with `NOW()`. -/
def record (e : Env) (m : Migration) (execMS : Nat) (ok : Bool) : M Unit := fun s =>
  onTable e (.record m ok) (·.upsert (recordRow m (e.now s.sent) execMS ok)) s

/-- `BeginTx`: a transaction, the working copy of the database. -/
def BeginTx (e : Env) : M Db := fun s =>
  match send e .begin s with
  | .ok () s => .ok s.db s
  | .error x s => .error x s

/-- `tx.ExecContext(ctx, m.SQL)`: the script's effect, in the transaction, on the schema and on the
tracking table. -/
def Exec (e : Env) (tx : Db) (m : Migration) : M Db := fun s =>
  match send e (.exec m) s with
  | .ok () s => .ok ⟨tx.schema ++ [m], tx.table.map (e.sql m)⟩ s
  | .error x s => .error x s

/-- The `DELETE` of version `v` in the transaction, with the number of rows it removed. -/
def DeleteRow (e : Env) (tx : Db) (v : Int) : M (Db × Nat) := fun s =>
  match e.ok s.sent (.delete v), tx.table with
  | true, some t =>
    .ok ({ tx with table := some (t.delete v) }, t.affected v) { s with sent := s.sent ++ [.delete v] }
  | _, _ => .error (.err (.db (.delete v))) { s with sent := s.sent ++ [.delete v] }

/-- `tx.Commit()`: the working copy becomes the database. -/
def Commit (e : Env) (tx : Db) : M Unit := fun s =>
  match send e .commit s with
  | .ok () s => .ok () { s with db := tx }
  | .error x s => .error x s

/-- `_ = tx.Rollback()`: the working copy is dropped, and the error is ignored. -/
def Rollback : M Unit := fun s => .ok () { s with sent := s.sent ++ [.rollback] }

/-- `withLock`: the advisory lock, then `fn`, then the deferred unlock, whose error is dropped. -/
def withLock (e : Env) (fn : M Unit) : M Unit := fun s =>
  let key := s.r.Opts.LockKey
  match send e (.lock key) s with
  | .error x s => .error x s
  | .ok () s =>
    match fn s with
    | .ok () s => .ok () { s with sent := s.sent ++ [.unlock key] }
    | .error x s => .error x { s with sent := s.sent ++ [.unlock key] }

/-- `r.loadMigrations()`, with the directories as they are when it runs. -/
def load (e : Env) : M Unit := fun s =>
  match loadMigrations (e.os s.sent) e.sha256 s.r with
  | (none, r) => .ok () { s with r := r }
  | (some err, r) => .error (.err err) { s with r := r }

end ApiToolkit.Migrator
