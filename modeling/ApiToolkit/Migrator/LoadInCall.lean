import ApiToolkit.Migrator.Down
import ApiToolkit.Migrator.Sources
import ApiToolkit.Migrator.Tracking

/-!
# The load inside `Up` and `Down`

`Up` and `Down` load the registry inside the function that `withLock` protects, after
`ensureTable`. So a load that fails does so with the advisory lock taken and the tracking table
created: the call sends the lock, `CREATE TABLE IF NOT EXISTS` and, deferred, the unlock, and then
returns the load error (`Up_of_load_error`, `Down_of_load_error`). Nothing else changes: no script
runs and no row is written, and over an existing table the database is exactly as it was. Over a
database without the table, the failed call leaves the empty table behind
(`load_error_after_lock_and_table`).

The load lists the top level of each embedded filesystem (`fs.Sub(efs, ".")`), and skips its
directories. A filesystem in the layout that `EmbeddedFSs` documents, with its scripts in the
directory `migrations`, as `//go:embed migrations/*.sql` makes it, lists only that directory: the
load registers none of its scripts, and `Up` runs none of them (`embedded_migrations_not_loaded`).
-/

namespace ApiToolkit.Migrator

/-- How a call whose load fails with `err`, leaving the runner `r`, ends: the lock is refused;
or `ensureTable` is refused, after which the unlock runs; or the load error is returned, after the
table was ensured and with the unlock sent. -/
def EndsAtLoad (k : Int) (err : Err) (r : Runner) (s : Proc) (res : EStateM.Result Stop Proc Unit) :
    Prop :=
  (ret res = .error (.err (.db (.lock k))) ∧ after res = { s with sent := s.sent ++ [.lock k] }) ∨
    (ret res = .error (.err (.db .ensureTable)) ∧
      after res = { s with sent := s.sent ++ [.lock k, .ensureTable, .unlock k] }) ∨
    (ret res = .error (.err err) ∧
      after res = { r := r, db := s.db.ensured, sent := s.sent ++ [.lock k, .ensureTable, .unlock k] })

/-- A call that ends at its load leaves every script and every row as it was. -/
theorem EndsAtLoad.db {k : Int} {err : Err} {r : Runner} {s : Proc} {res : EStateM.Result Stop Proc Unit}
    (h : EndsAtLoad k err r s res) : (after res).db.schema = s.db.schema ∧ ∀ v, (after res).db.get v = s.db.get v := by
  rcases h with ⟨-, h⟩ | ⟨-, h⟩ | ⟨-, h⟩ <;> rw [h]
  · exact ⟨rfl, fun _ => rfl⟩
  · exact ⟨rfl, fun _ => rfl⟩
  · exact ⟨rfl, fun v => by simp [Db.ensured, Db.get]⟩

section LoadError

variable {e : Env} {s : Proc} {err : Err} {r : Runner}

/-- `Up` whose load fails takes the lock and ensures the table before it returns the load error. -/
theorem Up_of_load_error
    (hload : loadMigrations (e.os (s.sent ++ [.lock s.r.Opts.LockKey, .ensureTable])) e.sha256 s.r =
      (some err, r)) :
    EndsAtLoad s.r.Opts.LockKey err r s (Up e s) := by
  unfold EndsAtLoad
  cases h1 : e.ok s.sent (.lock s.r.Opts.LockKey)
  · simp [Up, withLock, send, h1]
  cases h2 : e.ok (s.sent ++ [.lock s.r.Opts.LockKey]) .ensureTable
  · simp [Up, withLock, send, ensureTable, h1, h2]
  · simp [Up, withLock, send, ensureTable, load, h1, h2, hload, Db.ensured]

/-- An enabled `Down` whose load fails ends in the same way. -/
theorem Down_of_load_error (hen : s.r.Opts.AllowDangerousDown = true)
    (hload : loadMigrations (e.os (s.sent ++ [.lock s.r.Opts.LockKey, .ensureTable])) e.sha256 s.r =
      (some err, r)) :
    EndsAtLoad s.r.Opts.LockKey err r s (Down e s) := by
  unfold EndsAtLoad
  cases h1 : e.ok s.sent (.lock s.r.Opts.LockKey)
  · simp [Down, hen, withLock, send, h1]
  cases h2 : e.ok (s.sent ++ [.lock s.r.Opts.LockKey]) .ensureTable
  · simp [Down, hen, withLock, send, ensureTable, h1, h2]
  · simp [Down, hen, withLock, send, ensureTable, load, h1, h2, hload, Db.ensured]

end LoadError

/-- Options with two directories and `Down` enabled. -/
def twoDirs : Options := ⟨"", ["db", "db2"], [], "", 0, true⟩

/-- Each directory holds a script of version `20240101` up. -/
def sameScriptDir : String → FS := fun _ =>
  ⟨.ok [⟨"20240101_a.up.sql", false⟩], fun _ => .ok "CREATE TABLE a ();"⟩

/-- A database that accepts every statement, over the two directories. -/
def duplicateSources : Env where
  ok _ _ := true
  now h := h.length
  execMS _ := 0
  os _ := sameScriptDir
  sha256 := id
  formatTime := toString

/-- A fresh runner over the two directories, and a database without the tracking table. -/
def duplicateProc : Proc := ⟨New twoDirs, ⟨[], none⟩, []⟩

/-- A failed load changes no script and no row: for every source on which the load fails and every
database, `Up` and an enabled `Down` end at the load as `EndsAtLoad` says, after taking the lock,
and leave the scripts and the rows as they were. -/
theorem load_error_keeps_scripts_and_rows {e : Env} {s : Proc} {err : Err} {r : Runner}
    (hload : loadMigrations (e.os (s.sent ++ [.lock s.r.Opts.LockKey, .ensureTable])) e.sha256 s.r =
      (some err, r)) :
    (EndsAtLoad s.r.Opts.LockKey err r s (Up e s) ∧
      (after (Up e s)).db.schema = s.db.schema ∧ ∀ v, (after (Up e s)).db.get v = s.db.get v) ∧
    (s.r.Opts.AllowDangerousDown = true → EndsAtLoad s.r.Opts.LockKey err r s (Down e s) ∧
      (after (Down e s)).db.schema = s.db.schema ∧ ∀ v, (after (Down e s)).db.get v = s.db.get v) :=
  ⟨⟨Up_of_load_error hload, (Up_of_load_error hload).db⟩,
    fun hen => ⟨Down_of_load_error hen hload, (Down_of_load_error hen hload).db⟩⟩

/-- The failed load over the two directories, for `Up` and `Down`. -/
theorem load_error_keeps_scripts_and_rows_duplicate :
    loadMigrations (duplicateSources.os (duplicateProc.sent ++
        [.lock duplicateProc.r.Opts.LockKey, .ensureTable])) duplicateSources.sha256 duplicateProc.r =
      (some (.duplicate 20240101 .up), (loadMigrations sameScriptDir id (New twoDirs)).2) ∧
    (EndsAtLoad duplicateProc.r.Opts.LockKey (.duplicate 20240101 .up)
        (loadMigrations sameScriptDir id (New twoDirs)).2 duplicateProc (Up duplicateSources duplicateProc) ∧
      (after (Up duplicateSources duplicateProc)).db.schema = duplicateProc.db.schema ∧
      ∀ v, (after (Up duplicateSources duplicateProc)).db.get v = duplicateProc.db.get v) ∧
    (duplicateProc.r.Opts.AllowDangerousDown = true →
      EndsAtLoad duplicateProc.r.Opts.LockKey (.duplicate 20240101 .up)
        (loadMigrations sameScriptDir id (New twoDirs)).2 duplicateProc (Down duplicateSources duplicateProc) ∧
      (after (Down duplicateSources duplicateProc)).db.schema = duplicateProc.db.schema ∧
      ∀ v, (after (Down duplicateSources duplicateProc)).db.get v = duplicateProc.db.get v) :=
  ⟨rfl, load_error_keeps_scripts_and_rows rfl⟩

/-- The load over the two directories fails with the duplicate, and both `Up` and `Down` return that
error only after taking the advisory lock and creating the tracking table. -/
theorem load_error_after_lock_and_table :
    (loadMigrations sameScriptDir id (New twoDirs)).1 = some (.duplicate 20240101 .up) ∧
      duplicateProc.db.table.isNone ∧
      ret (Up duplicateSources duplicateProc) = .error (.err (.duplicate 20240101 .up)) ∧
      (after (Up duplicateSources duplicateProc)).sent = [.lock defaultLock, .ensureTable, .unlock defaultLock] ∧
      (after (Up duplicateSources duplicateProc)).db.table.isSome ∧
      ret (Down duplicateSources duplicateProc) = .error (.err (.duplicate 20240101 .up)) ∧
      (after (Down duplicateSources duplicateProc)).sent =
        [.lock defaultLock, .ensureTable, .unlock defaultLock] ∧
      (after (Down duplicateSources duplicateProc)).db.table.isSome :=
  ⟨rfl, rfl, rfl, rfl, rfl, rfl, rfl, rfl⟩

/-! ## Embedded filesystems -/

/-- An embedded filesystem in the layout of `//go:embed migrations/*.sql`: its root holds the
directory `migrations`, and `readFile` reads the files under it by their paths. -/
def embedLayout (readFile : String → Except String String) : FS := ⟨.ok [⟨"migrations", true⟩], readFile⟩

/-- Options whose only source is one embedded filesystem. -/
def embedOnly (efs : FS) : Options := ⟨"", [], [efs], "", 0, false⟩

/-- The load of a fresh runner over such a filesystem succeeds with no script, whatever it holds. -/
theorem loadMigrations_embedLayout (readFile : String → Except String String) (os : String → FS)
    (sha256 : String → String) :
    loadMigrations os sha256 (New (embedOnly (embedLayout readFile))) =
      (none, { New (embedOnly (embedLayout readFile)) with loaded := true }) := rfl

/-- The scripts of an embedded `migrations` directory are never registered: for every content of
the directory, the load of a fresh runner succeeds with an empty registry, `Up` runs no script over
any database whatever it answers, and over a database that accepts every statement it returns `nil`
as if the database were up to date. -/
theorem embedded_migrations_not_loaded (readFile : String → Except String String) (e : Env) (db : Db)
    (sent : List Call) :
    (loadMigrations (e.os sent) e.sha256 (New (embedOnly (embedLayout readFile)))).2.migrations = [] ∧
      execs (after (Up e ⟨New (embedOnly (embedLayout readFile)), db, sent⟩)).sent = execs sent ∧
      ret (Up acceptsAll ⟨New (embedOnly (embedLayout readFile)), db, sent⟩) = .ok () := by
  have hk : (New (embedOnly (embedLayout readFile))).Opts.LockKey = defaultLock := rfl
  have hm : (New (embedOnly (embedLayout readFile))).migrations = [] := rfl
  refine ⟨by rw [loadMigrations_embedLayout]; rfl, ?_, ?_⟩
  · by_cases h1 : e.ok sent (.lock defaultLock)
    · by_cases h2 : e.ok (sent ++ [.lock defaultLock]) .ensureTable
      · by_cases h3 : e.ok (sent ++ [.lock defaultLock, .ensureTable]) .loadApplied <;>
          simp [Up, withLock, send, ensureTable, load, loadApplied, ofExcept, loadMigrations_embedLayout,
            pendingUp, pendingScan, Except.map, applyAll, h1, h2, h3, execs, hk, hm]
      · simp [Up, withLock, send, ensureTable, h1, h2, execs, hk]
    · simp [Up, withLock, send, h1, execs, hk]
  · simp [Up, withLock, send, ensureTable, load, loadApplied, ofExcept, loadMigrations_embedLayout,
      pendingUp, pendingScan, Except.map, applyAll, acceptsAll, hm]

end ApiToolkit.Migrator
