import ApiToolkit.Migrator.Apply

/-!
# Drift stops `Up` and `Status`

A successful row whose checksum differs from the loaded up script of its version is drift.
`pendingUp` checks every up script of the registry before anything is applied, and panics at the
first drifted one. So `Up` and `Status` over a drifted registry, the cached one of a loaded runner or
the one a fresh runner loads in the call, run no script and write no row; the call ends with the
panic, which reaches the caller after `Up`'s deferred unlock, unless the lock or one of the reads
before the check was refused (`drift_panics_before_any_change`).
-/

namespace ApiToolkit.Migrator


/-- How a call that meets drift ends: with the panic of `pendingUp`, or with the database's error
for one of the statements sent before the check. -/
def EndsAtDrift (k : Int) (x : Except Stop α) : Prop :=
  (∃ v stored loaded, x = .error (.checksumMismatch v stored loaded)) ∨
    ∃ c ∈ [Call.lock k, .ensureTable, .loadApplied], x = .error (.err (.db c))

/-- Drift needs a successful row, so the table exists. -/
theorem drift_table {ms : List Migration} {db : Db} (h : Drift ms db) : ∃ t, db.table = some t := by
  obtain ⟨m, -, -, a, ha, -⟩ := h
  cases ht : db.table with
  | none => simp [Db.get, ht] at ha
  | some t => exact ⟨t, rfl⟩

/-- `Up` whose load gives a drifted registry, the cached one of a loaded runner or the one a fresh
runner reads: no script runs and the database is unchanged, and the call ends with the panic or with
the database's error for the lock or a read before the check. -/
theorem Up_drift {e : Env} {s : Proc} {r : Runner}
    (hload : loadMigrations (e.os (s.sent ++ [.lock s.r.Opts.LockKey, .ensureTable])) e.sha256 s.r =
      (none, r))
    (hdrift : Drift r.migrations s.db) :
    (after (Up e s)).db = s.db ∧ execs (after (Up e s)).sent = execs s.sent ∧
      EndsAtDrift s.r.Opts.LockKey (ret (Up e s)) := by
  obtain ⟨t, ht⟩ := drift_table hdrift
  obtain ⟨v, x, y, hp⟩ := pendingUp_drift hdrift
  rw [ht, Option.getD_some] at hp
  by_cases h1 : e.ok s.sent (.lock s.r.Opts.LockKey)
  · by_cases h2 : e.ok (s.sent ++ [.lock s.r.Opts.LockKey]) .ensureTable
    · by_cases h3 : e.ok (s.sent ++ [.lock s.r.Opts.LockKey, .ensureTable]) .loadApplied <;>
        simp [Up, withLock, send, ensureTable, load, loadApplied, ofExcept, hload, ht,
          hp, h1, h2, h3, execs, EndsAtDrift] <;>
        rw [← ht]
    · simp [Up, withLock, send, ensureTable, h1, h2, execs, EndsAtDrift]
  · simp [Up, withLock, send, h1, execs, EndsAtDrift]

/-- `Status` whose load gives a drifted registry ends in the same way, and changes nothing. -/
theorem Status_drift {e : Env} {s : Proc} {r : Runner}
    (hload : loadMigrations (e.os (s.sent ++ [.ensureTable])) e.sha256 s.r = (none, r))
    (hdrift : Drift r.migrations s.db) :
    (after (Status e s)).db = s.db ∧ execs (after (Status e s)).sent = execs s.sent ∧
      EndsAtDrift s.r.Opts.LockKey (ret (Status e s)) := by
  obtain ⟨t, ht⟩ := drift_table hdrift
  obtain ⟨v, x, y, hp⟩ := pendingUp_drift hdrift
  rw [ht, Option.getD_some] at hp
  by_cases h2 : e.ok s.sent .ensureTable
  · by_cases h3 : e.ok (s.sent ++ [.ensureTable]) .loadApplied <;>
      simp [Status, send, ensureTable, load, loadApplied, ofExcept, hload, ht,
        hp, h2, h3, execs, EndsAtDrift] <;>
      rw [← ht]
  · simp [Status, send, ensureTable, h2, execs, EndsAtDrift]

/-- A fresh runner over the directory `db`, and a table whose row of `20240101` was recorded for
other content. -/
def driftedProc : Proc :=
  ⟨New dbDir, ⟨[], some (Table.empty.upsert ⟨20240101, "a", "CREATE TABLE a (id int);", 0, 0, true⟩)⟩, []⟩

/-- The registry a load of the directory `db` gives a fresh runner. -/
def dbRegistry : Runner := (loadMigrations readableDir id (New dbDir)).2

/-- The registry of the directory `db` drifts from the tampered table. -/
theorem drift_dbRegistry : Drift dbRegistry.migrations driftedProc.db :=
  ⟨{ Version := 20240101, Name := "a", Dir := .up, File := "20240101_a.up.sql",
     SQL := "CREATE TABLE a ();", Checksum := "CREATE TABLE a ();" },
   by decide, rfl, _, rfl, rfl, by decide⟩

end ApiToolkit.Migrator
