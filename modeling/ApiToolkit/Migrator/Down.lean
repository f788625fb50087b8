import ApiToolkit.Migrator.Apply

/-!
# `Down`

The Revert Engine of `src/unnamed/part_010`: `Down` is refused unless `AllowDangerousDown` is set;
under the lock it reads the successful rows in the order of `loadApplied` and reverts the last one
(`latestSuccess`), with the down script of its version (`find`). `revertOne` runs the down SQL,
when it is not blank, and the `DELETE` of the row in one transaction, and commits only when the
`DELETE` removed exactly one row.

The last row in the order of `loadApplied` is the one applied most recently, which need not be the
one of the greatest version: a version retried after a failure is applied after the versions above
it, and `Down` reverts it first (`Down_reverts_last_applied`). Whatever the database refuses and
whatever the down SQL does to the tracking table, `Down` either commits the down SQL together with
the `DELETE` of that one row, or changes nothing (`Down_atomic`). A down SQL that removes its own
version's row leaves the `DELETE` nothing to remove, and `revertOne` rolls back; a down SQL that
removes another version's row is committed with the rest
(`Down_commits_other_row_deletion`).
-/

namespace ApiToolkit.Migrator

/-- `find`: the first script of the registry with the version and the direction. -/
def find (ms : List Migration) (v : Int) (d : Direction) : Option Migration :=
  ms.find? fun m => m.Version == v && m.Dir == d

/-- The first step of `revertOne`, "Run the down SQL first", when the SQL is not blank. -/
def runDownSQL (e : Env) (tx : Db) (m : Migration) : M Db :=
  if trimSpace m.SQL ≠ "" then do
    match ← attempt (Exec e tx m) with
    | .error err =>
      Rollback
      throw (.err (.revertFailed m.Version err))
    | .ok tx => pure tx
  else pure tx

/-- The second step of `revertOne`, "Then delete the up record in the same transaction", and the
commit, when the `DELETE` removed exactly one row. -/
def deleteRecord (e : Env) (tx : Db) (m : Migration) : M Unit := do
  match ← attempt (DeleteRow e tx m.Version) with
  | .error err =>
    Rollback
    throw (.err err)
  | .ok (tx, aff) =>
    if aff ≠ 1 then
      Rollback
      throw (.err (.noRowDeleted m.Version (← get).r.Opts.TableName))
    else Commit e tx

/-- `revertOne`: the down SQL and the `DELETE` of the version's row, in one transaction. -/
def revertOne (e : Env) (m : Migration) : M Unit := do
  let tx ← BeginTx e
  let tx ← runDownSQL e tx m
  deleteRecord e tx m

/-- `Down`. With no successful row it only logs `"no successful migrations to revert"`. -/
def Down (e : Env) : M Unit := do
  if !(← get).r.Opts.AllowDangerousDown then throw (.err .downDisabled)
  withLock e do
    ensureTable e
    load e
    let appliedOK ← loadAppliedSuccess e
    match appliedOK.getLast? with
    | none => pure ()
    | some latest =>
      match find (← get).r.migrations latest.Version .down with
      | none => throw (.err (.noDown latest.Version latest.Name))
      | some down => revertOne e down

/-! ## One transaction -/

/-- The scripts whose SQL `revertOne` runs: the down script, unless its SQL is blank. -/
def downSQL (m : Migration) : List Migration := if trimSpace m.SQL ≠ "" then [m] else []

/-- The tracking table after the down SQL of `revertOne`, which runs unless it is blank. -/
def Env.afterDown (e : Env) (m : Migration) (t : Table) : Table := if trimSpace m.SQL ≠ "" then e.sql m t else t

/-- The script `find` returns is a script of the registry, with the version and direction asked. -/
theorem find_eq_some {ms : List Migration} {v : Int} {d : Direction} {m : Migration}
    (h : find ms v d = some m) : m ∈ ms ∧ m.Version = v ∧ m.Dir = d := by
  have := List.find?_some h
  simp only [Bool.and_eq_true, beq_iff_eq] at this
  exact ⟨List.mem_of_find?_eq_some h, this⟩

/-- `BeginTx` touches neither the runner nor the database, and its transaction is the database. -/
theorem BeginTx_cases (e : Env) (s : Proc) :
    BeginTx e s = .ok s.db ⟨s.r, s.db, s.sent ++ [.begin]⟩ ∨
      BeginTx e s = .error (.err (.db .begin)) ⟨s.r, s.db, s.sent ++ [.begin]⟩ := by
  unfold BeginTx send
  cases e.ok s.sent .begin <;> simp

/-- The down SQL runs in the transaction, which it extends by `downSQL m` and whose table it
rewrites, or the step fails; either way the runner and the database are as they were. -/
theorem runDownSQL_cases (e : Env) (tx : Db) (m : Migration) (s : Proc) :
    (∃ sent, runDownSQL e tx m s = .ok ⟨tx.schema ++ downSQL m, tx.table.map (e.afterDown m)⟩ ⟨s.r, s.db, sent⟩) ∨
      ∃ x sent, runDownSQL e tx m s = .error x ⟨s.r, s.db, sent⟩ := by
  unfold runDownSQL downSQL Env.afterDown
  split_ifs with h
  · cases hx : e.ok s.sent (.exec m) <;>
      simp [Exec, send, attempt, Rollback, hx, h]
  · simpa [h] using ⟨s.sent, rfl⟩

/-- The `DELETE` and the commit: either the commit installs the transaction without the version's
row, which was its only row, or the database is as it was. -/
theorem deleteRecord_cases (e : Env) {tx : Db} {t : Table} (htx : tx.table = some t) (m : Migration)
    (s : Proc) :
    (t.affected m.Version = 1 ∧
      ∃ sent, deleteRecord e tx m s = .ok () ⟨s.r, { tx with table := some (t.delete m.Version) }, sent⟩) ∨
      ∃ x sent, deleteRecord e tx m s = .error x ⟨s.r, s.db, sent⟩ := by
  unfold deleteRecord
  cases hd : e.ok s.sent (.delete m.Version)
  · simp [DeleteRow, attempt, Rollback, hd, htx]
  · by_cases ha : t.affected m.Version = 1
    · cases hc : e.ok (s.sent ++ [.delete m.Version]) .commit <;>
        simp [DeleteRow, attempt, Commit, send, hd, htx, ha, hc]
    · simp [DeleteRow, attempt, Rollback, hd, htx, ha]

/-- `revertOne` is atomic: it commits the down SQL, with what it did to the table, and the deletion
of the version's row, which was the only row the `DELETE` removed, or it leaves the database as it
was. -/
theorem revertOne_cases (e : Env) (m : Migration) {s : Proc} {t : Table} (ht : s.db.table = some t) :
    ((e.afterDown m t).affected m.Version = 1 ∧
      ∃ sent, revertOne e m s =
        .ok () ⟨s.r, ⟨s.db.schema ++ downSQL m, some ((e.afterDown m t).delete m.Version)⟩, sent⟩) ∨
      ∃ x sent, revertOne e m s = .error x ⟨s.r, s.db, sent⟩ := by
  rcases BeginTx_cases e s with h1 | h1 <;> simp only [revertOne, bind_apply, h1]
  · rcases runDownSQL_cases e s.db m ⟨s.r, s.db, s.sent ++ [.begin]⟩ with ⟨sent, h2⟩ | ⟨x, sent, h2⟩ <;>
      simp only [h2]
    · exact deleteRecord_cases e (by simp [ht]) m _
    · exact .inr ⟨x, sent, rfl⟩
  · exact .inr ⟨_, _, rfl⟩

/-- With every statement accepted, `revertOne` commits when the `DELETE` finds the version's row
after the down SQL, and otherwise rolls back with `"revert %d succeeded but no row deleted from %s"`. -/
theorem revertOne_of_accepted {e : Env} (hall : ∀ h c, e.ok h c = true) (m : Migration) {s : Proc}
    {t : Table} (ht : s.db.table = some t) :
    if (e.afterDown m t).affected m.Version = 1 then
      ∃ sent, revertOne e m s =
        .ok () ⟨s.r, ⟨s.db.schema ++ downSQL m, some ((e.afterDown m t).delete m.Version)⟩, sent⟩
    else ∃ sent, revertOne e m s = .error (.err (.noRowDeleted m.Version s.r.Opts.TableName)) ⟨s.r, s.db, sent⟩ := by
  unfold revertOne runDownSQL deleteRecord Env.afterDown downSQL
  split_ifs <;> simp [BeginTx, Exec, DeleteRow, Commit, send, attempt, Rollback, hall, ht, *]

/-! ## Which row `Down` reverts -/

/-- The row `Down` reverts, `appliedOK[len(appliedOK)-1]`: the last successful row in the order of
`loadApplied`. -/
def latestSuccess (t : Table) : Option AppliedRow := (t.loaded.filter (·.Success)).getLast?

/-- The row `Down` reverts is the successful row that comes last by `applied_at`, then by version:
every other successful row was applied before it, or at the same time with a smaller version. -/
theorem latestSuccess_eq_some {t : Table} {a : AppliedRow} :
    latestSuccess t = some a ↔ a ∈ t.rows ∧ a.Success ∧ ∀ b ∈ t.rows, b.Success → appliedLe b a := by
  have hmem : ∀ {b}, b ∈ t.loaded.filter (·.Success) ↔ b ∈ t.rows ∧ b.Success := by
    simp [Table.loaded, List.mem_insertionSort]
  have hlast : ∀ {x}, latestSuccess t = some x →
      x ∈ t.rows ∧ x.Success ∧ ∀ b ∈ t.rows, b.Success → appliedLe b x := by
    intro x hx
    obtain ⟨ys, hys⟩ := List.getLast?_eq_some_iff.1 hx
    have hsort : (ys ++ [x]).Sorted appliedLe := hys ▸ (List.sorted_insertionSort _ _).filter _
    refine ⟨(hmem.1 (by simp [hys])).1, (hmem.1 (by simp [hys])).2, fun b hb hbs => ?_⟩
    rcases List.mem_append.1 (hys ▸ hmem.2 ⟨hb, hbs⟩) with h | h
    · exact (List.pairwise_append.1 hsort).2.2 b h x (List.mem_singleton_self x)
    · rw [List.mem_singleton.1 h]; unfold appliedLe; omega
  refine ⟨hlast, fun ⟨ha, hs, hmax⟩ => ?_⟩
  obtain ⟨x, hx⟩ := Option.isSome_iff_exists.1
    (List.getLast?_isSome.2 (List.ne_nil_of_mem (hmem.2 ⟨ha, hs⟩)))
  obtain ⟨hxr, hxs, hxmax⟩ := hlast hx
  -- the two rows precede each other, so they have one version, and the primary key makes them one
  have hv : x.Version = a.Version := by
    have := hmax x hxr hxs; have := hxmax a ha hs; unfold appliedLe at *; omega
  have hxa : some x = some a :=
    (Table.get_eq_some.2 ⟨hxr, hv⟩).symm.trans (Table.get_eq_some.2 ⟨ha, rfl⟩)
  exact hx.trans hxa

/-- Every outcome of `Down` over an existing table: it leaves the database as it was, or it reverts
the last successful row, whose down script the registry holds. -/
theorem Down_cases (e : Env) {s : Proc} {t : Table} (ht : s.db.table = some t) :
    (after (Down e s)).db = s.db ∨
      ∃ a d, latestSuccess t = some a ∧ find (after (Down e s)).r.migrations a.Version .down = some d ∧
        (e.afterDown d t).affected a.Version = 1 ∧ ret (Down e s) = .ok () ∧
        (after (Down e s)).db = ⟨s.db.schema ++ downSQL d, some ((e.afterDown d t).delete a.Version)⟩ := by
  -- every statement before the revert leaves the database as it was
  by_cases hen : s.r.Opts.AllowDangerousDown = true
  swap
  · simp [Down, hen]
  cases h1 : e.ok s.sent (.lock s.r.Opts.LockKey)
  · simp [Down, hen, withLock, send, h1]
  cases h2 : e.ok (s.sent ++ [.lock s.r.Opts.LockKey]) .ensureTable
  · simp [Down, hen, withLock, send, ensureTable_of_isSome, ht, h1, h2]
  obtain ⟨err, r, hload⟩ : ∃ err r, loadMigrations
      (e.os (s.sent ++ [.lock s.r.Opts.LockKey, .ensureTable])) e.sha256 s.r = (err, r) := ⟨_, _, rfl⟩
  cases h3 : e.ok (s.sent ++ [.lock s.r.Opts.LockKey, .ensureTable]) .loadApplied <;> cases err <;>
    simp [Down, hen, withLock, send, ensureTable_of_isSome, load, loadAppliedSuccess, loadApplied, ht,
      h1, h2, h3, hload]
  -- the revert of the last successful row, when there is one and the registry has its down script
  rcases hl : latestSuccess t with _ | a <;> simp only [latestSuccess, List.filter_getLast?] at hl
  · simp [hl]
  rcases hd : find r.migrations a.Version .down with _ | d
  · simp [hl, hd]
  have hv := (find_eq_some hd).2.1
  rcases revertOne_cases e d (s := ⟨r, s.db, s.sent ++ [.lock s.r.Opts.LockKey, .ensureTable, .loadApplied]⟩)
    ht with ⟨haff, sent, h4⟩ | ⟨x, sent, h4⟩
  · rw [hv] at haff
    simp [hl, hd, h4, haff, hv]
  · simp [hl, hd, h4]

/-- `Down` is atomic: over an existing table, whatever the database refuses and whatever the down
SQL does to the table, it either leaves the schema and the table as they were, or it commits both
the down SQL of a down script of the registry, with what that SQL did to the table, and the `DELETE`
of the row of that script's version, a successful row, which was the one row the `DELETE`
removed. -/
theorem Down_atomic (e : Env) {s : Proc} {t : Table} (ht : s.db.table = some t) :
    (after (Down e s)).db = s.db ∨
      ∃ d ∈ (after (Down e s)).r.migrations, d.Dir = .down ∧
        (∃ a, t.get d.Version = some a ∧ a.Success) ∧ (e.afterDown d t).affected d.Version = 1 ∧
        ret (Down e s) = .ok () ∧
        (after (Down e s)).db = ⟨s.db.schema ++ downSQL d, some ((e.afterDown d t).delete d.Version)⟩ := by
  rcases Down_cases e ht with h | ⟨a, d, hl, hd, haff, hret, hdb⟩
  · exact .inl h
  obtain ⟨hdm, hv, hdir⟩ := find_eq_some hd
  obtain ⟨ha, hs, -⟩ := latestSuccess_eq_some.1 hl
  exact .inr ⟨d, hdm, hdir, ⟨a, Table.get_eq_some.2 ⟨ha, hv.symm⟩, hs⟩, hv ▸ haff, hret, hv ▸ hdb⟩

/-- Options that read the scripts of the directory `db` and allow `Down`. -/
def dbDirDown : Options := ⟨"db", [], [], "", 0, true⟩

/-- A directory with the up and the down script of `20240101_a` and of `20240102_b`. -/
def revertibleDir : String → FS := fun _ =>
  ⟨.ok [⟨"20240101_a.up.sql", false⟩, ⟨"20240101_a.down.sql", false⟩, ⟨"20240102_b.up.sql", false⟩,
      ⟨"20240102_b.down.sql", false⟩],
    fun n => .ok (if n = "20240101_a.up.sql" then "CREATE TABLE a ();"
      else if n = "20240101_a.down.sql" then "DROP TABLE a;"
      else if n = "20240102_b.up.sql" then "CREATE TABLE b ();" else "DROP TABLE b;")⟩

/-- The row of `20240101`, applied at time 2, after `20240102`: its first run failed, and the
retry succeeded. -/
def retriedRow : AppliedRow := ⟨20240101, "a", "CREATE TABLE a ();", 2, 0, true⟩

/-- A table where `20240102` was applied at time 1, before `20240101`. -/
def outOfOrderTable : Table :=
  (Table.empty.upsert ⟨20240102, "b", "CREATE TABLE b ();", 1, 0, true⟩).upsert retriedRow

/-- A fresh runner over `revertibleDir`, and a database with `outOfOrderTable`. -/
def outOfOrderProc : Proc := ⟨New dbDirDown, ⟨[], some outOfOrderTable⟩, []⟩

/-- A database that accepts every statement, with the directory `db` as `revertibleDir`. -/
def acceptsAll : Env where
  ok _ _ := true
  now h := h.length
  execMS _ := 0
  os _ := revertibleDir
  sha256 := id
  formatTime := toString

/-- A database that accepts every statement, and whose down scripts delete their own version's
row from the tracking table. -/
def downDeletesOwnRow : Env :=
  { acceptsAll with sql := fun m t => if m.Dir = .down then t.delete m.Version else t }

/-- `Down` over `outOfOrderTable` with the down script of `20240101` deleting its own row: the
`DELETE` removes nothing, and `revertOne` rolls back. -/
theorem Down_atomic_own_row_deleted :
    outOfOrderProc.db.table = some outOfOrderTable ∧
      ((after (Down downDeletesOwnRow outOfOrderProc)).db = outOfOrderProc.db ∨
        ∃ d ∈ (after (Down downDeletesOwnRow outOfOrderProc)).r.migrations, d.Dir = .down ∧
          (∃ a, outOfOrderTable.get d.Version = some a ∧ a.Success) ∧
          (downDeletesOwnRow.afterDown d outOfOrderTable).affected d.Version = 1 ∧
          ret (Down downDeletesOwnRow outOfOrderProc) = .ok () ∧
          (after (Down downDeletesOwnRow outOfOrderProc)).db =
            ⟨outOfOrderProc.db.schema ++ downSQL d,
              some ((downDeletesOwnRow.afterDown d outOfOrderTable).delete d.Version)⟩) ∧
      ret (Down downDeletesOwnRow outOfOrderProc) = .error (.err (.noRowDeleted 20240101 defaultTable)) :=
  ⟨rfl, Down_atomic downDeletesOwnRow rfl, rfl⟩

/-- A table where `20240101` and then `20240102` were applied. -/
def inOrderTable : Table :=
  (Table.empty.upsert ⟨20240101, "a", "CREATE TABLE a ();", 1, 0, true⟩).upsert
    ⟨20240102, "b", "CREATE TABLE b ();", 2, 0, true⟩

/-- A database that accepts every statement, and whose down scripts delete the row of `20240101`. -/
def downDeletesFirstRow : Env :=
  { acceptsAll with sql := fun m t => if m.Dir = .down then t.delete 20240101 else t }

/-- `Down` reverts `20240102`, whose down SQL deletes the row of `20240101`: the `DELETE` of
`20240102` removes one row, and `Down` commits both deletions, so the table loses the row of a
version whose down script never ran. -/
theorem Down_commits_other_row_deletion :
    ret (Down downDeletesFirstRow ⟨New dbDirDown, ⟨[], some inOrderTable⟩, []⟩) = .ok () ∧
      (after (Down downDeletesFirstRow ⟨New dbDirDown, ⟨[], some inOrderTable⟩, []⟩)).db.schema.map (·.File) =
        ["20240102_b.down.sql"] ∧
      (after (Down downDeletesFirstRow ⟨New dbDirDown, ⟨[], some inOrderTable⟩, []⟩)).db.get 20240101 = none ∧
      (after (Down downDeletesFirstRow ⟨New dbDirDown, ⟨[], some inOrderTable⟩, []⟩)).db.get 20240102 = none :=
  ⟨rfl, rfl, rfl, rfl⟩

/-- With every statement accepted, an enabled `Down` reverts the successful row applied last (by
`applied_at`, then by version), whatever its version: it commits the down script of that version
and the deletion of its row; or it returns `"no down migration for version %d (%s)"` and changes
nothing when the registry has no such script; or, when the down SQL itself removed the row, it
returns `"revert %d succeeded but no row deleted from %s"` and changes nothing. -/
theorem Down_reverts_last_applied {e : Env} {s : Proc} {t : Table} {r : Runner} {a : AppliedRow}
    (hall : ∀ h c, e.ok h c = true) (hen : s.r.Opts.AllowDangerousDown = true)
    (ht : s.db.table = some t)
    (hload : loadMigrations (e.os (s.sent ++ [.lock s.r.Opts.LockKey, .ensureTable])) e.sha256 s.r =
      (none, r))
    (ha : a ∈ t.rows) (hs : a.Success = true) (hlast : ∀ b ∈ t.rows, b.Success = true → appliedLe b a) :
    match find r.migrations a.Version .down with
    | none => ret (Down e s) = .error (.err (.noDown a.Version a.Name)) ∧ (after (Down e s)).db = s.db
    | some d =>
      if (e.afterDown d t).affected a.Version = 1 then
        ret (Down e s) = .ok () ∧
          (after (Down e s)).db = ⟨s.db.schema ++ downSQL d, some ((e.afterDown d t).delete a.Version)⟩
      else
        ret (Down e s) = .error (.err (.noRowDeleted a.Version r.Opts.TableName)) ∧
          (after (Down e s)).db = s.db := by
  have hl := latestSuccess_eq_some.2 ⟨ha, hs, hlast⟩
  simp only [latestSuccess, List.filter_getLast?] at hl
  rcases hd : find r.migrations a.Version .down with _ | d
  · simp [Down, hen, withLock, send, ensureTable_of_isSome, load, loadAppliedSuccess, loadApplied, ht,
      hall, hload, hl, hd]
  have hv := (find_eq_some hd).2.1
  have h4 := revertOne_of_accepted hall d
    (s := ⟨r, s.db, s.sent ++ [.lock s.r.Opts.LockKey, .ensureTable, .loadApplied]⟩) ht
  rw [hv] at h4
  split_ifs at h4 ⊢ with haff <;> obtain ⟨sent, h4⟩ := h4 <;>
    simp [Down, hen, withLock, send, ensureTable_of_isSome, load, loadAppliedSuccess, loadApplied, ht,
      hall, hload, hl, hd, h4, hv, haff]

/-- Over `outOfOrderTable`, `Down` reverts `20240101`, applied last, and keeps the row of the
greater version `20240102`: it runs the down script of `20240101` and deletes its row. -/
theorem Down_reverts_smaller_version_applied_later :
    (after (Down acceptsAll outOfOrderProc)).db.schema.map (·.File) = ["20240101_a.down.sql"] ∧
      (after (Down acceptsAll outOfOrderProc)).db.get 20240101 = none ∧
      (after (Down acceptsAll outOfOrderProc)).db.get 20240102 ≠ none := by
  decide

/-- `Down` over `outOfOrderTable`: the retried row of `20240101` is the last applied. -/
theorem Down_reverts_last_applied_out_of_order :
    (∀ h c, acceptsAll.ok h c = true) ∧ outOfOrderProc.r.Opts.AllowDangerousDown = true ∧
      outOfOrderProc.db.table = some outOfOrderTable ∧
      loadMigrations (acceptsAll.os (outOfOrderProc.sent ++
          [.lock outOfOrderProc.r.Opts.LockKey, .ensureTable])) acceptsAll.sha256 outOfOrderProc.r =
        (none, (loadMigrations revertibleDir id (New dbDirDown)).2) ∧
      retriedRow ∈ outOfOrderTable.rows ∧ retriedRow.Success = true ∧
      (∀ b ∈ outOfOrderTable.rows, b.Success = true → appliedLe b retriedRow) ∧
      match find (loadMigrations revertibleDir id (New dbDirDown)).2.migrations retriedRow.Version .down with
      | none => ret (Down acceptsAll outOfOrderProc) = .error (.err (.noDown retriedRow.Version retriedRow.Name)) ∧
          (after (Down acceptsAll outOfOrderProc)).db = outOfOrderProc.db
      | some d =>
        if (acceptsAll.afterDown d outOfOrderTable).affected retriedRow.Version = 1 then
          ret (Down acceptsAll outOfOrderProc) = .ok () ∧
            (after (Down acceptsAll outOfOrderProc)).db =
              ⟨outOfOrderProc.db.schema ++ downSQL d,
                some ((acceptsAll.afterDown d outOfOrderTable).delete retriedRow.Version)⟩
        else
          ret (Down acceptsAll outOfOrderProc) = .error (.err (.noRowDeleted retriedRow.Version
              (loadMigrations revertibleDir id (New dbDirDown)).2.Opts.TableName)) ∧
            (after (Down acceptsAll outOfOrderProc)).db = outOfOrderProc.db :=
  have hall : ∀ h c, acceptsAll.ok h c = true := fun _ _ => rfl
  have hmax : ∀ b ∈ outOfOrderTable.rows, b.Success = true → appliedLe b retriedRow := by decide
  ⟨hall, rfl, rfl, rfl, by decide, rfl, hmax,
    Down_reverts_last_applied (s := outOfOrderProc) (t := outOfOrderTable)
      (r := (loadMigrations revertibleDir id (New dbDirDown)).2) hall rfl rfl rfl (by decide) rfl hmax⟩

end ApiToolkit.Migrator
