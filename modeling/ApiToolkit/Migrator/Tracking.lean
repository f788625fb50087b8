import ApiToolkit.Migrator.Apply

/-!
# The tracking table and what was committed

The spec's State Store is meant to record exactly what was committed: a version has a row with
`success = true` exactly when its up script's effects are committed (`Db.Tracks`). `applyOne` runs a
script and its commit in a transaction, and writes the row afterwards, outside it, so the two can
part.

One half holds over every run of `Up` whose up scripts leave the tracking table to the runner,
whatever the database refuses: `record(m, true)` is sent only after `m`'s commit, so no successful
row names an uncommitted script (`Db.SuccessCommitted`). The
other half holds for a call of `Up` whose upserts of successful rows are accepted and whose registry
was loaded from scratch: a refused upsert after a commit leaves the script committed without its
row, and a registry that holds a script twice, as a retried load can leave it, makes `Up` run the
committed script again and record it as failed.
-/

namespace ApiToolkit.Migrator

/-- Whether the database has committed an up script of version `v`. -/
def Db.committed (db : Db) (v : Int) : Bool := db.schema.any fun m => m.Dir == .up && m.Version == v

/-- Every successful row is of a committed up script. -/
def Db.SuccessCommitted (db : Db) : Prop := ∀ v, db.succeeded v = true → db.committed v = true

/-- The correspondence of the spec: a version has a successful row exactly when its up script is
committed. -/
def Db.Tracks (db : Db) : Prop := ∀ v, db.succeeded v = db.committed v

/-- The runner's registry as the spec has it: empty until the first load, valid once loaded. -/
def Runner.Sound (r : Runner) : Prop :=
  (r.loaded = true → Valid r.migrations) ∧ (r.loaded = false → r.migrations = [])

/-- The database once `ensureTable` has run. -/
def Db.ensured (db : Db) : Db := { db with table := some (db.table.getD .empty) }

@[simp] theorem Db.committed_ensured (db : Db) (v : Int) : db.ensured.committed v = db.committed v := rfl

@[simp] theorem Db.succeeded_upsert (db : Db) (t : Table) (a : AppliedRow) (v : Int) :
    ({ db with table := some (t.upsert a) } : Db).succeeded v =
      if a.Version = v then a.Success else ({ db with table := some t } : Db).succeeded v := by
  by_cases h : a.Version = v <;> simp [Db.succeeded, Db.get, h]

@[simp] theorem Db.succeeded_ensured (db : Db) (v : Int) : db.ensured.succeeded v = db.succeeded v := by
  simp [Db.succeeded, Db.ensured, Db.get]

/-- A sound runner's load, when it succeeds, gives a valid registry. -/
theorem Runner.Sound.valid_of_load {r r' : Runner} {os : String → FS} {sha256 : String → String}
    (hr : r.Sound) (h : loadMigrations os sha256 r = (none, r')) : Valid r'.migrations := by
  cases hl : r.loaded
  · exact (loadMigrations_valid (hr.2 hl) h).2.2
  · rw [loadMigrations_loaded hl] at h
    cases h
    exact hr.1 hl

/-- Up scripts with distinct keys have distinct versions. -/
theorem nodup_versions_of_up {l : List Migration} (hnd : (l.map Migration.key).Nodup)
    (hup : ∀ m ∈ l, m.Dir = .up) : (l.map (·.Version)).Nodup := by
  have hkey : l.map Migration.key = (l.map (·.Version)).map (·, Direction.up) := by
    rw [List.map_map]
    exact List.map_congr_left fun m hm => by simp [Migration.key, hup m hm]
  exact List.Nodup.of_map _ (hkey ▸ hnd)

/-! ## One script -/

/-- Every outcome of `applyOne` over a table `t`, whatever the database refuses: the commit, with
what the script's SQL did to the table, and the successful row; or an error with the database as it
was, or with a failed row, or with the commit alone, when the upsert of the successful row was
refused. -/
theorem applyOne_cases (e : Env) (m : Migration) {s : Proc} {t : Table} (ht : s.db.table = some t) :
    (∃ now ms s', applyOne e m s = .ok () s' ∧ s'.r = s.r ∧
        s'.db = ⟨s.db.schema ++ [m], some ((e.sql m t).upsert (recordRow m now ms true))⟩) ∨
      ∃ x s', applyOne e m s = .error x s' ∧ s'.r = s.r ∧
        (s'.db = s.db ∨
          (∃ now ms, s'.db = { s.db with table := some (t.upsert (recordRow m now ms false)) }) ∨
          (∃ h, e.ok h (.record m true) = false ∧ s'.db = ⟨s.db.schema ++ [m], some (e.sql m t)⟩)) := by
  cases hb : e.ok s.sent .begin
  · simp only [applyOne, bind_apply, BeginTx, send, Bool.false_eq_true, ↓reduceIte, hb]
    exact .inr ⟨_, _, rfl, rfl, .inl rfl⟩
  cases hx : e.ok (s.sent ++ [.begin]) (.exec m)
  · -- the script is refused: rolled back, and recorded as failed unless that is refused too
    cases hr : e.ok (s.sent ++ [.begin, .exec m, .rollback]) (.record m false) <;>
      simp only [applyOne, bind_apply, BeginTx, Exec, attempt, Rollback, record, onTable, send, get_apply,
        throw_apply, List.append_assoc, List.singleton_append, List.nil_append, List.cons_append,
        Bool.false_eq_true, ↓reduceIte, ht, hb, hx, hr]
    · exact .inr ⟨_, _, rfl, rfl, .inl rfl⟩
    · exact .inr ⟨_, _, rfl, rfl, .inr (.inl ⟨_, _, rfl⟩)⟩
  cases hc : e.ok (s.sent ++ [.begin, .exec m]) .commit
  · -- the commit is refused: nothing is committed, and the script is recorded as failed
    cases hr : e.ok (s.sent ++ [.begin, .exec m, .commit]) (.record m false) <;>
      simp only [applyOne, bind_apply, BeginTx, Exec, attempt, Commit, record, onTable, send, get_apply,
        throw_apply, List.append_assoc, List.singleton_append, List.nil_append, List.cons_append,
        Bool.false_eq_true, ↓reduceIte, ht, hb, hx, hc, hr]
    · exact .inr ⟨_, _, rfl, rfl, .inl rfl⟩
    · exact .inr ⟨_, _, rfl, rfl, .inr (.inl ⟨_, _, rfl⟩)⟩
  -- the script is committed, then recorded as successful unless the upsert is refused
  cases hr : e.ok (s.sent ++ [.begin, .exec m, .commit]) (.record m true) <;>
    simp only [applyOne, bind_apply, BeginTx, Exec, attempt, Commit, record, onTable, send, get_apply,
      List.append_assoc, List.singleton_append, List.nil_append, List.cons_append, ↓reduceIte, ht, hb, hx, hc, hr,
      Option.map_some']
  · exact .inr ⟨_, _, rfl, rfl, .inr (.inr ⟨_, hr, rfl⟩)⟩
  · exact .inl ⟨_, _, _, rfl, rfl, rfl⟩

/-- The three outcomes of `applyOne` that change the database keep every successful row committed. -/
theorem Db.SuccessCommitted.applyOne {db : Db} {t : Table} {m : Migration} (hs : db.SuccessCommitted)
    (ht : db.table = some t) (hm : m.Dir = .up) (now ms : Nat) :
    (⟨db.schema ++ [m], some (t.upsert (recordRow m now ms true))⟩ : Db).SuccessCommitted ∧
      ({ db with table := some (t.upsert (recordRow m now ms false)) } : Db).SuccessCommitted ∧
      ({ db with schema := db.schema ++ [m] } : Db).SuccessCommitted := by
  refine ⟨fun v hv => ?_, fun v hv => ?_, fun v hv => ?_⟩ <;> have := hs v <;>
    by_cases h : m.Version = v <;> simp_all [Db.succeeded, Db.committed, Db.get, recordRow]

/-- The loop of `Up` over up scripts that leave the tracking table alone keeps every successful
row committed, whatever the database refuses. -/
theorem applyAll_successCommitted {e : Env} (hkeep : e.UpScriptsKeepTable) :
    ∀ (l : List Migration) (s : Proc) (t : Table), (∀ m ∈ l, m.Dir = .up) → s.db.table = some t →
      s.db.SuccessCommitted → (after (applyAll e l s)).db.SuccessCommitted
  | [], _, _, _, _, hs => hs
  | m :: l, s, t, hup, ht, hs => by
    have hm := hup m (List.mem_cons_self _ _)
    have hstep := hs.applyOne ht hm
    rcases applyOne_cases e m ht with ⟨now, ms, s', h, -, hdb⟩ | ⟨x, s', h, -, hdb⟩ <;>
      simp only [applyAll, bind_apply, h, after_error, hkeep m t hm] at hdb ⊢
    · exact applyAll_successCommitted hkeep l s' _ (fun m' hm' => hup m' (List.mem_cons_of_mem _ hm'))
        (by rw [hdb]) (hdb ▸ (hstep now ms).1)
    · rcases hdb with hdb | ⟨now, ms, hdb⟩ | ⟨-, -, hdb⟩ <;> rw [hdb]
      exacts [hs, (hstep now ms).2.1, ht ▸ (hstep 0 0).2.2]

/-- The outcomes of `applyOne` of an uncommitted up script keep the correspondence, all but the
commit whose successful row was refused. -/
theorem Db.Tracks.applyOne {db : Db} {t : Table} {m : Migration} (hs : db.Tracks)
    (ht : db.table = some t) (hm : m.Dir = .up) (hc : db.committed m.Version = false) (now ms : Nat) :
    (⟨db.schema ++ [m], some (t.upsert (recordRow m now ms true))⟩ : Db).Tracks ∧
      ({ db with table := some (t.upsert (recordRow m now ms false)) } : Db).Tracks := by
  refine ⟨fun v => ?_, fun v => ?_⟩ <;> have := hs v <;>
    by_cases h : m.Version = v <;> simp_all [Db.succeeded, Db.committed, Db.get, recordRow]

/-- The loop of `Up` over uncommitted up scripts of distinct versions that leave the tracking table
alone keeps the correspondence when the database accepts every upsert of a successful row. -/
theorem applyAll_tracks {e : Env} (hkeep : e.UpScriptsKeepTable) (hrec : ∀ h m, e.ok h (.record m true) = true) :
    ∀ (l : List Migration) (s : Proc) (t : Table),
      (∀ m ∈ l, m.Dir = .up ∧ s.db.committed m.Version = false) → (l.map (·.Version)).Nodup →
      s.db.table = some t → s.db.Tracks → (after (applyAll e l s)).db.Tracks
  | [], _, _, _, _, _, hs => hs
  | m :: l, s, t, hup, hnd, ht, hs => by
    obtain ⟨hm, hc⟩ := hup m (List.mem_cons_self _ _)
    have hstep := hs.applyOne ht hm hc
    rcases applyOne_cases e m ht with ⟨now, ms, s', h, -, hdb⟩ | ⟨x, s', h, -, hdb⟩ <;>
      simp only [applyAll, bind_apply, h, after_error, hkeep m t hm] at hdb ⊢
    · refine applyAll_tracks hkeep hrec l s' _ (fun m' hm' => ⟨(hup m' (List.mem_cons_of_mem _ hm')).1, ?_⟩)
        (List.nodup_cons.1 hnd).2 (by rw [hdb]) (hdb ▸ (hstep now ms).1)
      -- the scripts still to run have other versions than `m`, so its commit leaves them uncommitted
      have hne : m.Version ≠ m'.Version := fun h =>
        (List.nodup_cons.1 hnd).1 (List.mem_map.2 ⟨m', hm', h.symm⟩)
      have hc' := (hup m' (List.mem_cons_of_mem _ hm')).2
      simp only [Db.committed, List.any_eq_false, Bool.and_eq_true, beq_iff_eq, not_and] at hc'
      simpa [hdb, Db.committed, hne] using hc'
    · rcases hdb with hdb | ⟨now, ms, hdb⟩ | ⟨h, hr, -⟩
      · rw [hdb]; exact hs
      · rw [hdb]; exact (hstep now ms).2
      · exact absurd (hrec h m) (by simp [hr])

/-- The loop of `Up` leaves the runner as it was. -/
theorem applyAll_runner (e : Env) :
    ∀ (l : List Migration) (s : Proc) (t : Table), s.db.table = some t → (after (applyAll e l s)).r = s.r
  | [], _, _, _ => rfl
  | m :: l, s, t, ht => by
    rcases applyOne_cases e m ht with ⟨now, ms, s', h, hr, hdb⟩ | ⟨x, s', h, hr, -⟩ <;>
      simp only [applyAll, bind_apply, h, after_error]
    · rw [applyAll_runner e l s' _ (by rw [hdb]), hr]
    · exact hr

/-! ## Whole calls of `Up` -/

/-- Every outcome of `Up`, whatever the database refuses: the database as it was, or with the table
created, or the loop over the pending scripts of a registry that loaded. -/
theorem Up_cases (e : Env) (s : Proc) :
    (after (Up e s)).db = s.db ∨ (after (Up e s)).db = s.db.ensured ∨
      ∃ r pending s₄, loadMigrations (e.os (s.sent ++ [.lock s.r.Opts.LockKey, .ensureTable])) e.sha256 s.r =
          (none, r) ∧
        pendingUp r.migrations (s.db.table.getD .empty).loaded = .ok pending ∧
        s₄.r = r ∧ s₄.db = s.db.ensured ∧ (after (Up e s)) = (after (applyAll e pending s₄)).unlock s.r.Opts.LockKey := by
  cases h1 : e.ok s.sent (.lock s.r.Opts.LockKey)
  · simp [Up, withLock, send, h1]
  cases h2 : e.ok (s.sent ++ [.lock s.r.Opts.LockKey]) .ensureTable
  · simp [Up, withLock, send, ensureTable, h1, h2]
  obtain ⟨err, r, hload⟩ : ∃ err r, loadMigrations
      (e.os (s.sent ++ [.lock s.r.Opts.LockKey, .ensureTable])) e.sha256 s.r = (err, r) := ⟨_, _, rfl⟩
  cases err with
  | some err => simp [Up, withLock, send, ensureTable, load, h1, h2, hload, Db.ensured]
  | none =>
  cases h3 : e.ok (s.sent ++ [.lock s.r.Opts.LockKey, .ensureTable]) .loadApplied
  · simp [Up, withLock, send, ensureTable, load, loadApplied, h1, h2, h3, hload, Db.ensured]
  cases hp : pendingUp r.migrations (s.db.table.getD .empty).loaded with
  | error x => simp [Up, withLock, send, ensureTable, load, loadApplied, ofExcept, h1, h2, h3, hload, hp, Db.ensured]
  | ok pending => exact .inr (.inr ⟨r, pending, _, hload, hp, rfl, rfl, (Up_run h1 h2 hload h3 hp).2⟩)

/-- A call of `Up` whose up scripts leave the tracking table alone keeps every successful row
committed, whatever the database refuses. -/
theorem Up_successCommitted {e : Env} (hkeep : e.UpScriptsKeepTable) {s : Proc} (hs : s.db.SuccessCommitted) :
    (after (Up e s)).db.SuccessCommitted := by
  have hens : s.db.ensured.SuccessCommitted := fun v hv => by simpa using hs v (by simpa using hv)
  rcases Up_cases e s with h | h | ⟨r, pending, s₄, -, hp, -, h4, h⟩
  · exact h ▸ hs
  · exact h ▸ hens
  · rw [h]
    refine applyAll_successCommitted hkeep pending s₄ _ (fun m hm => ?_) (by rw [h4]; rfl) (h4 ▸ hens)
    have := (pendingUp_ok_perm hp).subset hm
    simp only [List.mem_filter, Bool.and_eq_true, beq_iff_eq] at this
    exact this.2.1

/-- A call of `Up` from a sound runner, with every upsert of a successful row accepted and the up
scripts leaving the tracking table alone, keeps the correspondence. -/
theorem Up_tracks {e : Env} {s : Proc} (hkeep : e.UpScriptsKeepTable) (hrec : ∀ h m, e.ok h (.record m true) = true)
    (hr : s.r.Sound) (hs : s.db.Tracks) : (after (Up e s)).db.Tracks := by
  have hens : s.db.ensured.Tracks := fun v => by simpa using hs v
  rcases Up_cases e s with h | h | ⟨r, pending, s₄, hload, hp, -, h4, h⟩
  · exact h ▸ hs
  · exact h ▸ hens
  · rw [h]
    have hperm := pendingUp_ok_perm hp
    -- a pending script is an up script without a successful row, so it is not committed
    have hpend : ∀ m ∈ pending, m.Dir = .up ∧ s₄.db.committed m.Version = false := by
      intro m hm
      have := hperm.subset hm
      simp only [List.mem_filter, Bool.and_eq_true, beq_iff_eq, appliedSet_isNone, Bool.not_eq_true'] at this
      exact ⟨this.2.1, by rw [h4, Db.committed_ensured, ← hs]; exact this.2.2⟩
    -- the registry is valid, so the pending scripts have distinct versions
    have hnd : (pending.map (·.Version)).Nodup := by
      refine (hperm.map _).nodup_iff.2 (nodup_versions_of_up ?_ fun m hm => ?_)
      · exact (hr.valid_of_load hload).nodup.sublist ((List.filter_sublist _).map _)
      · simp only [List.mem_filter, Bool.and_eq_true, beq_iff_eq] at hm
        exact hm.2.1
    exact applyAll_tracks hkeep hrec pending s₄ _ hpend hnd (by rw [h4]; rfl) (h4 ▸ hens)

/-- A runner that has loaded its registry keeps it through a call of `Up`. -/
theorem Up_runner_of_loaded (e : Env) {s : Proc} (hl : s.r.loaded = true) : (after (Up e s)).r = s.r := by
  cases h1 : e.ok s.sent (.lock s.r.Opts.LockKey)
  · simp [Up, withLock, send, h1]
  cases h2 : e.ok (s.sent ++ [.lock s.r.Opts.LockKey]) .ensureTable
  · simp [Up, withLock, send, ensureTable, h1, h2]
  have hload : loadMigrations (e.os (s.sent ++ [.lock s.r.Opts.LockKey, .ensureTable])) e.sha256 s.r =
    (none, s.r) := loadMigrations_loaded hl
  cases h3 : e.ok (s.sent ++ [.lock s.r.Opts.LockKey, .ensureTable]) .loadApplied
  · simp [Up, withLock, send, ensureTable, load, loadApplied, h1, h2, h3, hload]
  cases hp : pendingUp s.r.migrations (s.db.table.getD .empty).loaded with
  | error x => simp [Up, withLock, send, ensureTable, load, loadApplied, ofExcept, h1, h2, h3, hload, hp]
  | ok pending =>
    rw [(Up_run h1 h2 hload h3 hp).2, Proc.unlock]
    exact applyAll_runner e pending _ _ rfl

/-- Every run of `Up` whose up scripts leave the tracking table alone keeps every successful row
committed, whatever the database refuses. -/
theorem Up_iterate_successCommitted {e : Env} (hkeep : e.UpScriptsKeepTable) {s : Proc}
    (hs : s.db.SuccessCommitted) : ∀ n, ((fun s => after (Up e s))^[n] s).db.SuccessCommitted
  | 0 => hs
  | n + 1 => by
    rw [Function.iterate_succ_apply']
    exact Up_successCommitted hkeep (Up_iterate_successCommitted hkeep hs n)

/-- A run of `Up` from a runner that has loaded a valid registry, with every upsert of a successful
row accepted, keeps the correspondence, and the registry. -/
theorem Up_iterate_tracks {e : Env} {s : Proc} (hkeep : e.UpScriptsKeepTable)
    (hrec : ∀ h m, e.ok h (.record m true) = true)
    (hl : s.r.loaded = true) (hv : Valid s.r.migrations) (hs : s.db.Tracks) :
    ∀ n, ((fun s => after (Up e s))^[n] s).db.Tracks ∧ ((fun s => after (Up e s))^[n] s).r = s.r
  | 0 => ⟨hs, rfl⟩
  | n + 1 => by
    obtain ⟨hsn, hrn⟩ := Up_iterate_tracks hkeep hrec hl hv hs n
    rw [Function.iterate_succ_apply']
    exact ⟨Up_tracks hkeep hrec ⟨fun _ => hrn ▸ hv, by simp [hrn, hl]⟩ hsn,
      (Up_runner_of_loaded e (hrn ▸ hl)).trans hrn⟩

/-- What the tracking table records of the commits of `Up`, when no up script writes the table
itself. No call of `Up` writes a successful row for an uncommitted script, so every run keeps every
successful row committed, whatever the database refuses. The converse half holds after a call from
a sound runner, and after every call of a run from a runner that has loaded a valid registry, when
the database accepts every upsert of a successful row. -/
theorem Up_records_commits {e : Env} {s : Proc} (hkeep : e.UpScriptsKeepTable) (hs : s.db.SuccessCommitted) :
    (∀ n, ((fun s => after (Up e s))^[n] s).db.SuccessCommitted) ∧
      ((∀ h m, e.ok h (.record m true) = true) → s.db.Tracks →
        (s.r.Sound → (after (Up e s)).db.Tracks) ∧
        (s.r.loaded = true → Valid s.r.migrations → ∀ n, ((fun s => after (Up e s))^[n] s).db.Tracks)) :=
  ⟨Up_iterate_successCommitted hkeep hs, fun hrec ht =>
    ⟨fun hr => Up_tracks hkeep hrec hr ht, fun hl hv n => (Up_iterate_tracks hkeep hrec hl hv ht n).1⟩⟩

/-- A database that refuses every upsert of a successful row, with the directory `db` as
`readableDir`. -/
def recordRefused : Env where
  ok _ c := match c with
    | .record _ true => false
    | _ => true
  now h := h.length
  execMS _ := 0
  os _ := readableDir
  sha256 := id
  formatTime := toString

/-- A fresh runner over the directory `db`, and an empty tracking table. -/
def freshProc : Proc := ⟨New dbDir, ⟨[], some .empty⟩, []⟩

/-- `Up` from a fresh runner and an empty table, over a database that accepts every upsert and
refuses the script of `20240102`: every successful row stays committed, and the table tracks the
commits after the call. -/
theorem Up_records_commits_second_fails :
    secondFails.UpScriptsKeepTable ∧ freshProc.db.SuccessCommitted ∧
      (∀ n, ((fun s => after (Up secondFails s))^[n] freshProc).db.SuccessCommitted) ∧
      (∀ h m, secondFails.ok h (.record m true) = true) ∧ freshProc.db.Tracks ∧ freshProc.r.Sound ∧
      (after (Up secondFails freshProc)).db.Tracks :=
  have hkeep : secondFails.UpScriptsKeepTable := fun _ _ _ => rfl
  have hs : freshProc.db.SuccessCommitted := fun _ h => by simp [freshProc, Db.succeeded, Db.get] at h
  have hrec : ∀ h m, secondFails.ok h (.record m true) = true := fun _ _ => rfl
  have ht : freshProc.db.Tracks := fun _ => rfl
  have hr : freshProc.r.Sound := ⟨fun h => by simp [freshProc, New] at h, fun _ => rfl⟩
  ⟨hkeep, hs, (Up_records_commits hkeep hs).1, hrec, ht, hr, ((Up_records_commits hkeep hs).2 hrec ht).1 hr⟩

/-- The correspondence holds on the empty table, and `Up` breaks it: the upsert after the commit of
`20240101` is refused, and the script stays committed without a row. -/
theorem Up_commits_without_success_row :
    freshProc.db.Tracks ∧ (after (Up recordRefused freshProc)).db.committed 20240101 = true ∧
      (after (Up recordRefused freshProc)).db.get 20240101 = none :=
  ⟨fun _ => rfl, rfl, rfl⟩

/-! ## A registry loaded twice -/

/-- A database that refuses to run a script's SQL a second time, as `CREATE TABLE` does once the
table exists, and a directory `db` whose second script is readable only once a call has ended. -/
def rerunRefused : Env where
  ok h c := match c with
    | .exec m => !h.contains (.exec m)
    | _ => true
  now h := h.length
  execMS _ := 0
  os h := if h.contains (.unlock defaultLock) then readableDir else unreadableDir
  sha256 := id
  formatTime := toString

/-- The script `20240101_a.up.sql` as the loader reads it, with `sha256` as the identity. -/
def scriptA : Migration :=
  ⟨20240101, "a", .up, "20240101_a.up.sql", "CREATE TABLE a ();", "CREATE TABLE a ();"⟩

/-- The first `Up` fails to read the second script and keeps `20240101` in the registry; the second
loads it again, so `20240101` is pending twice. `Up` commits it and records it as successful, runs
it again, and overwrites its successful row with a failed one: the script stays committed, and its
row says it failed. -/
theorem Up_overwrites_success_row :
    ret (Up rerunRefused freshProc) = .error (.err (.readFile "permission denied")) ∧
      (after (Up rerunRefused (after (Up rerunRefused freshProc)))).sent.drop 3 =
        [.lock defaultLock, .ensureTable, .loadApplied, .begin, .exec scriptA, .commit,
          .record scriptA true, .begin, .exec scriptA, .rollback, .record scriptA false,
          .unlock defaultLock] ∧
      ((after (Up rerunRefused (after (Up rerunRefused freshProc)))).db.get 20240101).map (·.Success) =
        some false ∧
      (after (Up rerunRefused (after (Up rerunRefused freshProc)))).db.committed 20240101 = true :=
  ⟨rfl, rfl, rfl, rfl⟩

end ApiToolkit.Migrator
