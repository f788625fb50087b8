import ApiToolkit.Migrator.Pending

/-!
# `Up` applies the pending scripts in order, and stops at the first failure

The run of `Up` when the database accepts every statement but the scripts' SQL
(`Env.OnlyScriptsFail`): under the lock it creates the table if needed, loads the registry, reads
the rows, and `applyOne` takes the pending scripts in order. A script that the database accepts is
committed and recorded as successful; the first one it refuses is rolled back, recorded as failed,
and ends the run (`applyAll_of_ok`). On a registry that a fresh load built, the pending scripts are
strictly increasing by version, so each is run at most once, in that order (`Up_applies_pending`).
A second `Up` after one that returned `nil` finds nothing pending and changes nothing.
-/

namespace ApiToolkit.Migrator


/-- Whether a statement is a script's SQL. -/
def Call.isExec : Call → Bool
  | .exec _ => true
  | _ => false

/-- The database accepts every statement but the scripts' SQL, each of which it may refuse. -/
def Env.OnlyScriptsFail (e : Env) : Prop := ∀ h c, c.isExec = false → e.ok h c = true

/-- No up script's SQL writes the tracking table. -/
def Env.UpScriptsKeepTable (e : Env) : Prop := ∀ m t, m.Dir = .up → e.sql m t = t

/-- The scripts whose SQL a list of statements runs, in order. -/
def execs (l : List Call) : List Migration :=
  l.filterMap fun c => match c with
    | .exec m => some m
    | _ => none

@[simp] theorem execs_append (l l' : List Call) : execs (l ++ l') = execs l ++ execs l' := by
  simp [execs]

/-- What a run from `s` to `s'` that returned `res` did when it ran the scripts `done` and then
stopped at the first script of `rest`, if there is one. -/
structure Ran (e : Env) (s s' : Proc) (res : Except Stop Unit) (done rest : List Migration) : Prop where
  /-- It only sent more statements. -/
  sent_prefix : s.sent <+: s'.sent
  /-- It ran the SQL of `done` and of the first script of `rest`, in that order, and no other. -/
  ran : execs s'.sent = execs s.sent ++ done ++ rest.take 1
  /-- The database accepted the SQL of each script of `done` when it was sent. -/
  accepted : ∀ m ∈ done, ∃ h, s.sent <+: h ∧ h ++ [.exec m] <+: s'.sent ∧ e.ok h (.exec m) = true
  /-- The database refused the SQL of the script it stopped at. -/
  refused : ∀ f ∈ rest.head?, ∃ h, s.sent <+: h ∧ h ++ [.exec f] <+: s'.sent ∧ e.ok h (.exec f) = false
  /-- It committed exactly `done`. -/
  committed : s'.db.schema = s.db.schema ++ done
  /-- Each script of `done` is recorded as successful. -/
  done_recorded : ∀ m ∈ done, s'.db.RecordedAs m true
  /-- The script it stopped at is recorded as failed. -/
  failed_recorded : ∀ m ∈ rest.head?, s'.db.RecordedAs m false
  /-- Every other row is as it was. -/
  frame : ∀ v, v ∉ (done ++ rest.take 1).map (·.Version) → s'.db.get v = s.db.get v
  /-- It returned `nil` exactly when it ran every script, and otherwise the failing script's
  error. -/
  returns : res = match rest with
    | [] => .ok ()
    | f :: _ => .error (.err (.migrationFailed f.Version (.db (.exec f))))

section OnlyScriptsFail

variable {e : Env} {m : Migration} {s : Proc} {t : Table}

/-- A script the database accepts is committed, with what its SQL did to the table, and recorded
as successful. -/
theorem applyOne_of_accepted (hok : e.OnlyScriptsFail) (ht : s.db.table = some t)
    (hx : e.ok (s.sent ++ [.begin]) (.exec m) = true) :
    applyOne e m s = .ok ()
      { s with
        db := { schema := s.db.schema ++ [m],
                table := some ((e.sql m t).upsert (recordRow m (e.now (s.sent ++ [.begin, .exec m, .commit]))
                  (e.execMS (s.sent ++ [.begin, .exec m])) true)) }
        sent := s.sent ++ [.begin, .exec m, .commit, .record m true] } := by
  simp [applyOne, BeginTx, send, Exec, attempt, record, onTable, Commit, hx, ht, hok _ .begin rfl,
    hok _ .commit rfl, hok _ (.record m true) rfl]

/-- A script the database refuses is rolled back and recorded as failed, and `applyOne` returns
`"migration %d failed: %w"`. -/
theorem applyOne_of_refused (hok : e.OnlyScriptsFail) (ht : s.db.table = some t)
    (hx : e.ok (s.sent ++ [.begin]) (.exec m) = false) :
    applyOne e m s = .error (.err (.migrationFailed m.Version (.db (.exec m))))
      { s with
        db := { s.db with
                table := some (t.upsert (recordRow m (e.now (s.sent ++ [.begin, .exec m, .rollback]))
                  (e.execMS (s.sent ++ [.begin, .exec m])) false)) }
        sent := s.sent ++ [.begin, .exec m, .rollback, .record m false] } := by
  simp [applyOne, BeginTx, send, Exec, attempt, Rollback, record, onTable, hx, ht,
    hok _ .begin rfl, hok _ (.record m false) rfl]

/-- The loop of `Up` over scripts of distinct versions whose SQL leaves the tracking table alone:
it runs a prefix `done` of them, each accepted, committed and recorded as successful, and then the
first script of `rest`, which the database refused and which is recorded as failed (`Ran`). -/
theorem applyAll_of_ok (hok : e.OnlyScriptsFail) :
    ∀ (l : List Migration) (s : Proc) (t : Table), (l.map (·.Version)).Nodup →
      (∀ m ∈ l, ∀ t, e.sql m t = t) → s.db.table = some t →
    ∃ done rest, l = done ++ rest ∧ Ran e s (after (applyAll e l s)) (ret (applyAll e l s)) done rest ∧
      (after (applyAll e l s)).r = s.r ∧ ∃ t', (after (applyAll e l s)).db.table = some t'
  | [], s, t, _, _, ht => ⟨[], [], rfl, ⟨List.prefix_refl _, by simp [applyAll], by simp, by simp,
      by simp [applyAll], by simp, by simp, by simp [applyAll], by simp [applyAll]⟩,
      rfl, t, by simp [applyAll, ht]⟩
  | m :: ms, s, t, hnd, hkeep, ht => by
    have hm : m.Version ∉ ms.map (·.Version) := (List.nodup_cons.1 hnd).1
    cases hx : e.ok (s.sent ++ [.begin]) (.exec m)
    · -- the script is refused: the loop stops at it
      have hstep := applyOne_of_refused hok ht hx
      refine ⟨[], m :: ms, rfl, ?_, ?_, ?_⟩ <;> simp only [applyAll, bind_apply, hstep, after_error, ret_error]
      · refine ⟨List.prefix_append _ _, by simp [execs], by simp, ?_, by simp, by simp, ?_, ?_, rfl⟩
        · rintro x ⟨⟩
          exact ⟨s.sent ++ [.begin], List.prefix_append _ _, ⟨[.rollback, .record m false], by simp⟩, hx⟩
        · rintro x ⟨⟩
          exact recordedAs_upsert _ _ false rfl
        · intro v hv
          simp only [List.nil_append, List.take_succ_cons, List.take_zero, List.map_cons, List.map_nil,
            List.mem_singleton] at hv
          simp [Db.get, ht, Ne.symm hv]
      · exact ⟨_, rfl⟩
    · -- the script is committed and recorded: the loop goes on with the rest
      have hsql : e.sql m t = t := hkeep m (List.mem_cons_self _ _) t
      obtain ⟨s₁, hs₁, hstep⟩ : ∃ s₁ : Proc, s₁ = { s with
          db := { schema := s.db.schema ++ [m],
                  table := some (t.upsert (recordRow m (e.now (s.sent ++ [Call.begin, .exec m, .commit]))
                    (e.execMS (s.sent ++ [Call.begin, .exec m])) true)) }
          sent := s.sent ++ [Call.begin, .exec m, .commit, .record m true] } ∧
          applyAll e (m :: ms) s = applyAll e ms s₁ :=
        ⟨_, rfl, by simp only [applyAll, bind_apply, applyOne_of_accepted hok ht hx, hsql]⟩
      obtain ⟨done, rest, rfl, hran, hr, htab⟩ :=
        applyAll_of_ok hok ms s₁ _ (List.nodup_cons.1 hnd).2
          (fun m' hm' => hkeep m' (List.mem_cons_of_mem _ hm')) (by rw [hs₁])
      have hpre : s.sent <+: s₁.sent := by rw [hs₁]; exact List.prefix_append _ _
      refine ⟨m :: done, rest, rfl, ?_, by rw [hstep, hr, hs₁], by rw [hstep]; exact htab⟩
      rw [hstep]
      have hmv : m.Version ∉ (done ++ rest.take 1).map (·.Version) := fun h =>
        hm (List.map_subset _ (List.append_subset.2 ⟨List.subset_append_left _ _,
          fun x hx => List.mem_append_right _ (List.mem_of_mem_take hx)⟩) h)
      refine ⟨hpre.trans hran.sent_prefix, by rw [hran.ran, hs₁]; simp [execs], ?_,
        fun f hf => ?_, by rw [hran.committed, hs₁]; simp, ?_, hran.failed_recorded, ?_,
        hran.returns⟩
      · intro x hmem
        rcases List.mem_cons.1 hmem with rfl | hmem
        · refine ⟨s.sent ++ [.begin], List.prefix_append _ _, List.IsPrefix.trans ?_ hran.sent_prefix, hx⟩
          exact ⟨[.commit, .record x true], by simp [hs₁]⟩
        · obtain ⟨h, h1, h2, h3⟩ := hran.accepted x hmem
          exact ⟨h, hpre.trans h1, h2, h3⟩
      · obtain ⟨h, h1, h2, h3⟩ := hran.refused f hf
        exact ⟨h, hpre.trans h1, h2, h3⟩
      · intro x hx
        rcases List.mem_cons.1 hx with rfl | hx
        · obtain ⟨a, ha, h1, h2, h3⟩ : s₁.db.RecordedAs x true :=
            recordedAs_upsert _ _ true (by rw [hs₁])
          exact ⟨a, by rw [hran.frame _ hmv]; exact ha, h1, h2, h3⟩
        · exact hran.done_recorded x hx
      · intro v hv
        simp only [List.cons_append, List.map_cons, List.mem_cons, not_or] at hv
        rw [hran.frame v hv.2]
        simp [hs₁, Db.get, ht, Ne.symm hv.1]

end OnlyScriptsFail

/-- The deferred unlock of `withLock`, sent after the protected function. -/
def Proc.unlock (k : Int) (s : Proc) : Proc := { s with sent := s.sent ++ [.unlock k] }

/-- The run of `Up` when the lock, the table, the load and the read succeed: the loop over the
pending scripts, then the unlock. -/
theorem Up_run {e : Env} {s : Proc} {r : Runner} {pending : List Migration}
    (hlock : e.ok s.sent (.lock s.r.Opts.LockKey) = true)
    (hens : e.ok (s.sent ++ [.lock s.r.Opts.LockKey]) .ensureTable = true)
    (hload : loadMigrations (e.os (s.sent ++ [.lock s.r.Opts.LockKey, .ensureTable])) e.sha256 s.r =
      (none, r))
    (happ : e.ok (s.sent ++ [.lock s.r.Opts.LockKey, .ensureTable]) .loadApplied = true)
    (hpend : pendingUp r.migrations (s.db.table.getD .empty).loaded = .ok pending) :
    let s₄ : Proc :=
      { r := r
        db := { s.db with table := some (s.db.table.getD .empty) }
        sent := s.sent ++ [.lock s.r.Opts.LockKey, .ensureTable, .loadApplied] }
    ret (Up e s) = ret (applyAll e pending s₄) ∧
      after (Up e s) = (after (applyAll e pending s₄)).unlock s.r.Opts.LockKey := by
  simp [Up, withLock, send, ensureTable, load, loadApplied, ofExcept, hlock, hens, hload, happ,
    hpend]
  generalize applyAll e pending _ = res
  cases res <;> exact ⟨rfl, rfl⟩

/-- When nothing is pending and the registry is cached, `Up` changes nothing and runs no
script, whatever the database answers. -/
theorem Up_idle {s : Proc} {t : Table} (hl : s.r.loaded = true) (ht : s.db.table = some t)
    (hpend : pendingUp s.r.migrations t.loaded = .ok []) (e : Env) :
    (after (Up e s)).db = s.db ∧ execs (after (Up e s)).sent = execs s.sent := by
  by_cases h1 : e.ok s.sent (.lock s.r.Opts.LockKey)
  · by_cases h2 : e.ok (s.sent ++ [.lock s.r.Opts.LockKey]) .ensureTable
    · by_cases h3 : e.ok (s.sent ++ [.lock s.r.Opts.LockKey, .ensureTable]) .loadApplied <;>
        simp [Up, withLock, send, ensureTable, load, loadApplied, ofExcept, loadMigrations_loaded hl, ht,
          hpend, applyAll, h1, h2, h3, execs] <;>
        rw [← ht]
    · simp [Up, withLock, send, ensureTable, h1, h2, execs]
  · simp [Up, withLock, send, h1, execs]

/-- A run seen from an earlier state with the same schema and rows, and ended by more statements
that run no script and change nothing: the same run. -/
theorem Ran.widen {e : Env} {s₀ s s' s'' : Proc} {res : Except Stop Unit} {done rest : List Migration}
    (h : Ran e s s' res done rest) (h0 : s₀.sent <+: s.sent) (hx0 : execs s.sent = execs s₀.sent)
    (hschema : s.db.schema = s₀.db.schema) (hget : ∀ v, s.db.get v = s₀.db.get v)
    (h1 : s'.sent <+: s''.sent) (hx1 : execs s''.sent = execs s'.sent) (hdb : s''.db = s'.db) :
    Ran e s₀ s'' res done rest where
  sent_prefix := h0.trans (h.sent_prefix.trans h1)
  ran := by rw [hx1, h.ran, hx0]
  accepted m hm := by
    obtain ⟨c, hc, hc', hok⟩ := h.accepted m hm
    exact ⟨c, h0.trans hc, hc'.trans h1, hok⟩
  refused f hf := by
    obtain ⟨c, hc, hc', hok⟩ := h.refused f hf
    exact ⟨c, h0.trans hc, hc'.trans h1, hok⟩
  committed := by rw [hdb, h.committed, hschema]
  done_recorded := hdb ▸ h.done_recorded
  failed_recorded := hdb ▸ h.failed_recorded
  frame v hv := by rw [hdb, h.frame v hv, hget]
  returns := h.returns

/-- What a call of `Up` from `s` did when it ran the scripts `done` and then stopped at the first
script of `rest`, if there is one (`Ran`); and that after `nil` a second call has nothing to do. -/
structure RanInOrder (e : Env) (s : Proc) (done rest : List Migration)
    extends Ran e s (after (Up e s)) (ret (Up e s)) done rest : Prop where
  /-- After `nil`, a second `Up` runs nothing and changes nothing, whatever the database answers. -/
  again : rest = [] → ∀ e' : Env, (after (Up e' (after (Up e s)))).db = (after (Up e s)).db ∧
    execs (after (Up e' (after (Up e s)))).sent = execs (after (Up e s)).sent

/-- `Up` on a fresh runner whose load succeeds, with the database accepting every statement but
the scripts, and no up script writing the tracking table: the pending scripts are strictly
increasing by version, and `Up` runs them in order, each accepted, up to and including the first
that the database refuses (`RanInOrder`). -/
theorem Up_applies_pending {e : Env} {opts : Options} {db : Db} {sent : List Call} {r : Runner}
    (hok : e.OnlyScriptsFail) (hkeep : e.UpScriptsKeepTable)
    (hload : loadMigrations (e.os (sent ++ [.lock (New opts).Opts.LockKey, .ensureTable])) e.sha256
      (New opts) = (none, r))
    (hdrift : ¬ Drift r.migrations db) :
    (pendingOf r.migrations db).Sorted (·.Version < ·.Version) ∧
      ∃ done rest, pendingOf r.migrations db = done ++ rest ∧
        RanInOrder e ⟨New opts, db, sent⟩ done rest := by
  obtain ⟨hloaded, -, hv⟩ := loadMigrations_valid rfl hload
  have hsorted := hv.pendingOf_sorted db
  have hnd : ((pendingOf r.migrations db).map (·.Version)).Nodup :=
    (List.pairwise_map.2 hsorted).imp ne_of_lt
  have hup : ∀ m ∈ pendingOf r.migrations db, ∀ t, e.sql m t = t := fun m hm t => by
    have := (List.mem_filter.1 hm).2
    simp only [Bool.and_eq_true, beq_iff_eq] at this
    exact hkeep m t this.1
  obtain ⟨hret, hafter⟩ := Up_run (s := ⟨New opts, db, sent⟩) (hok _ _ rfl) (hok _ _ rfl) hload
    (hok _ _ rfl) (pendingUp_eq_pendingOf hv.sorted hdrift)
  dsimp only at hret hafter
  obtain ⟨done, rest, hsplit, hran, hr, ⟨t', ht'⟩⟩ :=
    applyAll_of_ok hok _
      { r := r, db := { db with table := some (db.table.getD .empty) },
        sent := sent ++ [.lock (New opts).Opts.LockKey, .ensureTable, .loadApplied] } _ hnd hup rfl
  refine ⟨hsorted, done, rest, hsplit, ⟨?_, ?_⟩⟩
  · rw [hafter, hret]
    exact hran.widen (List.prefix_append _ _) (by simp [execs]) rfl (by simp [Db.get])
      (List.prefix_append _ _) (by simp [Proc.unlock, execs]) rfl
  rintro rfl e'
  -- every pending script is now recorded as successful, and nothing else changed
  rw [List.append_nil] at hsplit
  subst hsplit
  obtain ⟨hnone, hnd'⟩ := pending_cleared hv hdrift hran.done_recorded (by simpa using hran.frame)
  rw [hafter]
  refine Up_idle (by simpa [Proc.unlock, hr] using hloaded) (by simpa [Proc.unlock] using ht') ?_ e'
  simpa [Proc.unlock, hr, ht', hnone] using pendingUp_eq_pendingOf hv.sorted hnd'

/-- A database that refuses the script of version `20240102`, over the directory `db` with the two
scripts `20240101_a` and `20240102_b`. -/
def secondFails : Env where
  ok _ c := match c with
    | .exec m => m.Version != 20240102
    | _ => true
  now h := h.length
  execMS _ := 0
  os _ := readableDir
  sha256 := id
  formatTime := toString

/-- The run of `Up` over the directory `db` on a fresh database, with the second script refused. -/
theorem Up_applies_pending_second_fails :
    secondFails.OnlyScriptsFail ∧ secondFails.UpScriptsKeepTable ∧
      loadMigrations (secondFails.os ([] ++ [.lock (New dbDir).Opts.LockKey, .ensureTable]))
        secondFails.sha256 (New dbDir) = (none, (loadMigrations readableDir id (New dbDir)).2) ∧
      ¬ Drift (loadMigrations readableDir id (New dbDir)).2.migrations ⟨[], none⟩ ∧
      ((pendingOf (loadMigrations readableDir id (New dbDir)).2.migrations ⟨[], none⟩).Sorted
          (·.Version < ·.Version) ∧
        ∃ done rest,
          pendingOf (loadMigrations readableDir id (New dbDir)).2.migrations ⟨[], none⟩ = done ++ rest ∧
          RanInOrder secondFails ⟨New dbDir, ⟨[], none⟩, []⟩ done rest) :=
  have hok : secondFails.OnlyScriptsFail := fun h c hc => by
    cases c <;> simp_all [secondFails, Call.isExec]
  have hkeep : secondFails.UpScriptsKeepTable := fun _ _ _ => rfl
  have hload : loadMigrations (secondFails.os ([] ++ [.lock (New dbDir).Opts.LockKey, .ensureTable]))
      secondFails.sha256 (New dbDir) = (none, (loadMigrations readableDir id (New dbDir)).2) := rfl
  have hdrift : ¬ Drift (loadMigrations readableDir id (New dbDir)).2.migrations ⟨[], none⟩ := by
    simp [Drift, Db.get]
  ⟨hok, hkeep, hload, hdrift, Up_applies_pending hok hkeep hload hdrift⟩

/-- The database of `secondFails`, whose first script `20240101` also deletes the row of
`20231231` from the tracking table. -/
def firstDeletesOld : Env :=
  { secondFails with sql := fun m t => if m.Version = 20240101 then t.delete 20231231 else t }

/-- A fresh runner over the directory `db`, and a tracking table with a failed row of `20231231`, a
version no script has. -/
def oldRowProc : Proc := ⟨New dbDir, ⟨[], some (Table.empty.upsert ⟨20231231, "old", "", 0, 0, false⟩)⟩, []⟩

/-- `Up` stops at the refused `20240102`, with `20240101` recorded as successful and `20240102` as
failed, and the row of `20231231`, which no script of the registry has, is gone. -/
theorem Up_script_deletes_other_row :
    oldRowProc.db.get 20231231 ≠ none ∧
      (∃ err, ret (Up firstDeletesOld oldRowProc) = .error (.err (.migrationFailed 20240102 err))) ∧
      ((after (Up firstDeletesOld oldRowProc)).db.get 20240101).map (·.Success) = some true ∧
      ((after (Up firstDeletesOld oldRowProc)).db.get 20240102).map (·.Success) = some false ∧
      (after (Up firstDeletesOld oldRowProc)).db.get 20231231 = none :=
  ⟨by decide, ⟨_, rfl⟩, rfl, rfl, rfl⟩

end ApiToolkit.Migrator
