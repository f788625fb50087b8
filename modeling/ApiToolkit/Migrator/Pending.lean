import ApiToolkit.Migrator.Up

/-!
# The pending scripts and drift

What `pendingUp` computes from a tracking table that `loadApplied` read. Without drift it is the
up scripts of the registry whose version has no successful row, in the registry's order
(`pendingUp_eq_pendingOf`), which on a valid registry is strictly increasing by version. With drift
anywhere in the registry it panics (`pendingUp_drift`), whatever else the table holds.
-/

namespace ApiToolkit.Migrator

/-- The assignments of `appliedSet` leave, at each version, the last successful row of it, or the
initial entry when there is none. -/
theorem foldl_appliedStep (l : List AppliedRow) (init : Int → Option AppliedRow) (v : Int) :
    l.foldl appliedStep init v = ((l.filter fun a => a.Success && a.Version == v).getLast?).or (init v) := by
  induction l generalizing init with
  | nil => simp
  | cons a l ih =>
    rw [List.foldl_cons, ih, List.filter_cons]
    by_cases ha : a.Success && a.Version == v
    · rw [if_pos ha, List.getLast?_cons]
      obtain ⟨hs, rfl⟩ : a.Success = true ∧ a.Version = v := by simpa using ha
      cases (l.filter fun b => b.Success && b.Version == a.Version).getLast? <;>
        simp [appliedStep, hs]
    · rw [if_neg ha]
      congr 1
      by_cases hs : a.Success = true
      · have hv : a.Version ≠ v := by simpa [hs] using ha
        simp [appliedStep, hs, Function.update_noteq (Ne.symm hv)]
      · simp [appliedStep, hs]

/-- On rows with distinct versions, `appliedSet` finds exactly the successful row of a version. -/
theorem appliedSet_eq_some {l : List AppliedRow} (hnd : (l.map AppliedRow.Version).Nodup)
    {v : Int} {a : AppliedRow} : appliedSet l v = some a ↔ a ∈ l ∧ a.Success ∧ a.Version = v := by
  rw [appliedSet, foldl_appliedStep, Option.or_none]
  constructor
  · intro h
    simpa using List.mem_of_getLast?_eq_some h
  · rintro ⟨ha, hs, rfl⟩
    obtain ⟨b, hb⟩ : ∃ b, (l.filter fun b => b.Success && b.Version == a.Version).getLast? = some b :=
      Option.isSome_iff_exists.1 (List.getLast?_isSome.2 (List.ne_nil_of_mem
        (List.mem_filter.2 ⟨ha, by simp [hs]⟩)))
    have hbm : b ∈ l ∧ b.Success = true ∧ b.Version = a.Version := by
      simpa using List.mem_of_getLast?_eq_some hb
    rw [hb, List.inj_on_of_nodup_map hnd hbm.1 ha hbm.2.2]

/-- `appliedSet` of the rows that `loadApplied` reads holds the table's successful rows. -/
theorem appliedSet_loaded (t : Table) {v : Int} {a : AppliedRow} :
    appliedSet t.loaded v = some a ↔ t.get v = some a ∧ a.Success := by
  have hnd : (t.loaded.map AppliedRow.Version).Nodup :=
    ((List.perm_insertionSort _ _).map _).nodup_iff.2 t.pk
  rw [appliedSet_eq_some hnd, Table.loaded, List.mem_insertionSort, Table.get_eq_some]
  tauto

/-- A successful row of version `v`. -/
def Db.succeeded (db : Db) (v : Int) : Bool := (db.get v).any (·.Success)

/-- The table that `ensureTable` leaves holds the database's rows. -/
@[simp] theorem get_getD_empty (db : Db) (v : Int) : (db.table.getD .empty).get v = db.get v := by
  cases h : db.table <;> simp [Db.get, h]

/-- `appliedSet` of the rows read after `ensureTable` misses a version exactly when it has no
successful row. -/
theorem appliedSet_isNone (db : Db) (v : Int) :
    (appliedSet (db.table.getD .empty).loaded v).isNone = !db.succeeded v := by
  cases h : appliedSet (db.table.getD .empty).loaded v with
  | none =>
    have : ∀ a, db.get v = some a → a.Success = false := fun a ha => by
      simpa [ha, h] using (appliedSet_loaded (db.table.getD .empty) (v := v) (a := a)).2
    cases hg : db.get v <;> simp_all [Db.succeeded]
  | some a =>
    obtain ⟨hg, hs⟩ := (appliedSet_loaded _).1 h
    simp_all [Db.succeeded]

/-- Drift: an up script of the registry whose version has a successful row with another
checksum. -/
def Drift (ms : List Migration) (db : Db) : Prop :=
  ∃ m ∈ ms, m.Dir = .up ∧ ∃ a, db.get m.Version = some a ∧ a.Success ∧ a.Checksum ≠ m.Checksum

/-- The pending scripts in the words of the spec: the up scripts of the registry whose version
has no successful row, in the registry's order. -/
def pendingOf (ms : List Migration) (db : Db) : List Migration :=
  ms.filter fun m => m.Dir == .up && !db.succeeded m.Version

/-- Without drift, the loop of `pendingUp` keeps the up scripts that `set` has no row for. -/
theorem pendingScan_ok {set : Int → Option AppliedRow} {ms : List Migration}
    (h : ∀ m ∈ ms, m.Dir = .up → ∀ a, set m.Version = some a → a.Checksum = m.Checksum) :
    pendingScan set ms = .ok (ms.filter fun m => m.Dir == .up && (set m.Version).isNone) := by
  induction ms with
  | nil => rfl
  | cons m ms ih =>
    have ih := ih fun m' hm' => h m' (List.mem_cons_of_mem _ hm')
    by_cases hd : m.Dir = .up
    · cases hs : set m.Version with
      | none => simp [pendingScan, hd, hs, ih, Except.map]
      | some a => simp [pendingScan, hd, hs, ih, h m (List.mem_cons_self _ _) hd a hs]
    · simp [pendingScan, hd, ih]

/-- With drift anywhere in the registry, the loop of `pendingUp` panics. -/
theorem pendingScan_drift {set : Int → Option AppliedRow} {ms : List Migration}
    (h : ∃ m ∈ ms, m.Dir = .up ∧ ∃ a, set m.Version = some a ∧ a.Checksum ≠ m.Checksum) :
    ∃ v x y, pendingScan set ms = .error (.checksumMismatch v x y) := by
  induction ms with
  | nil => simp at h
  | cons m ms ih =>
    obtain ⟨d, hd, hdu, a, ha, hne⟩ := h
    rcases List.mem_cons.1 hd with rfl | hd
    · exact ⟨d.Version, a.Checksum, d.Checksum, by simp [pendingScan, hdu, ha, hne]⟩
    · -- the drift is further on; the head is skipped, kept, or drifts itself
      obtain ⟨v, x, y, hv⟩ := ih ⟨d, hd, hdu, a, ha, hne⟩
      by_cases hm : m.Dir = .up
      · cases hs : set m.Version with
        | none => exact ⟨v, x, y, by simp [pendingScan, hm, hs, hv, Except.map]⟩
        | some b =>
          by_cases hb : b.Checksum = m.Checksum
          · exact ⟨v, x, y, by simp [pendingScan, hm, hs, hb, hv]⟩
          · exact ⟨m.Version, b.Checksum, m.Checksum, by simp [pendingScan, hm, hs, hb]⟩
      · exact ⟨v, x, y, by simp [pendingScan, hm, hv]⟩

/-- Without drift, `pendingUp` on a registry sorted as `loadMigrations` sorts it is the pending
scripts of the spec, in the registry's order. -/
theorem pendingUp_eq_pendingOf {ms : List Migration} {db : Db} (hsort : ms.Sorted migrationLe)
    (hdrift : ¬ Drift ms db) :
    pendingUp ms (db.table.getD .empty).loaded = .ok (pendingOf ms db) := by
  have hok : ∀ m ∈ ms, m.Dir = .up →
      ∀ a, appliedSet (db.table.getD .empty).loaded m.Version = some a → a.Checksum = m.Checksum := by
    intro m hm hu a ha
    obtain ⟨hg, hs⟩ := (appliedSet_loaded _).1 ha
    by_contra hne
    exact hdrift ⟨m, hm, hu, a, by simpa using hg, hs, hne⟩
  have hsorted : (pendingOf ms db).Sorted versionLe :=
    (hsort.filter _).imp fun {a b} h => by unfold migrationLe at h; unfold versionLe; omega
  simp only [pendingUp, pendingScan_ok hok, appliedSet_isNone, Except.map]
  exact congrArg Except.ok hsorted.insertionSort_eq

/-- With drift, `pendingUp` panics. -/
theorem pendingUp_drift {ms : List Migration} {db : Db} (hdrift : Drift ms db) :
    ∃ v x y, pendingUp ms (db.table.getD .empty).loaded = .error (.checksumMismatch v x y) := by
  obtain ⟨m, hm, hu, a, hg, hs, hne⟩ := hdrift
  have h₀ : ∃ m ∈ ms, m.Dir = .up ∧ ∃ a, appliedSet (db.table.getD .empty).loaded m.Version = some a ∧
      a.Checksum ≠ m.Checksum :=
    ⟨m, hm, hu, a, (appliedSet_loaded _).2 ⟨by simpa using hg, hs⟩, hne⟩
  obtain ⟨v, x, y, h⟩ := pendingScan_drift h₀
  exact ⟨v, x, y, by simp [pendingUp, h, Except.map]⟩

/-- When `pendingUp` does not panic, its scripts are the up scripts of the registry that `applied`
has no successful row for, in some order. -/
theorem pendingUp_ok_perm {ms : List Migration} {applied : List AppliedRow} {p : List Migration}
    (h : pendingUp ms applied = .ok p) :
    p.Perm (ms.filter fun m => m.Dir == .up && (appliedSet applied m.Version).isNone) := by
  have hok : ∀ m ∈ ms, m.Dir = .up → ∀ a, appliedSet applied m.Version = some a →
      a.Checksum = m.Checksum := by
    intro m hm hu a ha
    by_contra hne
    obtain ⟨v, x, y, he⟩ := pendingScan_drift ⟨m, hm, hu, a, ha, hne⟩
    simp [pendingUp, he, Except.map] at h
  simp only [pendingUp, pendingScan_ok hok, Except.map, Except.ok.injEq] at h
  exact h ▸ List.perm_insertionSort _ _

/-- On a valid registry, two up scripts of one version are the same script. -/
theorem Valid.eq_of_up {ms : List Migration} (hv : Valid ms) {a b : Migration} (ha : a ∈ ms)
    (hb : b ∈ ms) (hau : a.Dir = .up) (hbu : b.Dir = .up) (hab : a.Version = b.Version) : a = b :=
  List.inj_on_of_nodup_map hv.nodup ha hb (by simp [Migration.key, hab, hau, hbu])

/-- On a valid registry, the pending scripts are strictly increasing by version. -/
theorem Valid.pendingOf_sorted {ms : List Migration} (hv : Valid ms) (db : Db) :
    (pendingOf ms db).Sorted (·.Version < ·.Version) := by
  refine ((hv.sorted.and (List.pairwise_map.1 hv.nodup)).filter _).imp_of_mem ?_
  rintro a b ha hb ⟨hle, hne⟩
  simp only [pendingOf, List.mem_filter, Bool.and_eq_true, beq_iff_eq] at ha hb
  simp only [Migration.key, ne_eq, Prod.mk.injEq, ha.2.1, hb.2.1, and_true] at hne
  unfold migrationLe at hle
  omega

/-- The row of `m`'s version is one that `record` wrote for `m`, with the outcome `ok`. -/
def Db.RecordedAs (db : Db) (m : Migration) (ok : Bool) : Prop :=
  ∃ a, db.get m.Version = some a ∧ a.Name = m.Name ∧ a.Checksum = m.Checksum ∧ a.Success = ok

/-- The upsert of `record` leaves the script recorded. -/
theorem recordedAs_upsert {db : Db} {t : Table} {m : Migration} (now ms : Nat) (ok : Bool)
    (ht : db.table = some (t.upsert (recordRow m now ms ok))) : db.RecordedAs m ok :=
  ⟨recordRow m now ms ok, by simp [Db.get, ht, recordRow], rfl, rfl, rfl⟩

/-- Once every pending script is recorded as successful and every other row is as it was,
nothing is pending and nothing drifts. -/
theorem pending_cleared {ms : List Migration} (hv : Valid ms) {db db' : Db} (hdrift : ¬ Drift ms db)
    (hdone : ∀ m ∈ pendingOf ms db, db'.RecordedAs m true)
    (hframe : ∀ v, v ∉ (pendingOf ms db).map (·.Version) → db'.get v = db.get v) :
    pendingOf ms db' = [] ∧ ¬ Drift ms db' := by
  -- an up script of the registry whose version was pending is the pending script itself
  have hsame : ∀ m ∈ ms, m.Dir = .up → m.Version ∈ (pendingOf ms db).map (·.Version) →
      db'.RecordedAs m true := by
    intro m hm hu hin
    obtain ⟨d, hd, hdv⟩ := List.mem_map.1 hin
    have hd' := List.mem_filter.1 hd
    have hdu : d.Dir = .up := by simp at hd'; exact hd'.2.1
    rw [← hv.eq_of_up hd'.1 hm hdu hu hdv]
    exact hdone d hd
  constructor
  · refine List.filter_eq_nil_iff.2 fun m hm => ?_
    by_cases hu : m.Dir = .up
    · by_cases hin : m.Version ∈ (pendingOf ms db).map (·.Version)
      · obtain ⟨a, ha, -, -, hs⟩ := hsame m hm hu hin
        simp [Db.succeeded, ha, hs]
      · have hsucc : db.succeeded m.Version = true := by
          by_contra hns
          exact hin (List.mem_map_of_mem _ (List.mem_filter.2 ⟨hm, by simp [hu, hns]⟩))
        simp [Db.succeeded, hframe _ hin] at hsucc ⊢
        exact fun _ => hsucc
    · simp [hu]
  · rintro ⟨m, hm, hu, a, ha, hs, hne⟩
    by_cases hin : m.Version ∈ (pendingOf ms db).map (·.Version)
    · obtain ⟨b, hb, -, hbc, -⟩ := hsame m hm hu hin
      rw [ha] at hb
      cases hb
      exact hne hbc
    · exact hdrift ⟨m, hm, hu, a, by rw [← hframe _ hin]; exact ha, hs, hne⟩

end ApiToolkit.Migrator
