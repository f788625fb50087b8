import ApiToolkit.Migrator.FileName

/-!
# Loading the registry

`loadMigrations` of `src/unnamed/part_010`: the roots (`MigrationsDir`, then `MigrationsDirs`
without empty or repeated paths, then the embedded filesystems), the aggregation of every root's
non-directory entries, and the parse-and-collect loop, which appends each accepted file to
`r.migrations` and stops at a repeated `(version, dir)` or at an unreadable file. Only a load that
reaches the end sorts the registry and sets `r.loaded`.

The loop appends to `r.migrations` itself, not to a list of its own: a load that stops with an
error keeps the scripts it appended before the error, and the next load appends them again
(`loadMigrations_retry_duplicates`). A load on a fresh runner that succeeds gives a valid registry
(`loadMigrations_valid`): no two scripts share a version and a direction, sorted by version, then
direction.
-/

namespace ApiToolkit.Migrator

/-- The key of `seenMig`, `fmt.Sprintf("%d:%s", m.Version, m.Dir)`: it tells two scripts apart
exactly when their version or direction differ. -/
def Migration.key (m : Migration) : Int × Direction := (m.Version, m.Dir)

/-- The order of the `sort.Slice` of `loadMigrations`: by version, then by direction. -/
def migrationLe (a b : Migration) : Prop :=
  a.Version < b.Version ∨ a.Version = b.Version ∧ a.Dir.toNat ≤ b.Dir.toNat

instance : DecidableRel migrationLe := fun _ _ => inferInstanceAs (Decidable (_ ∨ _))

instance : IsTotal Migration migrationLe := ⟨fun _ _ => by unfold migrationLe; omega⟩

instance : IsTrans Migration migrationLe := ⟨fun _ _ _ => by unfold migrationLe; omega⟩

/-- The `sort.Slice` of `loadMigrations`. Go's sort is not stable; the model's is, which is one of
its outcomes, and the only one when no two scripts share a version and a direction. -/
def sortMigrations (ms : List Migration) : List Migration := ms.insertionSort migrationLe

/-- The explicit directories, deduplicated while keeping order, without empty paths. -/
def uniqDirs (seen : List String) : List String → List String
  | [] => []
  | d :: ds =>
    if d = "" ∨ d ∈ seen then uniqDirs seen ds else d :: uniqDirs (d :: seen) ds

/-- The roots: the explicit directories opened by `os.DirFS`, then the embedded filesystems.
`fs.Sub(efs, ".")` returns `efs` itself, so its error branch is never taken. -/
def roots (os : String → FS) (o : Options) : List FS :=
  let dirs := (if o.MigrationsDir ≠ "" then [o.MigrationsDir] else []) ++ o.MigrationsDirs
  (uniqDirs [] dirs).map os ++ o.EmbeddedFSs

/-- The aggregation loop: every root's non-directory entries, root by root, or the first listing
error, `"readdir: %w"`. -/
def listAll : List FS → Except Err (List (FS × String))
  | [] => .ok []
  | root :: rest =>
    match root.readDir with
    | .error msg => .error (.readdir msg)
    | .ok ents => (listAll rest).map (((ents.filter (!·.isDir)).map fun e => (root, e.name)) ++ ·)

/-- The parse-and-collect loop, from the keys `seen` so far and `r.migrations` as `acc`: the error
that stops it, if any, and `r.migrations` as it leaves it. -/
def collect (sha256 : String → String) (seen : List (Int × Direction)) (acc : List Migration) :
    List (FS × String) → Option Err × List Migration
  | [] => (none, acc)
  | (root, name) :: rest =>
    match parseFileName name with
    | none => collect sha256 seen acc rest
    | some m =>
      if m.key ∈ seen then (some (.duplicate m.Version m.Dir), acc)
      else
        match root.readFile name with
        | .error msg => (some (.readFile msg), acc)
        | .ok b =>
          let sql := trimSpace b
          collect sha256 (m.key :: seen) (acc ++ [{ m with SQL := sql, Checksum := sha256 sql }])
            rest

/-- `loadMigrations`, with the directories as `os` opens them: the error, if any, and the runner
as the call leaves it. -/
def loadMigrations (os : String → FS) (sha256 : String → String) (r : Runner) :
    Option Err × Runner :=
  if r.loaded then (none, r) else
    match roots os r.Opts with
    | [] => (some .noSource, r)
    | rs =>
      match listAll rs with
      | .error e => (some e, r)
      | .ok all =>
        match collect sha256 [] r.migrations all with
        | (some e, ms) => (some e, { r with migrations := ms })
        | (none, ms) => (none, { r with migrations := sortMigrations ms, loaded := true })

/-- A loaded runner's registry is cached: the load does nothing. -/
theorem loadMigrations_loaded {os : String → FS} {sha256 : String → String} {r : Runner}
    (h : r.loaded = true) : loadMigrations os sha256 r = (none, r) := by
  simp [loadMigrations, h]

/-- Options that read the scripts of the directory `db`. -/
def dbDir : Options := ⟨"db", [], [], "", 0, false⟩

/-- A directory whose second script cannot be read. -/
def unreadableDir : String → FS := fun _ =>
  ⟨.ok [⟨"20240101_a.up.sql", false⟩, ⟨"20240102_b.up.sql", false⟩],
    fun n => if n = "20240101_a.up.sql" then .ok "CREATE TABLE a ();" else .error "permission denied"⟩

/-- The same directory once both scripts can be read. -/
def readableDir : String → FS := fun _ =>
  ⟨.ok [⟨"20240101_a.up.sql", false⟩, ⟨"20240102_b.up.sql", false⟩],
    fun n => if n = "20240101_a.up.sql" then .ok "CREATE TABLE a ();" else .ok "CREATE TABLE b ();"⟩

/-- A load that stops at the unreadable file keeps the first script in `r.migrations`, and the
load that follows once the file is readable appends it again: the registry holds
`20240101 up` twice. -/
theorem loadMigrations_retry_duplicates :
    (loadMigrations unreadableDir id (New dbDir)).1 = some (.readFile "permission denied") ∧
      (loadMigrations unreadableDir id (New dbDir)).2.migrations ≠ (New dbDir).migrations ∧
      (loadMigrations readableDir id (loadMigrations unreadableDir id (New dbDir)).2).1 = none ∧
      ¬ ((loadMigrations readableDir id
        (loadMigrations unreadableDir id (New dbDir)).2).2.migrations.map Migration.key).Nodup := by
  decide

/-- What the spec asks of a registry: no two scripts share a version and a direction, and they are
sorted by version, then by direction. -/
structure Valid (ms : List Migration) : Prop where
  nodup : (ms.map Migration.key).Nodup
  sorted : ms.Sorted migrationLe

/-- The collect loop appends scripts whose keys are new: not among `seen`, and distinct. -/
theorem collect_appends (sha256 : String → String) :
    ∀ (l : List (FS × String)) (seen : List (Int × Direction)) (acc : List Migration),
      ∃ new, (collect sha256 seen acc l).2 = acc ++ new ∧ (new.map Migration.key).Nodup ∧
        ∀ m ∈ new, m.key ∉ seen
  | [], _, acc => ⟨[], by simp [collect]⟩
  | (root, name) :: rest, seen, acc => by
    unfold collect
    cases hp : parseFileName name with
    | none => exact collect_appends sha256 rest seen acc
    | some m =>
      by_cases hk : m.key ∈ seen
      · exact ⟨[], by simp [hk]⟩
      · cases hf : root.readFile name with
        | error msg => exact ⟨[], by simp [hk, hf]⟩
        | ok b =>
          obtain ⟨new, hnew, hnd, hfresh⟩ := collect_appends sha256 rest (m.key :: seen)
            (acc ++ [{ m with SQL := trimSpace b, Checksum := sha256 (trimSpace b) }])
          refine ⟨{ m with SQL := trimSpace b, Checksum := sha256 (trimSpace b) } :: new,
            by simp [hk, hf, hnew], ?_, ?_⟩
          · refine List.nodup_cons.2 ⟨fun hm => ?_, hnd⟩
            obtain ⟨x, hx, hxk⟩ := List.mem_map.1 hm
            exact hfresh x hx (List.mem_cons.2 (Or.inl hxk))
          · intro x hx
            rcases List.mem_cons.1 hx with rfl | hx
            · exact hk
            · exact fun h => hfresh x hx (List.mem_cons_of_mem _ h)

/-- A load that succeeds on a fresh runner caches a valid registry. -/
theorem loadMigrations_valid {os : String → FS} {sha256 : String → String} {r r' : Runner}
    (hfresh : r.migrations = []) (h : loadMigrations os sha256 r = (none, r')) :
    r'.loaded ∧ r'.Opts = r.Opts ∧ Valid r'.migrations := by
  unfold loadMigrations at h
  split at h
  · cases h
    exact ⟨‹_›, rfl, by simp [hfresh], by simp [hfresh]⟩
  split at h
  · simp at h
  split at h
  · simp at h
  rename_i all _
  obtain ⟨new, hnew, hnd, -⟩ := collect_appends sha256 all [] r.migrations
  split at h
  · simp at h
  rename_i ms hms
  cases h
  rw [hms, hfresh] at hnew
  subst hnew
  exact ⟨rfl, rfl, ((List.perm_insertionSort _ _).map _).nodup_iff.2 hnd,
    List.sorted_insertionSort _ _⟩

end ApiToolkit.Migrator
