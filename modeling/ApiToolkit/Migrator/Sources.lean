import ApiToolkit.Migrator.Load
import Mathlib.Data.List.Dedup

/-!
# What a load registers

The Source Aggregator of the spec, `loadMigrations` on a fresh runner, described by what it reads:
the roots as the spec lists them (`listedRoots`: `MigrationsDir`, then `MigrationsDirs`, without
empty or repeated paths, then the embedded filesystems), their non-directory entries (`FS.files`),
the entries whose name `parseFileName` accepts (`accepted`), and the script read for each
(`readScript`). The loader's own roots (`roots`, through `uniqDirs`) are these roots
(`roots_perm_listedRoots`), and the statement is made over the spec's list.

The load succeeds exactly when there is a root, every root can be listed, no two accepted entries
share a version and a direction, and every accepted entry can be read; the registry is then one
script per accepted entry, strictly increasing by version, then direction
(`loadMigrations_fresh`). Each loop of the source has its lemma: `listAll_of_listable` and
`listAll_of_not_listable` for the listing, `collect_eq_none_iff` and `collect_of_eq_none` for the
parse-and-collect loop.
-/

namespace ApiToolkit.Migrator

/-- The directories as the spec lists them: `MigrationsDir`, then `MigrationsDirs`, without empty
paths, each path at its first place. -/
def listedDirs (o : Options) : List String :=
  ((o.MigrationsDir :: o.MigrationsDirs).filter (· ≠ "")).reverse.dedup.reverse

/-- The roots as the spec lists them: the listed directories, each opened by `os.DirFS`, then the
embedded filesystems. -/
def listedRoots (os : String → FS) (o : Options) : List FS := (listedDirs o).map os ++ o.EmbeddedFSs

/-- Whether `fs.ReadDir(root, ".")` succeeds. -/
def FS.listable (root : FS) : Bool := root.readDir.isOk

/-- The non-directory entries of a root, each with its root, in the listing's order; none when the
root cannot be listed. -/
def FS.files (root : FS) : List (FS × String) :=
  match root.readDir with
  | .ok ents => (ents.filter (!·.isDir)).map fun e => (root, e.name)
  | .error _ => []

/-- The entries that `parseFileName` accepts, each with its root and the script its name gives. -/
def accepted (all : List (FS × String)) : List (FS × Migration) :=
  all.filterMap fun p => (parseFileName p.2).map (p.1, ·)

/-- The script the loader registers for an accepted entry: the trimmed content of its file and the
checksum of that text; none when `fs.ReadFile` fails. -/
def readScript (sha256 : String → String) (p : FS × Migration) : Option Migration :=
  match p.1.readFile p.2.File with
  | .ok b => some { p.2 with SQL := trimSpace b, Checksum := sha256 (trimSpace b) }
  | .error _ => none

/-- The strict order of a registry: by version, then by direction. -/
def migrationLt (a b : Migration) : Prop :=
  a.Version < b.Version ∨ a.Version = b.Version ∧ a.Dir.toNat < b.Dir.toNat

/-- A name that `parseFileName` accepts is the script's `File`. -/
theorem parseFileName_file {name : String} {m : Migration} (h : parseFileName name = some m) :
    m.File = name := by
  unfold parseFileName at h
  split at h
  · cases h
  · split at h
    · cases h
    · cases h; rfl

/-- A read script keeps the version and direction of its name. -/
theorem readScript_key {sha256 : String → String} {p : FS × Migration} {m : Migration}
    (h : readScript sha256 p = some m) : m.key = p.2.key := by
  unfold readScript at h
  split at h <;> cases h
  rfl

/-- Two scripts in the order of the sort with different keys are in the strict order. -/
theorem migrationLt_of_le {a b : Migration} (h : migrationLe a b) (hk : a.key ≠ b.key) :
    migrationLt a b := by
  unfold migrationLe at h
  unfold migrationLt
  rcases h with h | ⟨hv, hd⟩
  · exact .inl h
  · refine .inr ⟨hv, lt_of_le_of_ne hd fun hd' => hk ?_⟩
    have : a.Dir = b.Dir := by cases ha : a.Dir <;> cases hb : b.Dir <;> simp_all [Direction.toNat]
    simp [Migration.key, hv, this]

/-! ## The roots -/

/-- `uniqDirs` keeps the non-empty directories not seen before. -/
theorem mem_uniqDirs {seen ds : List String} {d : String} :
    d ∈ uniqDirs seen ds ↔ d ∈ ds ∧ d ≠ "" ∧ d ∉ seen := by
  induction ds generalizing seen with
  | nil => simp [uniqDirs]
  | cons x ds ih =>
    unfold uniqDirs
    by_cases hx : d = x
    · subst hx
      split_ifs with h
      · rw [ih]; rcases h with h | h <;> simp [h]
      · simp_all
    · split_ifs <;> simp_all

/-- `uniqDirs` names each directory once. -/
theorem nodup_uniqDirs (seen ds : List String) : (uniqDirs seen ds).Nodup := by
  induction ds generalizing seen with
  | nil => exact List.nodup_nil
  | cons x ds ih =>
    unfold uniqDirs
    split_ifs
    · exact ih seen
    · exact List.nodup_cons.2 ⟨fun h => (mem_uniqDirs.1 h).2.2 (List.mem_cons_self _ _), ih _⟩

/-- The loader's directories are the listed ones, in some order. -/
theorem uniqDirs_perm_listedDirs (o : Options) :
    (uniqDirs [] ((if o.MigrationsDir ≠ "" then [o.MigrationsDir] else []) ++ o.MigrationsDirs)).Perm
      (listedDirs o) := by
  refine (List.perm_ext_iff_of_nodup (nodup_uniqDirs _ _)
    (List.nodup_reverse.2 (List.nodup_dedup _))).2 fun d => ?_
  simp only [mem_uniqDirs, listedDirs, List.mem_reverse, List.mem_dedup, List.mem_filter]
  by_cases h : o.MigrationsDir = "" <;> by_cases hd : d = o.MigrationsDir <;> simp_all

/-- The loader's roots are the listed ones, in some order. -/
theorem roots_perm_listedRoots (os : String → FS) (o : Options) : (roots os o).Perm (listedRoots os o) :=
  ((uniqDirs_perm_listedDirs o).map os).append_right _

/-! ## The listing -/

/-- Roots that can all be listed give their non-directory entries, root by root. -/
theorem listAll_of_listable : ∀ {rs : List FS}, (∀ root ∈ rs, root.listable) →
    listAll rs = .ok (rs.flatMap FS.files)
  | [], _ => rfl
  | root :: rest, h => by
    have hrest := listAll_of_listable fun r hr => h r (List.mem_cons_of_mem _ hr)
    have hroot := h root (List.mem_cons_self _ _)
    unfold FS.listable at hroot
    cases hd : root.readDir with
    | error msg => simp [hd, Except.isOk, Except.toBool] at hroot
    | ok ents => simp [listAll, hd, hrest, FS.files, Except.map]

/-- A root that cannot be listed fails the listing. -/
theorem listAll_of_not_listable : ∀ {rs : List FS}, (∃ root ∈ rs, root.listable = false) →
    ∃ msg, listAll rs = .error (.readdir msg)
  | [], ⟨_, h, _⟩ => absurd h (List.not_mem_nil _)
  | root :: rest, ⟨r, hr, hl⟩ => by
    cases hd : root.readDir with
    | error msg => exact ⟨msg, by simp [listAll, hd]⟩
    | ok ents =>
      have hne : r ≠ root := fun h => by
        subst h; simp [FS.listable, hd, Except.isOk, Except.toBool] at hl
      obtain ⟨msg, hmsg⟩ := listAll_of_not_listable ⟨r, (List.mem_cons.1 hr).resolve_left hne, hl⟩
      exact ⟨msg, by simp [listAll, hd, hmsg, Except.map]⟩

/-! ## The parse-and-collect loop -/

/-- An entry whose name the grammar rejects is not accepted. -/
theorem accepted_cons_of_none {root : FS} {name : String} (rest : List (FS × String))
    (hp : parseFileName name = none) : accepted ((root, name) :: rest) = accepted rest := by
  simp [accepted, hp]

/-- An entry whose name the grammar accepts comes first, with its script. -/
theorem accepted_cons_of_some {root : FS} {name : String} {m : Migration} (rest : List (FS × String))
    (hp : parseFileName name = some m) : accepted ((root, name) :: rest) = (root, m) :: accepted rest := by
  simp [accepted, hp]

section Collect

variable (sha256 : String → String)

/-- The loop reaches its end exactly when the accepted entries have distinct keys, none of them
seen before, and every one can be read. -/
theorem collect_eq_none_iff : ∀ (l : List (FS × String)) (seen : List (Int × Direction))
    (acc : List Migration),
    (collect sha256 seen acc l).1 = none ↔
      ((accepted l).map (·.2.key)).Nodup ∧ (∀ p ∈ accepted l, p.2.key ∉ seen) ∧
        ∀ p ∈ accepted l, (readScript sha256 p).isSome
  | [], _, _ => by simp [collect, accepted]
  | (root, name) :: rest, seen, acc => by
    cases hp : parseFileName name with
    | none =>
      rw [accepted_cons_of_none rest hp, ← collect_eq_none_iff rest seen acc]
      simp only [collect, hp]
    | some m =>
      rw [accepted_cons_of_some rest hp]
      by_cases hk : m.key ∈ seen
      · simp [collect, hp, hk]
      cases hf : root.readFile name with
      | error msg => simp [collect, hp, hk, hf, readScript, parseFileName_file hp]
      | ok b =>
        simp only [collect, hp, hk, hf, if_false]
        rw [collect_eq_none_iff rest]
        simp only [List.map_cons, List.nodup_cons, List.mem_cons, List.mem_map, forall_eq_or_imp,
          not_or, readScript, parseFileName_file hp, hf, Option.isSome_some, true_and]
        constructor
        · rintro ⟨hnd, hseen, hread⟩
          exact ⟨⟨fun ⟨p, hp, hpk⟩ => (hseen p hp).1 hpk, hnd⟩, ⟨hk, fun p hp => (hseen p hp).2⟩, hread⟩
        · rintro ⟨⟨hnew, hnd⟩, ⟨-, hseen⟩, hread⟩
          exact ⟨hnd, fun p hp => ⟨fun hpk => hnew ⟨p, hp, hpk⟩, hseen p hp⟩, hread⟩

/-- A loop that reaches its end appends the script read for each accepted entry, in order. -/
theorem collect_of_eq_none : ∀ {l : List (FS × String)} {seen : List (Int × Direction)}
    {acc : List Migration}, (collect sha256 seen acc l).1 = none →
    (collect sha256 seen acc l).2 = acc ++ (accepted l).filterMap (readScript sha256)
  | [], _, _, _ => by simp [collect, accepted]
  | (root, name) :: rest, seen, acc, h => by
    cases hp : parseFileName name with
    | none =>
      simp only [collect, hp] at h ⊢
      simpa [accepted, hp] using collect_of_eq_none h
    | some m =>
      by_cases hk : m.key ∈ seen
      · simp [collect, hp, hk] at h
      cases hf : root.readFile name with
      | error msg => simp [collect, hp, hk, hf] at h
      | ok b =>
        simp only [collect, hp, hk, hf, if_false] at h ⊢
        rw [collect_of_eq_none h]
        simp [accepted, hp, readScript, parseFileName_file hp, hf]

/-- Read scripts keep the keys of their entries. -/
theorem filterMap_readScript_keys {l : List (FS × Migration)} (h : ∀ p ∈ l, (readScript sha256 p).isSome) :
    (l.filterMap (readScript sha256)).map Migration.key = l.map (·.2.key) := by
  induction l with
  | nil => rfl
  | cons p rest ih =>
    obtain ⟨m, hm⟩ := Option.isSome_iff_exists.1 (h p (List.mem_cons_self _ _))
    rw [List.filterMap_cons, hm, List.map_cons, List.map_cons, readScript_key hm,
      ih fun q hq => h q (List.mem_cons_of_mem _ hq)]

end Collect

/-! ## The load on a fresh runner -/

/-- `loadMigrations` on a fresh runner, over the loader's own roots. -/
theorem loadMigrations_fresh_of_roots {os : String → FS} {sha256 : String → String} {r : Runner}
    (hfresh : r.migrations = []) (hnew : r.loaded = false) :
    ((loadMigrations os sha256 r).1 = none ↔
      roots os r.Opts ≠ [] ∧ (∀ root ∈ roots os r.Opts, root.listable) ∧
        ((accepted ((roots os r.Opts).flatMap FS.files)).map (·.2.key)).Nodup ∧
        ∀ p ∈ accepted ((roots os r.Opts).flatMap FS.files), (readScript sha256 p).isSome) ∧
    ((loadMigrations os sha256 r).1 = none →
      (loadMigrations os sha256 r).2.loaded ∧
      (loadMigrations os sha256 r).2.migrations.Perm
        ((accepted ((roots os r.Opts).flatMap FS.files)).filterMap (readScript sha256)) ∧
      (loadMigrations os sha256 r).2.migrations.Sorted migrationLt) := by
  unfold loadMigrations
  rw [hnew, if_neg Bool.false_ne_true]
  cases hroots : roots os r.Opts with
  | nil => simp
  | cons root rest =>
    simp only [ne_eq, reduceCtorEq, not_false_eq_true, true_and]
    by_cases hl : ∀ x ∈ root :: rest, x.listable
    · rw [listAll_of_listable hl, hfresh]
      dsimp only
      rcases hc : collect sha256 [] [] ((root :: rest).flatMap FS.files) with ⟨_ | e, ms⟩
      · -- the loop reached its end: the registry is the sorted read scripts
        have hend : (collect sha256 [] [] ((root :: rest).flatMap FS.files)).1 = none := by rw [hc]
        obtain ⟨hnd, -, hread⟩ := (collect_eq_none_iff sha256 _ [] []).1 hend
        have hms := collect_of_eq_none sha256 hend
        rw [hc] at hms
        subst hms
        have hkeys := filterMap_readScript_keys sha256 hread ▸ hnd
        have hperm := List.perm_insertionSort migrationLe
          ((accepted ((root :: rest).flatMap FS.files)).filterMap (readScript sha256))
        refine ⟨iff_of_true rfl ⟨hl, hnd, hread⟩, fun _ => ⟨rfl, hperm, ?_⟩⟩
        exact ((List.sorted_insertionSort _ _).and
          (List.pairwise_map.1 ((hperm.map _).nodup_iff.2 hkeys))).imp fun h => migrationLt_of_le h.1 h.2
      · -- the loop stopped at a duplicate or an unreadable file
        have hend : (collect sha256 [] [] ((root :: rest).flatMap FS.files)).1 ≠ none := by
          rw [hc]; exact Option.some_ne_none e
        refine ⟨iff_of_false (by simp) fun ⟨_, hnd, hread⟩ => hend ?_, fun h => by simp at h⟩
        exact (collect_eq_none_iff sha256 _ [] []).2 ⟨hnd, by simp, hread⟩
    · -- a root cannot be listed
      push_neg at hl
      obtain ⟨x, hx, hxl⟩ := hl
      obtain ⟨msg, hmsg⟩ := listAll_of_not_listable ⟨x, hx, by simpa using hxl⟩
      rw [hmsg]
      exact ⟨iff_of_false (by simp) fun ⟨hall, _⟩ => hxl (hall x hx), fun h => by simp at h⟩

/-- `loadMigrations` on a fresh runner succeeds exactly when there is a root, every root can be
listed, no two accepted entries share a version and a direction, whether in one root or in two, and
every accepted entry can be read, the roots being `MigrationsDir`, then `MigrationsDirs` without
empty or repeated paths, then the embedded filesystems. The registry it caches is then one script
per accepted entry, with the entry's trimmed content and its checksum, strictly increasing by
version, then direction: other names and directories contribute nothing. -/
theorem loadMigrations_fresh {os : String → FS} {sha256 : String → String} {r : Runner}
    (hfresh : r.migrations = []) (hnew : r.loaded = false) :
    ((loadMigrations os sha256 r).1 = none ↔
      listedRoots os r.Opts ≠ [] ∧ (∀ root ∈ listedRoots os r.Opts, root.listable) ∧
        ((accepted ((listedRoots os r.Opts).flatMap FS.files)).map (·.2.key)).Nodup ∧
        ∀ p ∈ accepted ((listedRoots os r.Opts).flatMap FS.files), (readScript sha256 p).isSome) ∧
    ((loadMigrations os sha256 r).1 = none →
      (loadMigrations os sha256 r).2.loaded ∧
      (loadMigrations os sha256 r).2.migrations.Perm
        ((accepted ((listedRoots os r.Opts).flatMap FS.files)).filterMap (readScript sha256)) ∧
      (loadMigrations os sha256 r).2.migrations.Sorted migrationLt) := by
  have hroots := roots_perm_listedRoots os r.Opts
  have hacc : (accepted ((roots os r.Opts).flatMap FS.files)).Perm
      (accepted ((listedRoots os r.Opts).flatMap FS.files)) := (hroots.flatMap_right _).filterMap _
  obtain ⟨hiff, hreg⟩ := @loadMigrations_fresh_of_roots os sha256 r hfresh hnew
  refine ⟨hiff.trans ?_, fun h => ?_⟩
  · have hne : roots os r.Opts ≠ [] ↔ listedRoots os r.Opts ≠ [] := by
      rw [Ne, Ne, ← List.length_eq_zero, ← List.length_eq_zero, hroots.length_eq]
    rw [hne, (hacc.map _).nodup_iff]
    simp only [hroots.mem_iff, hacc.mem_iff]
  · obtain ⟨hl, hperm, hsort⟩ := hreg h
    exact ⟨hl, hperm.trans (hacc.filterMap _), hsort⟩

/-- The load of a fresh runner over one directory with two readable scripts. -/
theorem loadMigrations_fresh_readableDir :
    (New dbDir).migrations = [] ∧ (New dbDir).loaded = false ∧
    (((loadMigrations readableDir id (New dbDir)).1 = none ↔
      listedRoots readableDir (New dbDir).Opts ≠ [] ∧ (∀ root ∈ listedRoots readableDir (New dbDir).Opts, root.listable) ∧
        ((accepted ((listedRoots readableDir (New dbDir).Opts).flatMap FS.files)).map (·.2.key)).Nodup ∧
        ∀ p ∈ accepted ((listedRoots readableDir (New dbDir).Opts).flatMap FS.files), (readScript id p).isSome) ∧
    ((loadMigrations readableDir id (New dbDir)).1 = none →
      (loadMigrations readableDir id (New dbDir)).2.loaded ∧
      (loadMigrations readableDir id (New dbDir)).2.migrations.Perm
        ((accepted ((listedRoots readableDir (New dbDir).Opts).flatMap FS.files)).filterMap (readScript id)) ∧
      (loadMigrations readableDir id (New dbDir)).2.migrations.Sorted migrationLt)) :=
  ⟨rfl, rfl, loadMigrations_fresh rfl rfl⟩

end ApiToolkit.Migrator
