import Mathlib.Data.List.Sort
import Mathlib.Data.List.Nodup

/-!
# The migration runner's data

The types of `package migrator` (`src/unnamed/part_010`): a script (`Migration`), the runner's
options and its cached registry (`Options`, `Runner`, `New`), a row of the tracking table
(`appliedRow`), and the two things the runner talks to: the database and the migration sources.

The database (`Db`) is the scripts whose SQL it has committed, oldest first, and the tracking
table, once created. A script's SQL is any SQL: it changes the schema, and it may write the tracking
table like any other table (`Env.sql`), besides the runner's own statements. The table keeps its
primary key `version` as a field of `Table`, so that every table the model builds has one row per
version.

Everything outside the process answers through an environment (`Env`): whether the database
accepts each statement, what each script's SQL does to the tracking table, the server's clock, the
measured execution time, the directories that `os.DirFS` opens, and the SHA-256 digest. Each answer may depend on every statement the process has
sent before (`Proc.sent`), so that one environment describes any pattern of failures over a whole
run of calls, and any change of the sources between them.
-/

namespace ApiToolkit.Migrator

/-! ## Scripts and the tracking table -/

/-- A script's direction, the `Dir` field: `"up"` or `"down"`, the only values that `fileRe`
accepts. -/
inductive Direction
  | down
  | up
  deriving DecidableEq, Repr

/-- The order of the `Dir` strings: `"down" < "up"`. -/
def Direction.toNat : Direction → Nat
  | .down => 0
  | .up => 1

/-- A versioned SQL change, `Migration`. -/
structure Migration where
  /-- The version, the decimal value of the file name's digits. -/
  Version : Int
  /-- The name between the version and the direction. -/
  Name : String
  /-- `"up"` or `"down"`. -/
  Dir : Direction
  /-- The file's name in its root. -/
  File : String
  /-- The file's content, trimmed. -/
  SQL : String
  /-- The SHA-256 of `SQL`, in hex. -/
  Checksum : String
  deriving DecidableEq, Repr

/-- A row of the tracking table, `appliedRow`. -/
structure AppliedRow where
  Version : Int
  Name : String
  Checksum : String
  /-- `applied_at`, the server's `NOW()` when the row was written. -/
  AppliedAt : Nat
  ExecMS : Nat
  Success : Bool
  deriving DecidableEq, Repr

/-- The tracking table: its rows, one per version (`version BIGINT PRIMARY KEY`). -/
structure Table where
  rows : List AppliedRow
  pk : (rows.map AppliedRow.Version).Nodup

/-- The table that `CREATE TABLE` makes. -/
def Table.empty : Table := ⟨[], List.nodup_nil⟩

/-- The row of version `v`, if there is one. -/
def Table.get (t : Table) (v : Int) : Option AppliedRow := t.rows.find? (·.Version == v)

/-- The upsert of `record`: `INSERT ... ON CONFLICT (version) DO UPDATE` overwrites every column
of the row of the same version, or adds the row. -/
def Table.upsert (t : Table) (a : AppliedRow) : Table :=
  ⟨a :: t.rows.filter (·.Version != a.Version), by
    refine List.nodup_cons.2 ⟨?_, ?_⟩
    · simp [List.mem_filter]
    · exact t.pk.sublist ((List.filter_sublist _).map _)⟩

/-- The `DELETE ... WHERE version = $1` of `revertOne`. -/
def Table.delete (t : Table) (v : Int) : Table :=
  ⟨t.rows.filter (·.Version != v), t.pk.sublist ((List.filter_sublist _).map _)⟩

/-- The number of rows the `DELETE` of version `v` removes, `RowsAffected`. -/
def Table.affected (t : Table) (v : Int) : Nat := t.rows.countP (·.Version == v)

/-- A row is found under its own version, and the primary key makes it the only one. -/
theorem Table.get_eq_some {t : Table} {v : Int} {a : AppliedRow} :
    t.get v = some a ↔ a ∈ t.rows ∧ a.Version = v := by
  constructor
  · intro h
    exact ⟨List.mem_of_find?_eq_some h, by simpa using List.find?_some h⟩
  · rintro ⟨ha, rfl⟩
    obtain ⟨b, hb⟩ : ∃ b, t.get a.Version = some b :=
      Option.isSome_iff_exists.1 (List.find?_isSome.2 ⟨a, ha, by simp⟩)
    have hbv : b.Version = a.Version := by simpa using List.find?_some hb
    rw [hb, List.inj_on_of_nodup_map t.pk (List.mem_of_find?_eq_some hb) ha hbv]

@[simp] theorem Table.get_empty (v : Int) : Table.empty.get v = none := rfl

@[simp] theorem Table.get_upsert (t : Table) (a : AppliedRow) (v : Int) :
    (t.upsert a).get v = if a.Version = v then some a else t.get v := by
  unfold Table.get Table.upsert
  split_ifs with h
  · simp [h]
  · rw [List.find?_cons_of_neg _ (by simpa using h), List.find?_filter]
    congr 1; funext x
    by_cases hx : x.Version = v <;> simp [hx, Ne.symm h]

@[simp] theorem Table.get_delete (t : Table) (v w : Int) :
    (t.delete v).get w = if v = w then none else t.get w := by
  unfold Table.get Table.delete
  split_ifs with h
  · subst h; simp
  · rw [List.find?_filter]
    congr 1; funext x
    by_cases hx : x.Version = w <;> simp [hx, Ne.symm h]

/-- The primary key: the `DELETE` of a version removes at most one row. -/
theorem Table.affected_le_one (t : Table) (v : Int) : t.affected v ≤ 1 := by
  have hnd : ((t.rows.filter (·.Version == v)).map AppliedRow.Version).Nodup :=
    t.pk.sublist ((List.filter_sublist _).map _)
  have hsub : (t.rows.filter (·.Version == v)).map AppliedRow.Version ⊆ [v] := by
    intro x hx
    obtain ⟨y, hy, rfl⟩ := List.mem_map.1 hx
    simpa using (List.mem_filter.1 hy).2
  simpa [Table.affected, List.countP_eq_length_filter] using
    (List.subperm_of_subset hnd hsub).length_le

/-- What the database holds: the scripts whose SQL it has committed, oldest first, and the
tracking table once `ensureTable` has created it. -/
structure Db where
  schema : List Migration
  table : Option Table

/-- The rows of the tracking table; none before it exists. -/
def Db.get (db : Db) (v : Int) : Option AppliedRow := db.table.bind (·.get v)

@[simp] theorem Db.get_mk_some (schema : List Migration) (t : Table) (v : Int) :
    ({ schema := schema, table := some t } : Db).get v = t.get v := rfl

/-! ## Sources, options and the runner -/

/-- An entry of a directory listing, `fs.DirEntry`. -/
structure DirEntry where
  name : String
  isDir : Bool
  deriving DecidableEq, Repr

/-- A migration source, an `fs.FS` as the loader uses it: the listing of its root
(`fs.ReadDir(root, ".")`) and the content of each file (`fs.ReadFile`), or their errors. -/
structure FS where
  readDir : Except String (List DirEntry)
  readFile : String → Except String String

/-- `Options`. The `Logger` is left out: its messages change nothing that the model observes. -/
structure Options where
  MigrationsDir : String
  MigrationsDirs : List String
  EmbeddedFSs : List FS
  TableName : String
  LockKey : Int
  AllowDangerousDown : Bool

/-- `Runner`: the options and the registry, cached once `loaded`. The `*sql.DB` handle is the
`Db` and the environment of each call. -/
structure Runner where
  Opts : Options
  migrations : List Migration
  loaded : Bool

/-- `defaultTable`. -/
def defaultTable : String := "schema_migrations"

/-- `defaultLock`. -/
def defaultLock : Int := 913551337114213777

/-- `New`: the options with the default table name and lock key filled in, and no registry. -/
def New (opts : Options) : Runner :=
  let opts := if opts.TableName = "" then { opts with TableName := defaultTable } else opts
  let opts := if opts.LockKey = 0 then { opts with LockKey := defaultLock } else opts
  { Opts := opts, migrations := [], loaded := false }

/-! ## Statements, errors and the environment -/

/-- A statement the runner sends to the database. -/
inductive Call
  /-- `SELECT pg_advisory_lock($1)`. -/
  | lock (key : Int)
  /-- `SELECT pg_advisory_unlock($1)`. -/
  | unlock (key : Int)
  /-- `CREATE TABLE IF NOT EXISTS` of `ensureTable`. -/
  | ensureTable
  /-- The `SELECT` of `loadApplied`. -/
  | loadApplied
  /-- `BeginTx`. -/
  | begin
  /-- A script's SQL, inside the transaction. -/
  | exec (m : Migration)
  /-- `tx.Rollback()`. -/
  | rollback
  /-- `tx.Commit()`. -/
  | commit
  /-- The upsert of `record`. -/
  | record (m : Migration) (ok : Bool)
  /-- The `DELETE` of `revertOne`, inside the transaction. -/
  | delete (v : Int)
  deriving DecidableEq, Repr

/-- The errors the runner returns, one constructor for each place that makes one. -/
inductive Err
  /-- The database's error for a statement. -/
  | db (c : Call)
  /-- The error of `fs.ReadFile`, returned as it is. -/
  | readFile (msg : String)
  /-- `"readdir: %w"`. -/
  | readdir (msg : String)
  /-- `"no migrations source provided"`. -/
  | noSource
  /-- `"duplicate migration for version %d dir %s"`. -/
  | duplicate (v : Int) (d : Direction)
  /-- `"migration %d failed: %w"`. -/
  | migrationFailed (v : Int) (cause : Err)
  /-- `"revert %d failed: %w"`. -/
  | revertFailed (v : Int) (cause : Err)
  /-- `"revert %d succeeded but no row deleted from %s"`. -/
  | noRowDeleted (v : Int) (table : String)
  /-- `"no down migration for version %d (%s)"`. -/
  | noDown (v : Int) (name : String)
  /-- `"down is disabled; set AllowDangerousDown=true to enable"`. -/
  | downDisabled
  deriving DecidableEq, Repr

/-- How a call ends other than normally: with a returned error, or with the panic of
`pendingUp`, `"checksum mismatch at %d: have %s want %s"`. -/
inductive Stop
  | err (e : Err)
  | checksumMismatch (v : Int) (stored loaded : String)
  deriving DecidableEq, Repr

/-- What the world answers, each answer a function of the statements sent before. -/
structure Env where
  /-- Whether the database accepts a statement. -/
  ok : List Call → Call → Bool
  /-- What a script's SQL does to the tracking table when it runs; by default, nothing. -/
  sql : Migration → Table → Table := fun _ t => t
  /-- The server's `NOW()`. -/
  now : List Call → Nat
  /-- The measured execution time of the script just run. -/
  execMS : List Call → Nat
  /-- The directory at each path, as `os.DirFS` opens it. -/
  os : List Call → String → FS
  /-- `sha256.Sum256`, printed in hex as `checksum` prints it. -/
  sha256 : String → String
  /-- `Format(time.RFC3339)` of a timestamp, in the process's time zone. -/
  formatTime : Nat → String

/-- A process: its runner, the database, and the statements it has sent, oldest first. -/
structure Proc where
  r : Runner
  db : Db
  sent : List Call

/-- The runner's methods: Go's returned `error` and its panic, with the state kept either way. -/
abbrev M := EStateM Stop Proc

end ApiToolkit.Migrator
