import ApiToolkit.Migrator.Db

/-!
# `Up` and `Status`

The Apply Engine of `src/unnamed/part_010`: `pendingUp` (the up scripts without a successful row,
by version, after the drift check, which panics), `applyOne` (one script in a transaction, then the
row that records it, outside the transaction), and `Up`, which applies the pending scripts in order
under the lock and stops at the first error. `Status` reads the same state and reports it.
-/

namespace ApiToolkit.Migrator

/-- A value of `Except Stop` as a step of a method: its error, or a panic, ends the method. -/
def ofExcept (x : Except Stop α) : M α := fun s =>
  match x with
  | .ok a => .ok a s
  | .error p => .error p s

/-- One step of the loop that fills `appliedSet`: a successful row is assigned to its version. -/
def appliedStep (set : Int → Option AppliedRow) (a : AppliedRow) : Int → Option AppliedRow :=
  if a.Success then Function.update set a.Version (some a) else set

/-- `appliedSet`: the successful rows by version, a later row replacing an earlier one as the map
assignment does. -/
def appliedSet (applied : List AppliedRow) : Int → Option AppliedRow :=
  applied.foldl appliedStep fun _ => none

/-- The loop of `pendingUp`: the up scripts without a successful row, in the registry's order;
the first up script whose successful row has another checksum panics. -/
def pendingScan (set : Int → Option AppliedRow) : List Migration → Except Stop (List Migration)
  | [] => .ok []
  | m :: ms =>
    if m.Dir ≠ .up then pendingScan set ms
    else
      match set m.Version with
      | some a =>
        if a.Checksum ≠ m.Checksum then .error (.checksumMismatch m.Version a.Checksum m.Checksum)
        else pendingScan set ms
      | none => (pendingScan set ms).map (m :: ·)

/-- The order of the `sort.Slice` of `pendingUp`, by version. -/
def versionLe (a b : Migration) : Prop := a.Version ≤ b.Version

instance : DecidableRel versionLe := fun _ _ => inferInstanceAs (Decidable (_ ≤ _))

/-- `pendingUp`: the pending up scripts, sorted by version, or the drift panic. -/
def pendingUp (migrations : List Migration) (applied : List AppliedRow) :
    Except Stop (List Migration) :=
  (pendingScan (appliedSet applied) migrations).map (·.insertionSort versionLe)

/-- `applyOne`: the script in a transaction, then its row. A refused script or commit is recorded
as failed, with the record's own error dropped; a committed script is recorded as successful, and
that record's error is the result. -/
def applyOne (e : Env) (m : Migration) : M Unit := do
  let tx ← BeginTx e
  let res ← attempt (Exec e tx m)
  let execMS := e.execMS (← get).sent
  match res with
  | .error err =>
    Rollback
    let _ ← attempt (record e m execMS false)
    throw (.err (.migrationFailed m.Version err))
  | .ok tx =>
    match ← attempt (Commit e tx) with
    | .error err =>
      let _ ← attempt (record e m execMS false)
      throw (.err err)
    | .ok () => record e m execMS true

/-- The loop of `Up` over the pending scripts, which returns the first error. -/
def applyAll (e : Env) : List Migration → M Unit
  | [] => pure ()
  | m :: ms => do
    applyOne e m
    applyAll e ms

/-- `Up`. When nothing is pending it only logs `"migrations up-to-date"`, which is the loop over no
script. -/
def Up (e : Env) : M Unit := withLock e do
  ensureTable e
  load e
  let applied ← loadApplied e
  let pending ← ofExcept (pendingUp (← get).r.migrations applied)
  applyAll e pending

/-- `%t` of a Boolean. -/
def fmtBool (b : Bool) : String := if b then "true" else "false"

/-- The lines of `Status` for the applied rows. -/
def appliedLines (e : Env) (applied : List AppliedRow) : String :=
  if applied = [] then "applied: none\n"
  else
    "applied:\n" ++ String.join (applied.map fun a =>
      "  " ++ toString a.Version ++ " " ++ a.Name ++ " at " ++ e.formatTime a.AppliedAt ++ " ok=" ++
        fmtBool a.Success ++ "\n")

/-- The lines of `Status` for the up scripts, `*` on those that `next` holds a version of. -/
def availableLines (up next : List Migration) : String :=
  "available up:\n" ++ String.join (up.map fun m =>
    let flag := if next.any (·.Version == m.Version) then "*" else " "
    "  " ++ flag ++ " " ++ toString m.Version ++ " " ++ m.Name ++ "\n")

/-- `Status`: the table's name, its rows, and every up script of the registry with its pending
mark. It takes no lock. -/
def Status (e : Env) : M String := do
  ensureTable e
  load e
  let applied ← loadApplied e
  let r := (← get).r
  let up := r.migrations.filter (·.Dir = .up)
  let next ← ofExcept (pendingUp r.migrations applied)
  return "table: " ++ r.Opts.TableName ++ "\n" ++ appliedLines e applied ++ availableLines up next

end ApiToolkit.Migrator
