import ApiToolkit.Migrator.Basic

/-!
# Quoting the table name

`pq` puts the table name between double quotes and doubles each quote inside it. PostgreSQL reads a
quoted identifier from its opening `"`: a `""` stands for one `"`, and the first `"` that another
does not follow ends it (`readQuoted`). So the reader takes `pq s` back to `s` and stops at the last
character of `pq s`, whatever follows, as long as what follows does not start with `"`
(`readQuoted_pq_append`); a following `"` would be read as a doubled quote, and the identifier
would go on (`pq_then_quote_continues`). In the four statements that the runner builds, the name is
followed by a space or a line break (`statements_read_table_name`), so no table name ends the
identifier early, and `pq` is injective (`pq_injective`).
-/

namespace ApiToolkit.Migrator

/-- `strings.ReplaceAll(s, "\"", "\"\"")`: every `"` doubled. -/
def doubleQuotes : List Char → List Char
  | [] => []
  | c :: cs => if c = '"' then '"' :: '"' :: doubleQuotes cs else c :: doubleQuotes cs

/-- `pq`: the identifier between double quotes, with its quotes doubled. -/
def pq (ident : String) : String := "\"" ++ String.mk (doubleQuotes ident.toList) ++ "\""

/-- The body of a quoted identifier after its opening quote: the identifier it denotes and the text
after its closing quote; none when no quote closes it. -/
def readBody : List Char → Option (List Char × List Char)
  | [] => none
  | '"' :: '"' :: rest => (readBody rest).map fun p => ('"' :: p.1, p.2)
  | '"' :: rest => some ([], rest)
  | c :: rest => (readBody rest).map fun p => (c :: p.1, p.2)

/-- PostgreSQL's rule for a quoted identifier: an opening `"`, then its body. -/
def readQuoted : List Char → Option (List Char × List Char)
  | '"' :: rest => readBody rest
  | _ => none

/-- The characters of `pq s`. -/
theorem pq_toList (s : String) : (pq s).toList = '"' :: doubleQuotes s.toList ++ ['"'] := by
  simp [pq]

/-- The body of `pq s`, followed by text that does not start with `"`, reads back as `s`. -/
theorem readBody_doubleQuotes (rest : List Char) (hrest : rest.head? ≠ some '"') :
    ∀ s : List Char, readBody (doubleQuotes s ++ '"' :: rest) = some (s, rest)
  | [] => by
    cases rest with
    | nil => rfl
    | cons c rest =>
      have hc : c ≠ '"' := fun h => hrest (by simp [h])
      simp [doubleQuotes, readBody, hc]
  | c :: cs => by
    by_cases hc : c = '"'
    · subst hc
      simp [doubleQuotes, readBody, readBody_doubleQuotes rest hrest cs]
    · have ih := readBody_doubleQuotes rest hrest cs
      simp only [doubleQuotes, if_neg hc, List.cons_append]
      unfold readBody
      split <;> simp_all

/-- The reader takes `pq s` back to `s` and leaves what follows, when that does not start with
`"`: the identifier ends at the last character of `pq s`. -/
theorem readQuoted_pq_append (s : String) (rest : List Char) (hrest : rest.head? ≠ some '"') :
    readQuoted ((pq s).toList ++ rest) = some (s.toList, rest) := by
  rw [pq_toList]
  simpa [readQuoted] using readBody_doubleQuotes rest hrest s.toList

/-- `pq` is injective. -/
theorem pq_injective : Function.Injective pq := by
  intro s s' h
  have h1 := readQuoted_pq_append s [] (by simp)
  rw [h, readQuoted_pq_append s' [] (by simp)] at h1
  simpa using (congrArg (String.mk ∘ Prod.fst) (Option.some.inj h1)).symm

/-! ## The runner's statements -/

/-- The statement of `ensureTable`. -/
def ensureTableSQL (table : String) : String :=
  "\nCREATE TABLE IF NOT EXISTS " ++ pq table ++ " (\n  version BIGINT PRIMARY KEY,\n  name TEXT NOT NULL,\n  checksum TEXT NOT NULL,\n  applied_at TIMESTAMPTZ NOT NULL,\n  exec_ms INTEGER NOT NULL,\n  success BOOLEAN NOT NULL\n);"

/-- The statement of `loadApplied`. -/
def loadAppliedSQL (table : String) : String :=
  "\nSELECT version, name, checksum, applied_at, exec_ms, success\nFROM " ++ pq table ++
    "\nORDER BY applied_at ASC, version ASC;"

/-- The statement of `record`. -/
def recordSQL (table : String) : String :=
  "\nINSERT INTO " ++ pq table ++ " (version, name, checksum, applied_at, exec_ms, success)\nVALUES ($1, $2, $3, NOW(), $4, $5)\nON CONFLICT (version) DO UPDATE SET\n  name = EXCLUDED.name,\n  checksum = EXCLUDED.checksum,\n  applied_at = EXCLUDED.applied_at,\n  exec_ms = EXCLUDED.exec_ms,\n  success = EXCLUDED.success;"

/-- The `DELETE` of `revertOne`. -/
def deleteSQL (table : String) : String := "DELETE FROM " ++ pq table ++ " WHERE version = $1;"

/-- The runner's four statements, each as the fixed text before the table name, and the fixed text
after it. -/
def statementParts : List ((String → String) × String × String) :=
  [(ensureTableSQL, "\nCREATE TABLE IF NOT EXISTS ", " (\n  version BIGINT PRIMARY KEY,\n  name TEXT NOT NULL,\n  checksum TEXT NOT NULL,\n  applied_at TIMESTAMPTZ NOT NULL,\n  exec_ms INTEGER NOT NULL,\n  success BOOLEAN NOT NULL\n);"),
   (loadAppliedSQL, "\nSELECT version, name, checksum, applied_at, exec_ms, success\nFROM ",
    "\nORDER BY applied_at ASC, version ASC;"),
   (recordSQL, "\nINSERT INTO ", " (version, name, checksum, applied_at, exec_ms, success)\nVALUES ($1, $2, $3, NOW(), $4, $5)\nON CONFLICT (version) DO UPDATE SET\n  name = EXCLUDED.name,\n  checksum = EXCLUDED.checksum,\n  applied_at = EXCLUDED.applied_at,\n  exec_ms = EXCLUDED.exec_ms,\n  success = EXCLUDED.success;"),
   (deleteSQL, "DELETE FROM ", " WHERE version = $1;")]

/-- No table name can end the identifier early in the statements of `ensureTable`, `loadApplied`,
`record` and `revertOne`: each is a fixed text, `pq` of the name, and a fixed text that starts with a
space or a line break, and the reader, from the opening quote, takes exactly the name and leaves
the fixed text after it. -/
theorem statements_read_table_name :
    ∀ q ∈ statementParts, ∀ table : String,
      q.1 table = q.2.1 ++ pq table ++ q.2.2 ∧
        readQuoted ((pq table).toList ++ q.2.2.toList) = some (table.toList, q.2.2.toList) := by
  intro q hq table
  have hafter : ∀ q ∈ statementParts, q.2.2.toList.head? ≠ some '"' := by decide
  refine ⟨?_, readQuoted_pq_append table _ (hafter q hq)⟩
  simp only [statementParts, List.mem_cons, List.mem_singleton, List.not_mem_nil, or_false] at hq
  rcases hq with rfl | rfl | rfl | rfl <;> rfl

/-- Quoting is safe whenever the quoted name is followed by anything but a `"`: for every table name,
PostgreSQL reads `pq` of it as one identifier that ends at the last character of `pq` and denotes
the name; `pq` is injective; and in each of the runner's four statements the text after the name
does not start with `"`, so the reader takes exactly the name there. -/
theorem pq_reads_back :
    (∀ (s : String) (rest : List Char), rest.head? ≠ some '"' →
      readQuoted ((pq s).toList ++ rest) = some (s.toList, rest)) ∧ Function.Injective pq ∧
    ∀ q ∈ statementParts, ∀ table : String,
      q.1 table = q.2.1 ++ pq table ++ q.2.2 ∧
        readQuoted ((pq table).toList ++ q.2.2.toList) = some (table.toList, q.2.2.toList) :=
  ⟨readQuoted_pq_append, pq_injective, statements_read_table_name⟩

/-- The default table name, followed by the text after it in the statement of `ensureTable`. -/
theorem pq_reads_back_schema_migrations :
    " (".toList.head? ≠ some '"' ∧
      readQuoted ((pq "schema_migrations").toList ++ " (".toList) =
        some ("schema_migrations".toList, " (".toList) :=
  ⟨by decide, pq_reads_back.1 _ _ (by decide)⟩

/-- `pq "t"` followed by `" x`: the closing quote of `pq "t"` and the next `"` read as a doubled
quote, and the identifier is not closed. -/
theorem pq_then_quote_continues :
    readQuoted ((pq "t").toList ++ "\" x".toList) ≠ some ("t".toList, "\" x".toList) := by
  decide

end ApiToolkit.Migrator
