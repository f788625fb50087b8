import Mathlib.Data.List.Nodup

/-!
# Go's maps with string keys

A `map[string]V` is the list of its entries, with at most one entry per key (`GoMap.nodup`). `m[k]`
is the value of the entry of `k` (`GoMap.get`), and `m[k] = v` replaces that entry (`GoMap.set`).
The order of the entries is the order in which they were set, latest first. Go's `range` visits a
map in an order of its choosing, so no result here depends on that order: since the keys are
distinct, the entries are exactly the pairs that `get` returns (`GoMap.mem_entries_iff`).
-/

namespace ApiToolkit

/-- A Go `map[string]V`: its entries, at most one per key. -/
structure GoMap (β : Type) where
  entries : List (String × β)
  nodup : (entries.map Prod.fst).Nodup

/-- A Go `map[string]string`. -/
abbrev StrMap := GoMap String

namespace GoMap

variable {β : Type}

/-- `make(map[string]V)`. -/
def empty : GoMap β := ⟨[], List.nodup_nil⟩

/-- `v, ok := m[k]`: the value, or none where `ok` is false. -/
def get (m : GoMap β) (k : String) : Option β :=
  (m.entries.find? (·.1 == k)).map Prod.snd

/-- `m[k] = v`: the entry of `k` replaced by `v`. -/
def set (m : GoMap β) (k : String) (v : β) : GoMap β where
  entries := (k, v) :: m.entries.filter (·.1 != k)
  nodup := by
    refine List.nodup_cons.2 ⟨?_, ((List.filter_sublist _).map Prod.fst).nodup m.nodup⟩
    simp [List.mem_map, List.mem_filter]

/-- The map literal `map[string]V{k₁: v₁, ...}`, whose keys are distinct. -/
def ofList (l : List (String × β)) : GoMap β := l.foldl (fun m kv => m.set kv.1 kv.2) empty

/-- The value a key has in a list of entries. -/
theorem find?_filter_ne (l : List (String × β)) {k k' : String} (h : k ≠ k') :
    (l.filter (·.1 != k)).find? (·.1 == k') = l.find? (·.1 == k') := by
  induction l with
  | nil => rfl
  | cons p l ih =>
    by_cases hp : p.1 = k
    · simp [List.filter_cons, hp, List.find?_cons, beq_false_of_ne h, ih]
    · simp only [List.filter_cons, bne_iff_ne, ne_eq, hp, not_false_eq_true, decide_True, if_true,
        List.find?_cons, ih]

@[simp]
theorem get_empty (k : String) : (empty : GoMap β).get k = none := rfl

/-- Setting `k` changes the value of `k` alone. -/
@[simp]
theorem get_set (m : GoMap β) (k : String) (v : β) (k' : String) :
    (m.set k v).get k' = if k = k' then some v else m.get k' := by
  unfold get set
  by_cases h : k = k'
  · simp [h]
  · have hb : (k == k') = false := beq_false_of_ne h
    simp only [List.find?_cons, hb, find?_filter_ne _ h, if_neg h]

/-- The entries of a map are exactly the pairs of a key and its value. -/
theorem mem_entries_iff (m : GoMap β) (k : String) (v : β) : (k, v) ∈ m.entries ↔ m.get k = some v := by
  obtain ⟨l, hl⟩ := m
  unfold get
  dsimp only
  induction l with
  | nil => simp
  | cons p l ih =>
    obtain ⟨hp, hl⟩ := List.nodup_cons.1 hl
    rw [List.mem_cons, List.find?_cons]
    by_cases hk : p.1 = k
    · have hnot : (k, v) ∉ l := fun hm => hp (hk ▸ List.mem_map_of_mem Prod.fst hm)
      simp only [hk, beq_self_eq_true, Option.map_some', Option.some.injEq, hnot, or_false]
      exact ⟨fun h => by rw [← h], fun h => by rw [← h, ← hk]⟩
    · have hne : (k, v) ≠ p := fun h => hk (h ▸ rfl)
      have hb : (p.1 == k) = false := beq_false_of_ne hk
      simp only [hne, false_or, ih hl, hb]

end GoMap

end ApiToolkit
