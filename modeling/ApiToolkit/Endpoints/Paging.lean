import ApiToolkit.Endpoints.List

/-!
# The page a list query asks for

`ParseListQuery` of `src/endpoints/list.go` reads the page with `parseInt` and `clampInt` for
`limit`, and `parseOffset` for `offset`. Whatever the query and the configuration, the limit is at
least one and at most a positive `MaxLimit`, and the offset is never negative; a limit the client
asks for in those bounds is the limit it gets. A `MaxLimit` of zero or less puts no upper bound on
the page: any positive limit that fits an `int` is honoured (`ParseListQuery_page`).
-/

namespace ApiToolkit.Endpoints

/-- A digit is not white space. -/
theorem isSpace_of_isDigit {c : Char} (h : isDigit c) : isSpace c = false := by
  have h' : 48 ≤ c.toNat ∧ c.toNat ≤ 57 := by
    simp only [isDigit, Bool.and_eq_true, decide_eq_true_eq] at h
    exact ⟨h.1, h.2⟩
  unfold isSpace
  split <;> first | omega | simp only [Bool.and_eq_false_iff, decide_eq_false_iff_not]; omega

/-- A string that `strings.TrimSpace` empties is white space throughout. -/
theorem isSpace_of_trimSpace_eq_empty {s : String} (h : trimSpace s = "") : ∀ c ∈ s.toList, isSpace c := by
  have hnil : ((s.toList.dropWhile isSpace).reverse.dropWhile isSpace).reverse = [] := by
    simpa [trimSpace] using congrArg String.toList h
  rw [List.reverse_eq_nil_iff, List.dropWhile_eq_nil_iff] at hnil
  intro c hc
  rw [← List.takeWhile_append_dropWhile isSpace s.toList, List.mem_append] at hc
  rcases hc with hc | hc
  · exact List.mem_takeWhile_imp hc
  · exact hnil c (List.mem_reverse.2 hc)

/-- A string that `Atoi` reads holds a digit. -/
theorem exists_isDigit_of_Atoi {s : String} {n : Int} (h : Atoi s = some n) : ∃ c ∈ s.toList, isDigit c := by
  unfold Atoi at h
  split at h
  next neg ds hds =>
    by_cases hb : ds = [] ∨ ds.all isDigit = false
    · rw [if_pos hb] at h; cases h
    obtain ⟨hne, hall⟩ := not_or.1 hb
    obtain ⟨c, cs, rfl⟩ := List.exists_cons_of_ne_nil hne
    have hc : isDigit c := List.all_eq_true.1 (Bool.not_eq_false _ ▸ hall) c (List.mem_cons_self _ _)
    refine ⟨c, ?_, hc⟩
    -- `ds` is what follows the sign, or the whole string
    split at hds
    next ds' hl => cases hds; rw [hl]; exact List.mem_cons_of_mem _ (List.mem_cons_self _ _)
    next ds' hl => cases hds; rw [hl]; exact List.mem_cons_of_mem _ (List.mem_cons_self _ _)
    next => exact (Prod.mk.inj hds).2 ▸ List.mem_cons_self _ _

/-- `parseInt` returns what `Atoi` reads. -/
theorem parseInt_of_Atoi {val : String} {n : Int} (h : Atoi val = some n) (def_ : Int) : parseInt val def_ = n := by
  obtain ⟨c, hc, hd⟩ := exists_isDigit_of_Atoi h
  have hne : trimSpace val ≠ "" := fun he => by
    simpa [isSpace_of_isDigit hd] using isSpace_of_trimSpace_eq_empty he c hc
  rw [parseInt, if_neg hne, h, Option.getD_some]

/-- `clampInt n 1 max` is at least one, at most a positive `max`, and `n` itself within those
bounds. -/
theorem clampInt_one (n max : Int) :
    1 ≤ clampInt n 1 max ∧ (0 < max → clampInt n 1 max ≤ max) ∧
      (1 ≤ n → (max ≤ 0 ∨ n ≤ max) → clampInt n 1 max = n) := by
  unfold clampInt
  dsimp only
  refine ⟨?_, fun h => ?_, fun h1 h2 => ?_⟩ <;> split_ifs <;> omega

/-- `parseOffset` is never negative. -/
theorem parseOffset_nonneg (val : String) : 0 ≤ parseOffset val := by
  unfold parseOffset
  split_ifs
  · exact le_rfl
  · split
    · split_ifs <;> omega
    · exact le_rfl

/-- The page of every list query, whatever the configuration: a limit of at least one, at most a
positive `MaxLimit`, and the client's `limit` itself where it reads as a number within those bounds;
an offset that is never negative. With a `MaxLimit` of zero or less, any positive limit is honoured. -/
theorem ParseListQuery_page (values : Values) (cfg : ListQueryConfig) :
    1 ≤ (ParseListQuery values cfg).Limit ∧
      (0 < cfg.MaxLimit → (ParseListQuery values cfg).Limit ≤ cfg.MaxLimit) ∧
      (∀ n, Atoi (values.Get "limit") = some n → 1 ≤ n → (cfg.MaxLimit ≤ 0 ∨ n ≤ cfg.MaxLimit) →
        (ParseListQuery values cfg).Limit = n) ∧
      0 ≤ (ParseListQuery values cfg).Offset := by
  obtain ⟨h1, hmax, hn⟩ := clampInt_one (parseInt (values.Get "limit") cfg.DefaultLimit) cfg.MaxLimit
  refine ⟨h1, hmax, fun n ha hn1 hnmax => ?_, parseOffset_nonneg _⟩
  show clampInt (parseInt (values.Get "limit") cfg.DefaultLimit) 1 cfg.MaxLimit = n
  rw [parseInt_of_Atoi ha] at hn ⊢
  exact hn hn1 hnmax

end ApiToolkit.Endpoints
