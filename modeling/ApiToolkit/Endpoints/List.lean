import ApiToolkit.Strings
import Mathlib.Algebra.Group.Int
import Mathlib.Data.List.Nodup

/-!
# Parsing a list query

`ParseListQuery` of `src/endpoints/list.go`: the limit, the offset and the search term, the
filters, and the required filters that are missing.

`url.Values` is a map, and Go visits its keys in an order of its choosing. The model takes the map as
the list of its entries in the order `range` visits them (`Values`), so that the order is an input:
two visits of one map are two permutations of one list. The filters are built by one loop over the
entries (`filterStep`), which appends the trimmed values of a key to its filter's list. A filter
collects the values of every raw key that names it (`filterName`), in the order of the visit
(`filters_eq`). The spec's own reading of a key, of its values and of the skipped keys
(`specFilterName`, `specTrimmed`, `specSearchKey`) gives the same lists (`specFilterValues_eq`):
the filters are sound and complete against the allowlist and the spec
(`ParseListQuery_filters_sound_complete`), but a filter that two raw keys name gets their values
in the order Go visits them, so the result depends on that order
(`ParseListQuery_depends_on_order`). Everything else, and each filter up to the order of its values,
is the same for every order (`ParseListQuery_perm`).
-/

namespace ApiToolkit.Endpoints

/-! ## Go's helpers -/

/-- `strconv.Atoi`: an optional sign and at least one decimal digit, within the range of a 64-bit
`int`; otherwise an error. -/
def Atoi (s : String) : Option Int :=
  let (neg, ds) : Bool × List Char :=
    match s.toList with
    | '-' :: ds => (true, ds)
    | '+' :: ds => (false, ds)
    | ds => (false, ds)
  if ds = [] ∨ ds.all isDigit = false then none
  else
    let n : Int := if neg then -(digitsValue ds : Int) else digitsValue ds
    if -2 ^ 63 ≤ n ∧ n < 2 ^ 63 then some n else none

/-- `parseInt`: the number, or `def` for a blank or invalid value. -/
def parseInt (val : String) (def_ : Int) : Int :=
  if trimSpace val = "" then def_ else (Atoi val).getD def_

/-- `parseOffset`: the number, or `0` for a blank, invalid or negative value. -/
def parseOffset (val : String) : Int :=
  if trimSpace val = "" then 0
  else
    match Atoi val with
    | some n => if n < 0 then 0 else n
    | none => 0

/-- `clampInt`: each bound applies when it is positive. -/
def clampInt (n min max : Int) : Int :=
  let n := if min > 0 ∧ n < min then min else n
  if max > 0 ∧ n > max then max else n

/-! ## The query's values -/

/-- `url.Values`, a map from a key to its values, as its entries in the order `range` visits them.
The keys are distinct. -/
structure Values where
  entries : List (String × List String)
  keys_nodup : (entries.map (·.1)).Nodup

/-- The values of a key, or none when the map has no such key. -/
def Values.lookup (v : Values) (k : String) : Option (List String) :=
  (v.entries.find? (·.1 == k)).map (·.2)

/-- `Values.Get`: the first value of a key, or `""`. -/
def Values.Get (v : Values) (k : String) : String :=
  match v.lookup k with
  | some (x :: _) => x
  | _ => ""

/-- `ListQueryConfig`. -/
structure ListQueryConfig where
  DefaultLimit : Int
  MaxLimit : Int
  AllowedFilters : List String
  Required : List String
  SearchParam : String

/-- `ListQuery`. `Filters` and `Raw` are maps, each a function from a key to its values. -/
structure ListQuery where
  Limit : Int
  Offset : Int
  Search : String
  Filters : String → Option (List String)
  Raw : String → Option (List String)
  missing : List String

/-- `ListQuery.MissingRequired`: a copy of `missing`. -/
def ListQuery.MissingRequired (q : ListQuery) : List String := q.missing

/-- `ListQuery.First`: the first value of a filter, or `""`. -/
def ListQuery.First (q : ListQuery) (key : String) : String :=
  match q.Filters key with
  | some (x :: _) => x
  | _ => ""

/-- `ListQuery.Has`. -/
def ListQuery.Has (q : ListQuery) (key : String) : Bool := (q.Filters key).isSome

/-! ## Filters -/

/-- `parseFilterKey`: for `filter[x]` and `filter.x`, the trimmed `x`, and whether `x` is
non-empty; otherwise `("", false)`. -/
def parseFilterKey (key : String) : String × Bool :=
  let k := key.toList
  if "filter[".toList.isPrefixOf k ∧ "]".toList.isSuffixOf k then
    let name := (k.drop 7).dropLast
    (trimSpace (String.mk name), name ≠ [])
  else if "filter.".toList.isPrefixOf k then
    let name := k.drop 7
    (trimSpace (String.mk name), name ≠ [])
  else ("", false)

/-- The set `allowed`: the non-empty entries of `AllowedFilters`. -/
def allowedSet (cfg : ListQueryConfig) : List String := cfg.AllowedFilters.filter (· ≠ "")

/-- `allowFilter`: every name when the set is empty, otherwise the names in it. -/
def allowFilter (name : String) (allowed : List String) : Bool := allowed.isEmpty || name ∈ allowed

/-- The values `addFilter` appends: the trimmed values that are not empty. -/
def trimmedValues (vals : List String) : List String := (vals.map trimSpace).filter (· ≠ "")

/-- `addFilter`: the trimmed non-empty values appended to the key's list, if there are any. -/
def addFilter (filters : String → Option (List String)) (key : String) (vals : List String) :
    String → Option (List String) :=
  if vals = [] then filters
  else if trimmedValues vals = [] then filters
  else Function.update filters key (some ((filters key).getD [] ++ trimmedValues vals))

/-- The search parameter's key: `SearchParam`, or `"search"` when it is blank. -/
def searchKeyOf (cfg : ListQueryConfig) : String :=
  if trimSpace cfg.SearchParam = "" then "search" else cfg.SearchParam

/-- The keys the filter loop skips. -/
def reserved (searchKey key : String) : Bool := key = "limit" || key = "offset" || key = searchKey

/-- One turn of the filter loop of `ParseListQuery`, on one entry of the map. -/
def filterStep (allowed : List String) (searchKey : String) (filters : String → Option (List String))
    (entry : String × List String) : String → Option (List String) :=
  if reserved searchKey entry.1 then filters
  else
    match parseFilterKey entry.1 with
    | (name, true) => if allowFilter name allowed then addFilter filters name entry.2 else filters
    | (_, false) => if allowFilter entry.1 allowed then addFilter filters entry.1 entry.2 else filters

/-- `requiredMissing`: the non-empty required keys without a filter, in order. -/
def requiredMissing (filters : String → Option (List String)) (required : List String) : List String :=
  if required = [] then [] else required.filter fun key => key ≠ "" ∧ filters key = none

/-- `ParseListQuery`, with the map visited in the order of `values.entries`. -/
def ParseListQuery (values : Values) (cfg : ListQueryConfig) : ListQuery :=
  let limit := clampInt (parseInt (values.Get "limit") cfg.DefaultLimit) 1 cfg.MaxLimit
  let offset := parseOffset (values.Get "offset")
  let searchKey := searchKeyOf cfg
  let search := trimSpace (values.Get searchKey)
  let filters := values.entries.foldl (filterStep (allowedSet cfg) searchKey) fun _ => none
  { Limit := limit, Offset := offset, Search := search, Filters := filters, Raw := values.lookup,
    missing := requiredMissing filters cfg.Required }

/-! ## The filter loop -/

/-- The filter a raw key names: for `filter[x]` and `filter.x` with non-empty `x`, the trimmed `x`;
every other key names itself. -/
def filterName (key : String) : String := if (parseFilterKey key).2 then (parseFilterKey key).1 else key

/-- The values an entry of the map gives the filter `k`: its trimmed non-empty values when its key
names `k` and is not skipped, otherwise none. -/
def contrib (searchKey k : String) (entry : String × List String) : List String :=
  if reserved searchKey entry.1 = false ∧ filterName entry.1 = k then trimmedValues entry.2 else []

/-- The values the filter `k` should hold: those of every raw key that names it, other than `limit`,
`offset` and the search key, in the order of the entries. -/
def filterValues (v : Values) (searchKey k : String) : List String :=
  v.entries.flatMap (contrib searchKey k)

/-- A filter's list after more values: unchanged by none, otherwise extended (and created). -/
def extend (o : Option (List String)) (xs : List String) : Option (List String) :=
  if xs = [] then o else some (o.getD [] ++ xs)

/-- Extending twice is extending once by both lists. -/
theorem extend_append (o : Option (List String)) (xs ys : List String) :
    extend (extend o xs) ys = extend o (xs ++ ys) := by
  by_cases hx : xs = [] <;> by_cases hy : ys = [] <;> simp [extend, hx, hy]

/-- `addFilter` extends the key's list, and only that. -/
theorem addFilter_apply (filters : String → Option (List String)) (key : String) (vals : List String)
    (k : String) :
    addFilter filters key vals k = if k = key then extend (filters k) (trimmedValues vals) else filters k := by
  unfold addFilter
  by_cases hv : vals = []
  · subst hv; split_ifs <;> simp_all [extend, trimmedValues]
  by_cases ht : trimmedValues vals = []
  · split_ifs <;> simp_all [extend]
  · by_cases hk : k = key
    · subst hk; simp [hv, ht, extend]
    · simp [hv, ht, hk, Function.update_noteq hk]

/-- One turn of the loop extends the filter `k` by what the entry gives it, when `k` is allowed. -/
theorem filterStep_apply (allowed : List String) (searchKey : String)
    (filters : String → Option (List String)) (entry : String × List String) (k : String) :
    filterStep allowed searchKey filters entry k =
      extend (filters k) (if allowFilter k allowed then contrib searchKey k entry else []) := by
  obtain ⟨key, vals⟩ := entry
  by_cases hr : reserved searchKey key
  · simp [filterStep, contrib, hr, extend]
  -- the entry goes to the filter it names, when that one is allowed
  have htarget : filterStep allowed searchKey filters (key, vals) =
      if allowFilter (filterName key) allowed then addFilter filters (filterName key) vals else filters := by
    rcases hp : parseFilterKey key with ⟨name, _ | _⟩ <;> simp [filterStep, hr, hp, filterName]
  rw [htarget]
  by_cases hk : k = filterName key
  · subst hk
    split_ifs <;> simp_all [addFilter_apply, contrib, extend]
  · have hc : contrib searchKey k (key, vals) = [] := by simp [contrib, Ne.symm hk]
    split_ifs <;> simp_all [addFilter_apply, extend]

/-- The whole loop extends each allowed filter by what all the entries give it, in order. -/
theorem foldl_filterStep_apply (allowed : List String) (searchKey : String) (k : String) :
    ∀ (l : List (String × List String)) (filters : String → Option (List String)),
      l.foldl (filterStep allowed searchKey) filters k =
        extend (filters k) (if allowFilter k allowed then l.flatMap (contrib searchKey k) else [])
  | [], filters => by simp [extend]
  | e :: l, filters => by
    rw [List.foldl_cons, foldl_filterStep_apply allowed searchKey k l, filterStep_apply, extend_append]
    split_ifs <;> simp

/-- The filter `k` of the query: the values that the entries give it, when `k` is allowed and they
are not none. -/
theorem filters_eq (v : Values) (cfg : ListQueryConfig) (k : String) :
    (ParseListQuery v cfg).Filters k =
      if allowFilter k (allowedSet cfg) ∧ filterValues v (searchKeyOf cfg) k ≠ [] then
        some (filterValues v (searchKeyOf cfg) k)
      else none := by
  simp only [ParseListQuery, foldl_filterStep_apply, filterValues]
  split_ifs <;> simp_all [extend]

/-- With an allowlist, a filter is allowed exactly when it is a non-empty entry of it. -/
theorem allowFilter_allowedSet {cfg : ListQueryConfig} (hallow : ∃ f ∈ cfg.AllowedFilters, f ≠ "")
    (k : String) : allowFilter k (allowedSet cfg) ↔ k ≠ "" ∧ k ∈ cfg.AllowedFilters := by
  obtain ⟨f, hf, hne⟩ := hallow
  have hset : (allowedSet cfg).isEmpty = false :=
    List.isEmpty_eq_false_iff_exists_mem.2 ⟨f, List.mem_filter.2 ⟨hf, by simpa using hne⟩⟩
  rw [allowFilter, hset, Bool.false_or, decide_eq_true_eq, allowedSet, List.mem_filter]
  simp [and_comm]

/-- `MissingRequired` is the non-empty required names without a filter, in order. -/
theorem MissingRequired_eq (v : Values) (cfg : ListQueryConfig) :
    (ParseListQuery v cfg).MissingRequired =
      cfg.Required.filter fun k => k ≠ "" ∧ (ParseListQuery v cfg).Filters k = none := by
  simp only [ListQuery.MissingRequired, ParseListQuery, requiredMissing]
  split_ifs with h
  · simp [h]
  · rfl

/-! ## The filters as the spec defines them -/

/-- The filter a raw parameter names, as the spec defines it: `filter[x]` and `filter.x` with
non-empty `x` name the trimmed `x`, and any other key names itself. -/
def specFilterName (key : String) : String :=
  match key.toList with
  | 'f' :: 'i' :: 'l' :: 't' :: 'e' :: 'r' :: '[' :: x =>
    if x.getLast? = some ']' ∧ x.dropLast ≠ [] then trimSpace (String.mk x.dropLast) else key
  | 'f' :: 'i' :: 'l' :: 't' :: 'e' :: 'r' :: '.' :: x => if x ≠ [] then trimSpace (String.mk x) else key
  | _ => key

/-- The values of a raw parameter as the spec keeps them: each trimmed, and dropped when that
leaves it empty. -/
def specTrimmed (vals : List String) : List String :=
  vals.filterMap fun v => if trimSpace v = "" then none else some (trimSpace v)

/-- The search key as the spec defines it: `SearchParam`, or `"search"` when it is blank. -/
def specSearchKey (cfg : ListQueryConfig) : String :=
  match trimSpace cfg.SearchParam with
  | "" => "search"
  | _ => cfg.SearchParam

/-- The values the spec gives the filter `k`: the kept values of every raw parameter whose filter
name is `k`, other than the raw keys `limit`, `offset` and the search key, in the order of the
visit. -/
def specFilterValues (v : Values) (cfg : ListQueryConfig) (k : String) : List String :=
  v.entries.flatMap fun p =>
    if p.1 ∉ ["limit", "offset", specSearchKey cfg] ∧ specFilterName p.1 = k then specTrimmed p.2 else []

/-- A one-character suffix is the last character. -/
theorem singleton_isSuffixOf (c : Char) (l : List Char) : [c].isSuffixOf l = true ↔ l.getLast? = some c := by
  rw [List.isSuffixOf, ← List.head?_reverse]
  cases l.reverse with
  | nil => simp [List.isPrefixOf]
  | cons d t => simp [List.isPrefixOf]; exact eq_comm

/-- The literals that `parseFilterKey` compares keys with. -/
theorem filterKey_toLists : "filter[".toList = ['f', 'i', 'l', 't', 'e', 'r', '['] ∧
    "filter.".toList = ['f', 'i', 'l', 't', 'e', 'r', '.'] ∧ "]".toList = [']'] := ⟨rfl, rfl, rfl⟩

/-- `parseFilterKey` names the filter the spec says, through the three shapes of a key. -/
theorem specFilterName_eq (key : String) : specFilterName key = filterName key := by
  unfold specFilterName filterName parseFilterKey
  split
  next x hk =>
    have hl : ('f' :: 'i' :: 'l' :: 't' :: 'e' :: 'r' :: '[' :: x).getLast? = some ']' ↔
        x.getLast? = some ']' := by
      cases x using List.reverseRecOn <;> simp [List.getLast?_cons]
    simp only [hk, filterKey_toLists, List.isPrefixOf, singleton_isSuffixOf, hl]
    by_cases hs : x.getLast? = some ']' <;> by_cases hne : x.dropLast = [] <;> simp [hs, hne]
  next x hk =>
    simp only [hk, filterKey_toLists, List.isPrefixOf]
    by_cases hne : x = [] <;> simp [hne]
  next h1 h2 =>
    -- a key of neither shape has neither prefix
    have hp : "filter[".toList.isPrefixOf key.toList = false :=
      Bool.eq_false_iff.2 fun h => by
        obtain ⟨t, ht⟩ := List.isPrefixOf_iff_prefix.1 h
        exact h1 t ht.symm
    have hp' : "filter.".toList.isPrefixOf key.toList = false :=
      Bool.eq_false_iff.2 fun h => by
        obtain ⟨t, ht⟩ := List.isPrefixOf_iff_prefix.1 h
        exact h2 t ht.symm
    simp only [hp, hp']
    rfl

/-- `addFilter` keeps the values the spec keeps. -/
theorem specTrimmed_eq (vals : List String) : specTrimmed vals = trimmedValues vals := by
  induction vals with
  | nil => rfl
  | cons v vals ih =>
    by_cases h : trimSpace v = "" <;> simp_all [specTrimmed, trimmedValues, List.filter_cons]

/-- The search key of `ParseListQuery` is the spec's. -/
theorem specSearchKey_eq (cfg : ListQueryConfig) : specSearchKey cfg = searchKeyOf cfg := by
  unfold specSearchKey searchKeyOf
  split <;> simp_all

/-- The filter loop collects for each filter the values the spec gives it. -/
theorem specFilterValues_eq (v : Values) (cfg : ListQueryConfig) (k : String) :
    specFilterValues v cfg k = filterValues v (searchKeyOf cfg) k := by
  unfold specFilterValues filterValues
  congr 1
  funext p
  simp only [contrib, reserved, specFilterName_eq, specTrimmed_eq, specSearchKey_eq, List.mem_cons,
    List.mem_singleton, List.not_mem_nil, or_false, not_or, Bool.or_eq_false_iff, decide_eq_false_iff_not]
  simp only [and_assoc]

/-- The query `?k=1&filter[k]=2`, visited with `k` first. -/
def kFirst : Values := ⟨[("k", ["1"]), ("filter[k]", ["2"])], by decide⟩

/-- The same map, visited with `filter[k]` first. -/
def filterFirst : Values := ⟨[("filter[k]", ["2"]), ("k", ["1"])], by decide⟩

/-- A configuration that allows the filter `k`. -/
def allowK : ListQueryConfig := ⟨20, 100, ["k"], [], ""⟩

/-- `ParseListQuery`'s filters are sound and complete with respect to the allowlist, when it has a
non-empty entry: every filter is a non-empty allowed name, with a non-empty list that holds exactly
the values the spec gives it (the trimmed non-empty values of every raw parameter that names it,
other than `limit`, `offset` and the search key), in the order the map is visited, so a permutation
of them; an allowed name without a filter has no such values; and `MissingRequired` is the
non-empty required names without a filter, in the order of `Required`. -/
theorem ParseListQuery_filters_sound_complete (v : Values) (cfg : ListQueryConfig)
    (hallow : ∃ f ∈ cfg.AllowedFilters, f ≠ "") :
    (∀ k vals, (ParseListQuery v cfg).Filters k = some vals →
      k ≠ "" ∧ k ∈ cfg.AllowedFilters ∧ vals ≠ [] ∧ vals = specFilterValues v cfg k) ∧
    (∀ k, k ≠ "" → k ∈ cfg.AllowedFilters → (ParseListQuery v cfg).Filters k = none →
      specFilterValues v cfg k = []) ∧
    (ParseListQuery v cfg).MissingRequired =
      cfg.Required.filter fun k => k ≠ "" ∧ (ParseListQuery v cfg).Filters k = none := by
  simp only [specFilterValues_eq]
  refine ⟨fun k vals h => ?_, fun k hk hmem h => ?_, ?_⟩
  · rw [filters_eq] at h
    split_ifs at h with hin
    cases h
    exact ⟨((allowFilter_allowedSet hallow k).1 hin.1).1, ((allowFilter_allowedSet hallow k).1 hin.1).2,
      hin.2, rfl⟩
  · rw [filters_eq] at h
    split_ifs at h with hin
    by_contra hne
    exact hin ⟨(allowFilter_allowedSet hallow k).2 ⟨hk, hmem⟩, hne⟩
  · exact MissingRequired_eq v cfg

/-- Soundness and completeness at the query `?k=1&filter[k]=2`. -/
theorem ParseListQuery_filters_sound_complete_kFirst :
    (∃ f ∈ allowK.AllowedFilters, f ≠ "") ∧
    ((∀ k vals, (ParseListQuery kFirst allowK).Filters k = some vals →
      k ≠ "" ∧ k ∈ allowK.AllowedFilters ∧ vals ≠ [] ∧ vals = specFilterValues kFirst allowK k) ∧
    (∀ k, k ≠ "" → k ∈ allowK.AllowedFilters → (ParseListQuery kFirst allowK).Filters k = none →
      specFilterValues kFirst allowK k = []) ∧
    (ParseListQuery kFirst allowK).MissingRequired =
      allowK.Required.filter fun k => k ≠ "" ∧ (ParseListQuery kFirst allowK).Filters k = none) := by
  have hallow : ∃ f ∈ allowK.AllowedFilters, f ≠ "" := ⟨"k", by simp [allowK], by decide⟩
  exact ⟨hallow, ParseListQuery_filters_sound_complete kFirst allowK hallow⟩

/-! ## The order of the visit -/

/-- A key's values are found exactly when the key has them: the keys are distinct. -/
theorem Values.lookup_eq_some_iff (v : Values) (k : String) (vs : List String) :
    v.lookup k = some vs ↔ (k, vs) ∈ v.entries := by
  constructor
  · intro h
    obtain ⟨p, hp, rfl⟩ := Option.map_eq_some'.1 h
    have hk : p.1 = k := by simpa using List.find?_some hp
    exact hk ▸ List.mem_of_find?_eq_some hp
  · intro h
    obtain ⟨p, hp⟩ : ∃ p, v.entries.find? (·.1 == k) = some p :=
      Option.isSome_iff_exists.1 (List.find?_isSome.2 ⟨_, h, by simp⟩)
    have hk : p.1 = k := by simpa using List.find?_some hp
    have := List.inj_on_of_nodup_map v.keys_nodup (List.mem_of_find?_eq_some hp) h hk
    simp [Values.lookup, hp, this]

/-- Two visits of one map find the same values. -/
theorem Values.lookup_perm {v₁ v₂ : Values} (h : v₁.entries.Perm v₂.entries) : v₁.lookup = v₂.lookup := by
  funext k
  refine Option.ext fun vs => ?_
  simp only [Option.mem_def, Values.lookup_eq_some_iff, h.mem_iff]

/-- What does not depend on the order of the visit: for two visits of one map, the limit, the
offset, the search term, the raw values and the missing required filters are the same, each filter
is there in both or in neither, and its values in one are a permutation of those in the other. -/
theorem ParseListQuery_perm {v₁ v₂ : Values} (h : v₁.entries.Perm v₂.entries) (cfg : ListQueryConfig) :
    (ParseListQuery v₁ cfg).Limit = (ParseListQuery v₂ cfg).Limit ∧
      (ParseListQuery v₁ cfg).Offset = (ParseListQuery v₂ cfg).Offset ∧
      (ParseListQuery v₁ cfg).Search = (ParseListQuery v₂ cfg).Search ∧
      (ParseListQuery v₁ cfg).Raw = (ParseListQuery v₂ cfg).Raw ∧
      (ParseListQuery v₁ cfg).MissingRequired = (ParseListQuery v₂ cfg).MissingRequired ∧
      ∀ k, ((ParseListQuery v₁ cfg).Filters k).isSome = ((ParseListQuery v₂ cfg).Filters k).isSome ∧
        (((ParseListQuery v₁ cfg).Filters k).getD []).Perm (((ParseListQuery v₂ cfg).Filters k).getD []) := by
  have hget : v₁.Get = v₂.Get := by
    funext k; simp only [Values.Get, Values.lookup_perm h]
  have hvals : ∀ k, (filterValues v₁ (searchKeyOf cfg) k).Perm (filterValues v₂ (searchKeyOf cfg) k) :=
    fun k => h.flatMap_right _
  have hnil : ∀ k, filterValues v₁ (searchKeyOf cfg) k = [] ↔ filterValues v₂ (searchKeyOf cfg) k = [] :=
    fun k => by rw [← List.length_eq_zero, ← List.length_eq_zero, (hvals k).length_eq]
  have hfilter : ∀ k, ((ParseListQuery v₁ cfg).Filters k).isSome = ((ParseListQuery v₂ cfg).Filters k).isSome ∧
      (((ParseListQuery v₁ cfg).Filters k).getD []).Perm (((ParseListQuery v₂ cfg).Filters k).getD []) :=
    fun k => by
      have := hnil k
      rw [filters_eq, filters_eq]
      split_ifs <;> simp_all [hvals k]
  refine ⟨by simp only [ParseListQuery, hget], by simp only [ParseListQuery, hget],
    by simp only [ParseListQuery, hget], Values.lookup_perm h, ?_, hfilter⟩
  rw [MissingRequired_eq, MissingRequired_eq]
  exact List.filter_congr fun k _ => by simp only [← Option.not_isSome_iff_eq_none, (hfilter k).1]

/-- The two visits of `?k=1&filter[k]=2` agree up to the order of the values. -/
theorem ParseListQuery_perm_kFirst :
    kFirst.entries.Perm filterFirst.entries ∧
    ((ParseListQuery kFirst allowK).Limit = (ParseListQuery filterFirst allowK).Limit ∧
      (ParseListQuery kFirst allowK).Offset = (ParseListQuery filterFirst allowK).Offset ∧
      (ParseListQuery kFirst allowK).Search = (ParseListQuery filterFirst allowK).Search ∧
      (ParseListQuery kFirst allowK).Raw = (ParseListQuery filterFirst allowK).Raw ∧
      (ParseListQuery kFirst allowK).MissingRequired = (ParseListQuery filterFirst allowK).MissingRequired ∧
      ∀ k, ((ParseListQuery kFirst allowK).Filters k).isSome = ((ParseListQuery filterFirst allowK).Filters k).isSome ∧
        (((ParseListQuery kFirst allowK).Filters k).getD []).Perm (((ParseListQuery filterFirst allowK).Filters k).getD [])) := by
  have h : kFirst.entries.Perm filterFirst.entries := by decide
  exact ⟨h, ParseListQuery_perm h allowK⟩

/-- `?k=1&filter[k]=2`: both keys name the filter `k`, and its values, and so `First("k")`, follow the
order in which Go visits the map. -/
theorem ParseListQuery_depends_on_order :
    kFirst.entries.Perm filterFirst.entries ∧
      (ParseListQuery kFirst allowK).Filters "k" = some ["1", "2"] ∧
      (ParseListQuery filterFirst allowK).Filters "k" = some ["2", "1"] ∧
      (ParseListQuery kFirst allowK).First "k" = "1" ∧ (ParseListQuery filterFirst allowK).First "k" = "2" := by
  decide

end ApiToolkit.Endpoints
