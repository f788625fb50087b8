import ApiToolkit.Http.Response
import ApiToolkit.GoMap

/-!
# Problem details

`Problem`, `With`, `WriteProblem` and `WriteSimpleProblem` of `src/httpx/httpx.go`. `WriteProblem`
replaces a status of zero or less by `500`, calls `WriteHeader` with it, and encodes a map of the
body's members: the standard members that are set, then every extension member whose key is not
one of the five standard names. The members are `Value`s: a string, an `int`, or an extension's
value of the type `α`. The bytes of the encoding are left to `json.Encoder` (`encode`, their
number), and so is the `Content-Type` header, which no middleware reads.

The body holds `status` always, each other standard member where it is not empty, and each
extension member under any other key; no extension member replaces a standard one
(`WriteProblem_members`). So an extension added with `With` under a standard name, or under the
empty key, never reaches the body (`WriteProblem_With`).
-/

namespace ApiToolkit.Http

/-- A member of the body: a string, an `int`, or an extension's value. -/
inductive Value (α : Type)
  | str (s : String)
  | int (n : BitVec 64)
  | ext (a : α)
  deriving DecidableEq, Repr

/-- `Problem`, an RFC 7807 body, with extension members of type `α`. -/
structure Problem (α : Type) where
  «Type» : String
  Title : String
  Status : BitVec 64
  Detail : String
  Instance : String
  Ext : GoMap α

namespace Problem

variable {α : Type}

/-- `p.With(key, value)`: the extension member `key` set, unless `key` is empty. -/
def With (p : Problem α) (key : String) (value : α) : Problem α :=
  if key = "" then p else { p with Ext := p.Ext.set key value }

/-- The keys of the standard members, which the loop over the extensions skips. -/
def reserved (k : String) : Bool :=
  k == "type" || k == "title" || k == "status" || k == "detail" || k == "instance"

/-- One pass of the loop over the extensions: `out[k] = v`, unless `k` is a standard key. -/
def extStep (out : GoMap (Value α)) (kv : String × α) : GoMap (Value α) :=
  if reserved kv.1 then out else out.set kv.1 (.ext kv.2)

/-- The map `out` that `WriteProblem` encodes, for the problem `p` whose `Status` it has set. -/
def members (p : Problem α) : GoMap (Value α) :=
  let out : GoMap (Value α) := GoMap.empty
  let out := if p.«Type» ≠ "" then out.set "type" (.str p.«Type») else out
  let out := if p.Title ≠ "" then out.set "title" (.str p.Title) else out
  let out := if p.Status ≠ 0 then out.set "status" (.int p.Status) else out
  let out := if p.Detail ≠ "" then out.set "detail" (.str p.Detail) else out
  let out := if p.Instance ≠ "" then out.set "instance" (.str p.Instance) else out
  p.Ext.entries.foldl extStep out

end Problem

/-- `WriteProblem(w, status, p)`: the map it encodes, and its calls on `w`, `WriteHeader(status)`
and the `Write` of the encoding. -/
def WriteProblem {α : Type} (encode : GoMap (Value α) → Nat) (status : BitVec 64) (p : Problem α) :
    GoMap (Value α) × List Call :=
  let status := if status.toInt ≤ 0 then 500 else status
  let p := { p with Status := status }
  let out := p.members
  (out, [.writeHeader status, .write (encode out)])

/-- `WriteSimpleProblem(w, status, title, detail)`. -/
def WriteSimpleProblem {α : Type} (encode : GoMap (Value α) → Nat) (status : BitVec 64)
    (title detail : String) : GoMap (Value α) × List Call :=
  WriteProblem encode status
    { «Type» := "", Title := title, Status := 0, Detail := detail, Instance := "", Ext := GoMap.empty }

namespace Problem

variable {α : Type}

/-- The standard string member a key names, where it names one. -/
def stringMember (p : Problem α) (k : String) : Option String :=
  if k = "type" then some p.«Type»
  else if k = "title" then some p.Title
  else if k = "detail" then some p.Detail
  else if k = "instance" then some p.Instance
  else none

/-- The loop over the extensions sets each extension member under a key that is not standard, and
nothing else. -/
theorem get_foldl_extStep : ∀ (l : List (String × α)), (l.map Prod.fst).Nodup →
    ∀ (out : GoMap (Value α)) (k : String),
      (l.foldl extStep out).get k =
        if reserved k then out.get k else ((l.find? (·.1 == k)).map fun kv => .ext kv.2).or (out.get k)
  | [], _, out, k => by split_ifs <;> rfl
  | (k0, v0) :: l, hl, out, k => by
    obtain ⟨hk0, hl⟩ := List.nodup_cons.1 hl
    rw [List.foldl_cons, get_foldl_extStep l hl]
    by_cases hk : k0 = k
    · subst hk
      have hnone : l.find? (·.1 == k0) = none :=
        List.find?_eq_none.2 fun kv hkv h => hk0 (by simpa [beq_iff_eq.1 h] using List.mem_map_of_mem Prod.fst hkv)
      by_cases hr : reserved k0 <;> simp [extStep, hr, hnone]
    · have hb : (k0 == k) = false := beq_false_of_ne hk
      by_cases hr : reserved k0 <;> simp [extStep, hr, hb, hk]

/-- A member set where its value is set. -/
theorem get_ite_set {β : Type} (c : Prop) [Decidable c] (m : GoMap β) (k : String) (v : β) (k' : String) :
    (if c then m.set k v else m).get k' = if c ∧ k = k' then some v else m.get k' := by
  by_cases hc : c <;> simp [hc]

/-- The body's members: `status` where it is set, each other standard member where it is not
empty, and each extension member under a key that is not standard. -/
theorem get_members (p : Problem α) (k : String) :
    p.members.get k =
      if reserved k then
        if k = "status" then (if p.Status ≠ 0 then some (.int p.Status) else none)
        else (p.stringMember k).bind fun s => if s ≠ "" then some (.str s) else none
      else (p.Ext.get k).map .ext := by
  unfold members
  rw [get_foldl_extStep _ p.Ext.nodup]
  simp only [get_ite_set, GoMap.get_empty]
  by_cases hr : reserved k
  · simp only [hr, if_true]
    simp only [reserved, Bool.or_eq_true, beq_iff_eq] at hr
    rcases hr with (((rfl | rfl) | rfl) | rfl) | rfl <;> simp [stringMember]
  · simp only [hr, if_false, Bool.false_eq_true]
    simp only [reserved, Bool.or_eq_true, beq_iff_eq, not_or] at hr
    obtain ⟨⟨⟨⟨h1, h2⟩, h3⟩, h4⟩, h5⟩ := hr
    simp [Ne.symm h1, Ne.symm h2, Ne.symm h3, Ne.symm h4, Ne.symm h5, GoMap.get, Option.map_map]
    rfl

end Problem

variable {α : Type}

/-- The body `WriteProblem` encodes holds `status`, the given status or `500` for one of zero or
less; each other standard member where it is not empty; and each extension member under any other
key. No extension member replaces a standard one. -/
theorem WriteProblem_members (encode : GoMap (Value α) → Nat) (status : BitVec 64) (p : Problem α)
    (k : String) :
    (WriteProblem encode status p).1.get k =
      if k = "status" then some (.int (if status.toInt ≤ 0 then 500 else status))
      else if Problem.reserved k then (p.stringMember k).bind fun s => if s ≠ "" then some (.str s) else none
      else (p.Ext.get k).map .ext := by
  unfold WriteProblem
  rw [Problem.get_members]
  have hne : (if status.toInt ≤ 0 then 500 else status) ≠ 0 := by
    split_ifs with h
    · decide
    · rintro rfl; exact h (by decide)
  by_cases hs : k = "status"
  · subst hs
    simp only [Problem.reserved, if_true]
    exact if_pos hne
  · simp only [hs, if_false]
    rfl

/-- `With` then `WriteProblem`: the body holds the new extension member under its key, unless the key
is empty or one of the five standard names, where `With` is lost without a trace; every other key
keeps its member. -/
theorem WriteProblem_With (encode : GoMap (Value α) → Nat) (status : BitVec 64) (p : Problem α)
    (k : String) (v : α) (k' : String) :
    (WriteProblem encode status (p.With k v)).1.get k' =
      if k' = k ∧ k ≠ "" ∧ Problem.reserved k = false then some (.ext v)
      else (WriteProblem encode status p).1.get k' := by
  unfold WriteProblem Problem.With
  by_cases hk : k = ""
  · simp only [hk, if_true, ne_eq, not_true_eq_false, false_and, and_false, if_false]
  simp only [hk, if_false]
  rw [Problem.get_members, Problem.get_members]
  by_cases hr : Problem.reserved k'
  · have hne : ¬(k' = k ∧ k ≠ "" ∧ Problem.reserved k = false) := fun ⟨he, _, hf⟩ => by
      rw [he, hf] at hr; cases hr
    simp only [hr, if_true, if_neg hne]
    rfl
  · simp only [hr, Bool.false_eq_true, if_false, GoMap.get_set]
    by_cases he : k' = k
    · subst he; simp [hk, Bool.eq_false_iff.2 hr]
    · simp [he, Ne.symm he]

/-- On the server's writer, the problem of a recovered panic ends normally, with the status fixed
before it, or else `500`. -/
theorem run_WriteProblem_500 (encode : GoMap (Value α) → Nat) (p : Problem α) (w : Response) :
    ∃ w', run w (WriteProblem encode 500 p).2 = .ok w' ∧
      Response.statusOf w' = (Response.statusOf w).or (some 500) := by
  have hs := Response.statusOf_run w (WriteProblem encode 500 p).2
  rcases Response.WriteHeader_cases w 500 with ⟨hv, -⟩ | ⟨-, hi, -⟩ | ⟨-, -, h⟩
  · exact absurd hv (by decide)
  · exact absurd hi (by decide)
  · have hrun : run w (WriteProblem encode 500 p).2 = .ok (run w (WriteProblem encode 500 p).2).state := by
      simp only [WriteProblem, ite_self, run, show ResponseWriter.WriteHeader w 500 = _ from h]
      rfl
    exact ⟨_, hrun, by rw [hs]; rfl⟩

end ApiToolkit.Http
