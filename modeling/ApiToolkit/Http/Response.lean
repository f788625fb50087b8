import Mathlib.Data.Option.Basic
import Mathlib.Algebra.Group.Int

/-!
# A handler's calls on its `http.ResponseWriter`

The middlewares of `src/middleware` wrap the `http.ResponseWriter` a handler writes to, and read
what the handler did with it. `ResponseWriter` is Go's interface, with the methods the middlewares
use: `WriteHeader(code)` and `Write(b)`. A call can panic, and `Outcome` keeps the writer's state at
the panic, which a recovering caller still writes to.

A handler is a tree of calls (`Prog`): `Write` goes on with the count the writer returns, and a
deferred `recover()` lets the handler go on after a panic, its own or its writer's, knowing
whether there was one. So a result for every `Prog` is a result for every handler that ends.
`exec` runs a handler on a writer, and `trace` lists the calls that reach the writer, each with the
writer's answer (`Step`). The middlewares' own calls are fixed sequences of `Call`s, which `run`
makes in order up to the first panic.

`Response` is the writer of `net/http`'s server, as far as the status and the length of the body
go. Its `WriteHeader` panics on a code outside `100..999` (`checkWriteHeaderCode`), sends an
informational `1xx` code at once, and otherwise fixes the status, after which it ignores every
other code ("superfluous response.WriteHeader call"). The first `Write` fixes the status `200` if
none is fixed, and a status that forbids a body (`1xx`, `204`, `304`) makes every `Write` return
`0`. A handler that returns before either fixes the status `200` (`finish`).

The status the server sends is the first final code that `WriteHeader` took without a panic before
any `Write`, or `200` (`statusOf_exec`, and `statusOf_run` for a fixed sequence).
-/

namespace ApiToolkit.Http

/-- A call the middlewares make on a writer: `WriteHeader(code)`, `Write(b)` with `len(b) = n`, or a
panic. -/
inductive Call
  | writeHeader (code : BitVec 64)
  | write (n : Nat)
  | panic
  deriving DecidableEq, Repr

/-- A handler, as its writer sees it: it returns, panics, calls `WriteHeader(code)` and goes on,
calls `Write(b)` with `len(b) = n` and goes on with the count `Write` returns, or runs a body under a
deferred `recover()` and goes on with whether the body panicked. -/
inductive Prog
  | ret
  | panic
  | writeHeader (code : BitVec 64) (next : Prog)
  | write (n : Nat) (next : Nat → Prog)
  | recover (body : Prog) (next : Bool → Prog)

/-- A call that reached the writer, with the writer's answer: `WriteHeader(code)` and whether it
panicked, or `Write` of `n` bytes and the count `k` it returned. -/
inductive Step
  | writeHeader (code : BitVec 64) (panicked : Bool)
  | write (n k : Nat)
  deriving DecidableEq, Repr

/-- How a call or a handler ends: normally or by a panic, with the writer's state at that point. -/
inductive Outcome (W : Type)
  | ok (w : W)
  | panic (w : W)
  deriving DecidableEq, Repr

namespace Outcome

variable {W V : Type}

/-- The writer's state at the end. -/
def state : Outcome W → W
  | ok w => w
  | panic w => w

/-- The same ending, with the state mapped by `f`. -/
def map (f : W → V) : Outcome W → Outcome V
  | ok w => ok (f w)
  | panic w => panic (f w)

/-- Whether it ended by a panic. -/
def panicked : Outcome W → Bool
  | ok _ => false
  | panic _ => true

@[simp]
theorem state_map (f : W → V) (o : Outcome W) : (o.map f).state = f o.state := by
  cases o <;> rfl

@[simp]
theorem panicked_map (f : W → V) (o : Outcome W) : (o.map f).panicked = o.panicked := by
  cases o <;> rfl

end Outcome

/-- The methods of `http.ResponseWriter` that the middlewares call or override; `Write` returns the
number of bytes written. -/
class ResponseWriter (W : Type) where
  WriteHeader : W → BitVec 64 → Outcome W
  Write : W → Nat → W × Nat

open ResponseWriter

section Exec

variable {W : Type} [ResponseWriter W]

/-- Fixed calls made on the writer `w` in order, up to the first panic. -/
def run (w : W) : List Call → Outcome W
  | [] => .ok w
  | .writeHeader code :: cs =>
    match WriteHeader w code with
    | .ok w => run w cs
    | .panic w => .panic w
  | .write n :: cs => run (Write w n).1 cs
  | .panic :: _ => .panic w

/-- A handler run on the writer `w`: how it ends. A panic under `recover` ends the body with the
writer as the panic left it, and the handler goes on from there. -/
def exec (w : W) : Prog → Outcome W
  | .ret => .ok w
  | .panic => .panic w
  | .writeHeader code next =>
    match WriteHeader w code with
    | .ok w => exec w next
    | .panic w => .panic w
  | .write n next => exec (Write w n).1 (next (Write w n).2)
  | .recover body next => exec (exec w body).state (next (exec w body).panicked)

/-- The calls of a handler run on the writer `w` that reach it, in order, with its answers. -/
def trace (w : W) : Prog → List Step
  | .ret => []
  | .panic => []
  | .writeHeader code next =>
    match WriteHeader w code with
    | .ok w => .writeHeader code false :: trace w next
    | .panic _ => [.writeHeader code true]
  | .write n next => .write n (Write w n).2 :: trace (Write w n).1 (next (Write w n).2)
  | .recover body next => trace w body ++ trace (exec w body).state (next (exec w body).panicked)

end Exec

/-! ## `net/http`'s writer -/

/-- `checkWriteHeaderCode`: the three-digit codes, and no other, pass. -/
def validCode (code : BitVec 64) : Bool := 100 ≤ code.toInt && code.toInt ≤ 999

/-- An informational code, which `WriteHeader` sends at once without fixing the status: `1xx`
other than `101 Switching Protocols`. -/
def informational (code : BitVec 64) : Bool := 100 ≤ code.toInt && code.toInt ≤ 199 && code != 101

/-- `bodyAllowedForStatus`. -/
def bodyAllowedForStatus (status : BitVec 64) : Bool :=
  if 100 ≤ status.toInt ∧ status.toInt ≤ 199 then false
  else if status = 204 then false
  else if status = 304 then false
  else true

/-- The server's `response`: whether the status is fixed, the status, and the bytes of the body
written. -/
structure Response where
  wroteHeader : Bool
  status : BitVec 64
  written : Nat
  deriving DecidableEq, Repr

namespace Response

/-- The writer a handler gets: nothing fixed, nothing written. -/
def init : Response := ⟨false, 0, 0⟩

/-- `response.WriteHeader`. -/
def WriteHeader (w : Response) (code : BitVec 64) : Outcome Response :=
  if !validCode code then .panic w
  else if informational code then .ok w
  else if w.wroteHeader then .ok w
  else .ok { w with wroteHeader := true, status := code }

/-- `response.Write`: the implicit `WriteHeader(StatusOK)`, then the bytes where the status allows a
body. -/
def Write (w : Response) (n : Nat) : Response × Nat :=
  let w := if w.wroteHeader then w else { w with wroteHeader := true, status := 200 }
  if n = 0 then (w, 0)
  else if bodyAllowedForStatus w.status then ({ w with written := w.written + n }, n)
  else (w, 0)

/-- `finishRequest`: a handler that returned before fixing a status sends `200`. -/
def finish (w : Response) : Response :=
  if w.wroteHeader then w else { w with wroteHeader := true, status := 200 }

/-- The status fixed so far. -/
def statusOf (w : Response) : Option (BitVec 64) := if w.wroteHeader then some w.status else none

end Response

instance : ResponseWriter Response := ⟨Response.WriteHeader, Response.Write⟩

/-- The status a sequence of calls fixes on a fresh writer: the first final code given to
`WriteHeader` before any `Write`, `200` at a first `Write`, and none before the run ends or panics. -/
def committed : List Call → Option (BitVec 64)
  | [] => none
  | .writeHeader code :: cs =>
    if !validCode code then none else if informational code then committed cs else some code
  | .write _ :: _ => some 200
  | .panic :: _ => none

/-- The status a handler's trace fixes on a fresh writer: the first final code that `WriteHeader`
took without a panic before any `Write`, `200` at a first `Write`, and none otherwise. -/
def fixedStatus : List Step → Option (BitVec 64)
  | [] => none
  | .writeHeader code panicked :: t => if panicked || informational code then fixedStatus t else some code
  | .write .. :: _ => some 200

theorem fixedStatus_append (t t' : List Step) :
    fixedStatus (t ++ t') = (fixedStatus t).or (fixedStatus t') := by
  induction t with
  | nil => rfl
  | cons s t ih =>
    cases s with
    | writeHeader code panicked =>
      simp only [List.cons_append, fixedStatus]
      split_ifs
      · exact ih
      · rfl
    | write => rfl

namespace Response

/-- `WriteHeader` panics exactly on an invalid code, and fixes the status only where none is
fixed and the code is final. -/
theorem WriteHeader_cases (w : Response) (code : BitVec 64) :
    (validCode code = false ∧ WriteHeader w code = .panic w) ∨
      (validCode code = true ∧ informational code = true ∧ WriteHeader w code = .ok w) ∨
      (validCode code = true ∧ informational code = false ∧
        WriteHeader w code = .ok (if w.wroteHeader then w else { w with wroteHeader := true, status := code })) := by
  unfold WriteHeader
  cases hv : validCode code <;> cases hi : informational code <;> cases w.wroteHeader <;> simp

/-- A `Write` fixes `200` where no status is fixed, and adds what it returns to the body. -/
theorem Write_spec (w : Response) (n : Nat) :
    statusOf (Write w n).1 = (statusOf w).or (some 200) ∧
      (Write w n).1.written = w.written + (Write w n).2 := by
  rcases w with ⟨_ | _, status, written⟩ <;> simp only [Write, if_true, if_false, Bool.false_eq_true] <;>
    split_ifs <;> simp [statusOf]

/-- The status after a run from `w`: the one `w` has fixed, or else the one the calls fix. -/
theorem statusOf_run : ∀ (w : Response) (calls : List Call),
    statusOf (run w calls).state = (statusOf w).or (committed calls)
  | w, [] => by simp [run, committed, Outcome.state]
  | w, .writeHeader code :: cs => by
    rcases WriteHeader_cases w code with ⟨hv, h⟩ | ⟨hv, hi, h⟩ | ⟨hv, hi, h⟩
    · simp [run, show ResponseWriter.WriteHeader w code = .panic w from h, committed, hv, Outcome.state]
    · simp [run, show ResponseWriter.WriteHeader w code = .ok w from h, committed, hv, hi,
        statusOf_run w cs]
    · simp only [run, show ResponseWriter.WriteHeader w code = _ from h, statusOf_run _ cs,
        committed, hv, hi, Bool.not_true, Bool.false_eq_true, if_false]
      cases hw : w.wroteHeader <;> simp [statusOf, hw]
  | w, .write n :: cs => by
    rw [run, statusOf_run _ cs, show ResponseWriter.Write w n = Write w n from rfl, (Write_spec w n).1]
    cases statusOf w <;> rfl
  | w, .panic :: cs => by simp [run, committed, Outcome.state]

/-- The status after a handler run from `w`: the one `w` has fixed, or else the one its trace
fixes. -/
theorem statusOf_exec (w : Response) (p : Prog) : statusOf (exec w p).state = (statusOf w).or (fixedStatus (trace w p)) := by
  induction p generalizing w with
  | ret => simp [exec, trace, fixedStatus, Outcome.state]
  | panic => simp [exec, trace, fixedStatus, Outcome.state]
  | writeHeader code next ih =>
    rcases WriteHeader_cases w code with ⟨-, h⟩ | ⟨-, hi, h⟩ | ⟨-, hi, h⟩ <;>
      simp only [exec, trace, show ResponseWriter.WriteHeader w code = _ from h]
    · simp [fixedStatus, Outcome.state]
    · simp [fixedStatus, hi, ih]
    · simp only [ih, fixedStatus, hi, Bool.or_false, Bool.false_eq_true, if_false]
      cases hw : w.wroteHeader <;> simp [statusOf, hw]
  | write n next ih =>
    simp only [exec, trace, ih, show ResponseWriter.Write w n = Write w n from rfl, (Write_spec w n).1, fixedStatus]
    cases statusOf w <;> rfl
  | recover body next ihb ihn =>
    simp only [exec, trace, ihn, ihb, fixedStatus_append, Option.or_assoc]

/-- A handler that returns on a fresh writer sends the status its trace fixes, or `200`. -/
theorem finish_exec_status {p : Prog} {w : Response} (h : exec init p = .ok w) :
    (finish w).status = (fixedStatus (trace init p)).getD 200 := by
  have hs := statusOf_exec init p
  rw [h] at hs
  unfold finish
  unfold statusOf at hs
  cases hw : w.wroteHeader <;> simp [hw, init, Outcome.state] at hs ⊢ <;> rw [← hs] <;> rfl

end Response

end ApiToolkit.Http
