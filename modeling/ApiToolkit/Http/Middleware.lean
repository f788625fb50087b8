import ApiToolkit.Http.Problem
import ApiToolkit.Itoa

/-!
# The metrics and request-log middlewares

Both metrics middlewares (`src/middleware/metrics/metrics.go` and the Prometheus one of package
`metrics`) and the request log (`requestlog`) wrap the writer in a `respWriter` that starts at status
`200` and records the code of every `WriteHeader` before passing it on. The request log's wrapper
also adds up what each `Write` returns. A `Handler` serves one request on a writer: how it ends,
and the events it emits on the way, the calls of the metrics recorder and the lines of the log.
The two metrics middlewares are one definition, `instrument`, with each one's `itoa`, labels and
histogram name.

A wrapper passes every call on unchanged, so the writer it wraps sees exactly the handler's run and
the same calls (`exec_map_of_forwards`). Its status is the code of the handler's last
`WriteHeader`, or `200` (`status_exec_of_records`), recorded even where the wrapped writer panics on
it. Where that writer panics on an invalid code, as `net/http`'s writers do (`ChecksCodes`), a
handler that returns gave its last `WriteHeader` a valid code, unless it recovered from the panic of
that call (`validCode_lastCode`). The metrics then label the request with the text of that last
code (`Middleware_Handler_serve`), which is not always the status the server sends: that is the
first final code before any `Write` (`Response.finish_exec_status`). A handler that recovered from
its last `WriteHeader` is labelled by `itoa` of the invalid code, which panics on a code whose text
is longer than twelve bytes.
-/

namespace ApiToolkit.Http

open ResponseWriter

/-! ## Requests, events and handlers -/

/-- The request, as far as the middlewares read it: `r.Method`, `r.URL.Path`, and the
`Content-Type` header. -/
structure Request where
  Method : String
  Path : String
  ContentType : String
  deriving DecidableEq, Repr

/-- What the middlewares emit besides the response: the calls of the metrics recorder
(`IncCounter`, and `ObserveHistogram` with its value left out), and the lines of the request log
with the method, path, status and bytes. -/
inductive Event
  | incCounter (name : String) (labels : StrMap)
  | observeHistogram (name : String) (labels : StrMap)
  | log (method path : String) (status : BitVec 64) (bytes : Nat)

/-- An `http.Handler` serving one request on a writer of type `W`: how it ends, and the events it
emits, in order. -/
abbrev Handler (W : Type) := W → Outcome W × List Event

/-- A handler that runs `p` on its writer and emits nothing. -/
def ofProg {W : Type} [ResponseWriter W] (p : Prog) : Handler W := fun w => (exec w p, [])

/-- The last `WriteHeader` of a trace: its code, and whether it panicked. -/
def lastHeader : List Step → Option (BitVec 64 × Bool)
  | [] => none
  | .writeHeader code panicked :: t => (lastHeader t).or (some (code, panicked))
  | .write .. :: t => lastHeader t

/-- The code of the last `WriteHeader` of a trace. -/
def lastCode (t : List Step) : Option (BitVec 64) := (lastHeader t).map Prod.fst

/-- Whether the last `WriteHeader` of a trace panicked: in the trace of a handler that returns, the
handler recovered from that panic. -/
def lastPanicked (t : List Step) : Bool := ((lastHeader t).map Prod.snd).getD false

/-- What a call returned to the handler as a count of bytes: `Write`'s count, and none for
`WriteHeader`. -/
def Step.returned : Step → Nat
  | .writeHeader .. => 0
  | .write _ k => k

/-- What the `Write`s of a trace returned, added up. -/
def bytesWritten (t : List Step) : Nat := (t.map Step.returned).sum

/-- A writer whose `WriteHeader` panics on every code outside `100..999`, as `net/http`'s do. -/
class ChecksCodes (W : Type) [ResponseWriter W] : Prop where
  valid_of_ok : ∀ (w w' : W) (code : BitVec 64), WriteHeader w code = .ok w' → validCode code = true

instance : ChecksCodes Response where
  valid_of_ok w w' code h := by
    rcases Response.WriteHeader_cases w code with ⟨-, h'⟩ | ⟨hv, -⟩ | ⟨hv, -⟩
    · rw [show WriteHeader w code = _ from h'] at h; cases h
    · exact hv
    · exact hv

/-- `w.status = code; w.ResponseWriter.WriteHeader(code)`, the `WriteHeader` of every wrapper here:
how the wrapped writer `inner` ends, with the code recorded. -/
def recordWriteHeader {W : Type} [ResponseWriter W] (inner : W) (code : BitVec 64) :
    Outcome (W × BitVec 64) :=
  (WriteHeader inner code).map (·, code)

/-! ## Traces -/

theorem lastHeader_append (t t' : List Step) : lastHeader (t ++ t') = (lastHeader t').or (lastHeader t) := by
  induction t with
  | nil => simp [lastHeader]
  | cons s t ih => cases s <;> simp [lastHeader, ih, Option.or_assoc]

/-- The last `WriteHeader` of a trace is one of its calls. -/
theorem mem_of_lastHeader : ∀ {t : List Step} {code : BitVec 64} {panicked : Bool},
    lastHeader t = some (code, panicked) → Step.writeHeader code panicked ∈ t
  | .writeHeader c b :: t, code, panicked, h => by
    cases hl : lastHeader t with
    | none => rw [lastHeader, hl] at h; cases h; exact List.mem_cons_self _ _
    | some x => rw [lastHeader, hl] at h; exact List.mem_cons_of_mem _ (mem_of_lastHeader (hl.trans h))
  | .write .. :: t, code, panicked, h => List.mem_cons_of_mem _ (mem_of_lastHeader h)

theorem bytesWritten_append (t t' : List Step) : bytesWritten (t ++ t') = bytesWritten t + bytesWritten t' := by
  simp [bytesWritten]

/-! ## Wrapped writers -/

section Wrappers

variable {V W : Type} [ResponseWriter V] [ResponseWriter W]

/-- A wrapper that passes each call on unchanged, with the wrapped writer's answer, leaves the
wrapped writer with exactly the run of the handler on it, and the same calls reach both. -/
theorem exec_map_of_forwards (inner : V → W)
    (hwh : ∀ v code, (WriteHeader v code).map inner = WriteHeader (inner v) code)
    (hw : ∀ v n, (inner (Write v n).1, (Write v n).2) = Write (inner v) n) (p : Prog) :
    ∀ v, (exec v p).map inner = exec (inner v) p ∧ trace v p = trace (inner v) p := by
  induction p with
  | ret => intro v; exact ⟨rfl, rfl⟩
  | panic => intro v; exact ⟨rfl, rfl⟩
  | writeHeader code next ih =>
    intro v
    have h := hwh v code
    simp only [exec, trace]
    cases hv : WriteHeader v code with
    | ok v' => rw [hv] at h; rw [← h]; exact ⟨(ih v').1, by dsimp only [Outcome.map]; rw [(ih v').2]⟩
    | panic v' => rw [hv] at h; rw [← h]; exact ⟨rfl, rfl⟩
  | write n next ih =>
    intro v
    simp only [exec, trace, ← hw v n]
    exact ⟨(ih _ _).1, by rw [(ih _ _).2]⟩
  | recover body next ihb ihn =>
    intro v
    obtain ⟨hb, ht⟩ := ihb v
    simp only [exec, trace, ← hb, Outcome.state_map, Outcome.panicked_map, ht]
    exact ⟨(ihn _ _).1, by rw [(ihn _ _).2]⟩

/-- A wrapper whose `WriteHeader` records its code, whether the wrapped writer panics on it or not,
and whose `Write` keeps it, ends every handler with the code of its last `WriteHeader`, or with the
status it started with. -/
theorem status_exec_of_records (status : V → BitVec 64)
    (hwh : ∀ v code, status (WriteHeader v code).state = code)
    (hw : ∀ v n, status (Write v n).1 = status v) (p : Prog) :
    ∀ v, status (exec v p).state = (lastCode (trace v p)).getD (status v) := by
  induction p with
  | ret => intro v; rfl
  | panic => intro v; rfl
  | writeHeader code next ih =>
    intro v
    have h := hwh v code
    simp only [exec, trace]
    cases hv : WriteHeader v code with
    | ok v' =>
      rw [hv] at h
      simp only [lastCode, lastHeader, ih v']
      rw [← h]
      cases lastHeader (trace v' next) <;> rfl
    | panic v' => rw [hv] at h; exact h
  | write n next ih =>
    intro v
    rw [exec, trace, ih, hw]
    rfl
  | recover body next ihb ihn =>
    intro v
    simp only [exec, trace, ihn, ihb, lastCode, lastHeader_append]
    cases lastHeader (trace v body) <;> cases lastHeader (trace (exec v body).state _) <;> rfl

/-- A wrapper whose `Write` adds what it returns to a count, and whose `WriteHeader` keeps the
count, ends every handler with the count it started with and what the handler's `Write`s
returned. -/
theorem count_exec_of_adds (count : V → Nat)
    (hwh : ∀ v code, count (WriteHeader v code).state = count v)
    (hw : ∀ v n, count (Write v n).1 = count v + (Write v n).2) (p : Prog) :
    ∀ v, count (exec v p).state = count v + bytesWritten (trace v p) := by
  induction p with
  | ret => intro v; rfl
  | panic => intro v; rfl
  | writeHeader code next ih =>
    intro v
    have h := hwh v code
    simp only [exec, trace]
    cases hv : WriteHeader v code with
    | ok v' =>
      rw [hv] at h
      have h : count v' = count v := h
      exact (ih v').trans (by simp [h, bytesWritten, Step.returned])
    | panic v' => rw [hv] at h; exact h.trans rfl
  | write n next ih =>
    intro v
    simp only [exec, trace, ih, hw, bytesWritten, List.map_cons, List.sum_cons, Step.returned, Nat.add_assoc]
  | recover body next ihb ihn =>
    intro v
    simp only [exec, trace, ihn, ihb, bytesWritten_append, Nat.add_assoc]

/-- On a writer that checks codes, every `WriteHeader` of a trace that did not panic took a valid
code. -/
theorem valid_of_trace [ChecksCodes W] (p : Prog) :
    ∀ (w : W) code, Step.writeHeader code false ∈ trace w p → validCode code = true := by
  induction p with
  | ret => intro w code h; cases h
  | panic => intro w code h; cases h
  | writeHeader c next ih =>
    intro w code h
    simp only [trace] at h
    cases hv : WriteHeader w c with
    | ok w1 =>
      rw [hv] at h
      rcases List.mem_cons.1 h with h | h
      · cases h; exact ChecksCodes.valid_of_ok w w1 _ hv
      · exact ih w1 code h
    | panic w1 => rw [hv] at h; simp at h
  | write n next ih =>
    intro w code h
    rcases List.mem_cons.1 h with h | h
    · cases h
    · exact ih _ _ code h
  | recover body next ihb ihn =>
    intro w code h
    rcases List.mem_append.1 h with h | h
    · exact ihb w code h
    · exact ihn _ _ code h

/-- On a writer that checks codes, the last code of a handler's trace, or `200`, is valid unless the
last `WriteHeader` panicked. -/
theorem validCode_lastCode [ChecksCodes W] {w : W} {p : Prog} (h : lastPanicked (trace w p) = false) :
    validCode ((lastCode (trace w p)).getD 200) = true := by
  unfold lastPanicked at h
  unfold lastCode
  cases hl : lastHeader (trace w p) with
  | none => rfl
  | some x =>
    rw [hl] at h
    obtain ⟨code, panicked⟩ := x
    cases h
    exact valid_of_trace p w code (mem_of_lastHeader hl)

end Wrappers

/-- `itoa` with the twelve-byte buffer of the source prints every valid code as `strconv.Itoa`
does. -/
theorem itoaBuf_of_validCode {code : BitVec 64} (h : validCode code = true) :
    itoaBuf 12 code = some (strconvItoa code) := by
  simp only [validCode, Bool.and_eq_true, decide_eq_true_eq] at h
  rw [itoaBuf_of_nonneg (by omega) (by omega), if_pos]
  rw [strconvItoa_length, if_neg (by omega), Nat.zero_add]
  exact Nat.repr_length _ 12 (by omega) (by omega)

end ApiToolkit.Http

namespace ApiToolkit.Metrics

open Http ResponseWriter

/-- `respWriter` of the metrics middlewares: the wrapped writer and the recorded status. -/
structure respWriter (W : Type) where
  ResponseWriter : W
  status : BitVec 64

/-- `WriteHeader` records the code and passes it on; `Write` is the wrapped writer's. -/
instance {W : Type} [ResponseWriter W] : ResponseWriter (respWriter W) where
  WriteHeader w code := (recordWriteHeader w.ResponseWriter code).map fun p => ⟨p.1, p.2⟩
  Write w n := (⟨(Write w.ResponseWriter n).1, w.status⟩, (Write w.ResponseWriter n).2)

instance {W : Type} [ResponseWriter W] [ChecksCodes W] : ChecksCodes (respWriter W) where
  valid_of_ok w w' code h := by
    simp only [ResponseWriter.WriteHeader, recordWriteHeader] at h
    cases hv : WriteHeader w.ResponseWriter code with
    | ok i => exact ChecksCodes.valid_of_ok _ i code hv
    | panic i => rw [hv] at h; cases h

/-- The body of both metrics middlewares' `Handler`: serve `next` on the wrapped writer, starting
at status `200`; if it returns, build the labels from `itoa` of the status (which may panic), then
call `IncCounter` and `ObserveHistogram`. -/
def instrument {W : Type} (itoa : BitVec 64 → Option String) (labels : String → StrMap)
    (histogram : String) (next : Handler (respWriter W)) : Handler W := fun w =>
  match next ⟨w, 200⟩ with
  | (.panic ww, evs) => (.panic ww.ResponseWriter, evs)
  | (.ok ww, evs) =>
    match itoa ww.status with
    | none => (.panic ww.ResponseWriter, evs)
    | some status =>
      (.ok ww.ResponseWriter,
        evs ++ [.incCounter "http_requests_total" (labels status), .observeHistogram histogram (labels status)])

/-- `Middleware.Handler` of `src/middleware/metrics/metrics.go`. -/
def Middleware.Handler {W : Type} (r : Request) (next : Handler (respWriter W)) : Handler W :=
  instrument itoa (fun status => GoMap.ofList [("method", r.Method), ("path", r.Path), ("status", status)])
    "http_request_duration_ms" next

section

variable {W : Type} [ResponseWriter W]

/-- The wrapper's `WriteHeader`: the wrapped writer's, with the code recorded, panic or not. -/
theorem WriteHeader_respWriter (v : respWriter W) (code : BitVec 64) :
    WriteHeader v code = (WriteHeader v.ResponseWriter code).map fun i => ⟨i, code⟩ := by
  show (recordWriteHeader v.ResponseWriter code).map _ = _
  unfold recordWriteHeader
  cases WriteHeader v.ResponseWriter code <;> rfl

/-- The metrics wrapper passes every call on: the wrapped writer sees the handler's run, and the
same calls. -/
theorem exec_respWriter (w : W) (status : BitVec 64) (p : Prog) :
    (exec (⟨w, status⟩ : respWriter W) p).map (·.ResponseWriter) = exec w p ∧
      trace (⟨w, status⟩ : respWriter W) p = trace w p :=
  exec_map_of_forwards (fun v : respWriter W => v.ResponseWriter)
    (fun v code => by rw [WriteHeader_respWriter]; cases WriteHeader v.ResponseWriter code <;> rfl)
    (fun v n => rfl) p ⟨w, status⟩

/-- The metrics wrapper ends every handler with the code of its last `WriteHeader`, or `200`. -/
theorem status_respWriter (w : W) (p : Prog) :
    (exec (⟨w, 200⟩ : respWriter W) p).state.status = (lastCode (trace w p)).getD 200 := by
  rw [← (exec_respWriter w 200 p).2]
  exact status_exec_of_records (fun v : respWriter W => v.status)
    (fun v code => by rw [WriteHeader_respWriter, Outcome.state_map]) (fun v n => rfl) p ⟨w, 200⟩

/-- A metrics middleware around every handler: the writer sees the handler's run; a handler that
returns is counted and observed with the labels of `itoa` of its last `WriteHeader` code, or of
`200`, unless `itoa` panics. -/
theorem instrument_exec (itoa : BitVec 64 → Option String) (labels : String → StrMap) (histogram : String)
    (p : Prog) (w : W) :
    instrument itoa labels histogram (ofProg p) w =
      match exec w p with
      | .panic w' => (.panic w', [])
      | .ok w' =>
        match itoa ((lastCode (trace w p)).getD 200) with
        | none => (.panic w', [])
        | some status =>
          (.ok w', [.incCounter "http_requests_total" (labels status), .observeHistogram histogram (labels status)]) := by
  have hrun := (exec_respWriter w 200 p).1
  have hs := status_respWriter w p
  unfold instrument ofProg
  cases h : exec (⟨w, 200⟩ : respWriter W) p with
  | panic ww => rw [h] at hrun; rw [← hrun]; rfl
  | ok ww =>
    rw [h] at hrun hs
    rw [← hrun, ← hs]
    rfl

end

end ApiToolkit.Metrics

namespace ApiToolkit.Metrics.Prometheus

open Http

/-- `respWriter` of the Prometheus metrics middleware, the same as that of `metrics.go`. -/
abbrev respWriter (W : Type) := Metrics.respWriter W

/-- `Middleware.Handler` of the Prometheus metrics middleware. -/
def Middleware.Handler {W : Type} (r : Request) (next : Handler (respWriter W)) : Handler W :=
  instrument itoa
    (fun status => GoMap.ofList [("method", r.Method), ("route", r.Path), ("path", r.Path), ("status", status)])
    "http_request_duration_seconds" next

/-- `sanitizeHTTPLabels`: the method, route and status of the labels, with their defaults. -/
def sanitizeHTTPLabels (labels : StrMap) : String × String × String :=
  let method := (labels.get "method").getD ""
  let method := if method = "" then "UNKNOWN" else method
  let route := (labels.get "route").getD ""
  let route := if route = "" then (labels.get "path").getD "" else route
  let route := if route = "" then "unknown" else route
  let status := (labels.get "status").getD ""
  let status := if status = "" then "0" else status
  (method, route, status)

/-- `PrometheusRecorder`: the label values of each increment of `requests` and of each observation
of `durations`, in order; none where the vector is nil. -/
structure PrometheusRecorder where
  requests : Option (List (String × String × String))
  durations : Option (List (String × String × String))
  deriving DecidableEq, Repr

namespace PrometheusRecorder

/-- `NewPrometheusRecorder`: both vectors registered, nothing recorded. -/
def New : PrometheusRecorder := ⟨some [], some []⟩

/-- `IncCounter`: one increment of `requests` with the sanitized labels. -/
def IncCounter (p : PrometheusRecorder) (labels : StrMap) : PrometheusRecorder :=
  match p.requests with
  | none => p
  | some incs => { p with requests := some (incs ++ [sanitizeHTTPLabels labels]) }

/-- `ObserveHistogram`: one observation of `durations` with the sanitized labels. -/
def ObserveHistogram (p : PrometheusRecorder) (labels : StrMap) : PrometheusRecorder :=
  match p.durations with
  | none => p
  | some obs => { p with durations := some (obs ++ [sanitizeHTTPLabels labels]) }

/-- The recorder on an event of the middleware. -/
def record (p : PrometheusRecorder) : Event → PrometheusRecorder
  | .incCounter _ labels => p.IncCounter labels
  | .observeHistogram _ labels => p.ObserveHistogram labels
  | .log .. => p

end PrometheusRecorder

/-- The label values the Prometheus recorder gets for a request whose status label is `status`:
the method or `UNKNOWN`, the path or `unknown`, and the status. -/
theorem sanitizeHTTPLabels_ofList (r : Request) {status : String} (hs : status ≠ "") :
    sanitizeHTTPLabels
        (GoMap.ofList [("method", r.Method), ("route", r.Path), ("path", r.Path), ("status", status)]) =
      (if r.Method = "" then "UNKNOWN" else r.Method, if r.Path = "" then "unknown" else r.Path, status) := by
  simp only [sanitizeHTTPLabels, GoMap.ofList, List.foldl, GoMap.get_set, GoMap.get_empty]
  by_cases hp : r.Path = "" <;> simp [hp, hs]

end ApiToolkit.Metrics.Prometheus

namespace ApiToolkit.RequestLog

open Http ResponseWriter

/-- `respWriter` of the request log: the wrapped writer, the recorded status, and the bytes
written. -/
structure respWriter (W : Type) where
  ResponseWriter : W
  status : BitVec 64
  bytes : Nat

/-- `WriteHeader` records the code and passes it on; `Write` passes the bytes on and adds up the
count it returns. -/
instance {W : Type} [ResponseWriter W] : ResponseWriter (respWriter W) where
  WriteHeader w code :=
    (recordWriteHeader w.ResponseWriter code).map fun p => { w with ResponseWriter := p.1, status := p.2 }
  Write w b :=
    ({ w with ResponseWriter := (Write w.ResponseWriter b).1, bytes := w.bytes + (Write w.ResponseWriter b).2 },
      (Write w.ResponseWriter b).2)

instance {W : Type} [ResponseWriter W] [ChecksCodes W] : ChecksCodes (respWriter W) where
  valid_of_ok w w' code h := by
    simp only [ResponseWriter.WriteHeader, recordWriteHeader] at h
    cases hv : WriteHeader w.ResponseWriter code with
    | ok i => exact ChecksCodes.valid_of_ok _ i code hv
    | panic i => rw [hv] at h; cases h

/-- `Middleware.Handler` of the request log: serve `next` on the wrapped writer, starting at status
`200`; if it returns, log the method, path, status and bytes. -/
def Middleware.Handler {W : Type} (r : Request) (next : Handler (respWriter W)) : Handler W := fun w =>
  match next ⟨w, 200, 0⟩ with
  | (.panic ww, evs) => (.panic ww.ResponseWriter, evs)
  | (.ok ww, evs) => (.ok ww.ResponseWriter, evs ++ [.log r.Method r.Path ww.status ww.bytes])

section

variable {W : Type} [ResponseWriter W]

/-- The wrapper's `WriteHeader`: the wrapped writer's, with the code recorded, panic or not. -/
theorem WriteHeader_respWriter (v : respWriter W) (code : BitVec 64) :
    WriteHeader v code = (WriteHeader v.ResponseWriter code).map fun i => { v with ResponseWriter := i, status := code } := by
  show (recordWriteHeader v.ResponseWriter code).map _ = _
  unfold recordWriteHeader
  cases WriteHeader v.ResponseWriter code <;> rfl

/-- The request log's wrapper passes every call on: the wrapped writer sees the handler's run, and
the same calls. -/
theorem exec_respWriter (w : W) (status : BitVec 64) (bytes : Nat) (p : Prog) :
    (exec (⟨w, status, bytes⟩ : respWriter W) p).map (·.ResponseWriter) = exec w p ∧
      trace (⟨w, status, bytes⟩ : respWriter W) p = trace w p :=
  exec_map_of_forwards (fun v : respWriter W => v.ResponseWriter)
    (fun v code => by rw [WriteHeader_respWriter]; cases WriteHeader v.ResponseWriter code <;> rfl)
    (fun v n => rfl) p ⟨w, status, bytes⟩

/-- The request log's wrapper ends every handler with the code of its last `WriteHeader`, or `200`,
and with what its `Write`s returned, added up. -/
theorem respWriter_exec_state (w : W) (p : Prog) :
    (exec (⟨w, 200, 0⟩ : respWriter W) p).state.status = (lastCode (trace w p)).getD 200 ∧
      (exec (⟨w, 200, 0⟩ : respWriter W) p).state.bytes = bytesWritten (trace w p) := by
  rw [← (exec_respWriter w 200 0 p).2]
  refine ⟨status_exec_of_records (fun v : respWriter W => v.status) (fun v code => ?_) (fun v n => rfl) p _,
    (count_exec_of_adds (fun v : respWriter W => v.bytes) (fun v code => ?_) (fun v n => rfl) p _).trans
      (Nat.zero_add _)⟩ <;> rw [WriteHeader_respWriter, Outcome.state_map]

end

end ApiToolkit.RequestLog
