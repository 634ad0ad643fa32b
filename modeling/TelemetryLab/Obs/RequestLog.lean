import TelemetryLab.Lib.Scopes
import TelemetryLab.Lib.Table
import TelemetryLab.Pca.Model

/-! The request log of a thread: `context.h`, `logging.h` and `http_log.h`.

The context is a variable of the thread, which scopes set and restore. A line is
written as JSON, which throws when a text in it is not UTF-8. What the clocks read
is an argument of the actions.
-/

set_option autoImplicit false
namespace TelemetryLab.Obs
open Scopes

variable {R : Type}

abbrev Fields (R : Type) : Type := Table String (Pca.Json R)

structure Context where
  requestId : String := ""
  traceId : String := ""
  userId : String := ""
  datasetId : String := ""
  modelRunId : String := ""
  inferenceRunId : String := ""
  scoreJobId : String := ""
  deriving DecidableEq, Repr

inductive LogLevel where
  | info
  | warn
  | error
  deriving DecidableEq, Repr

def levelToString : LogLevel → String
  | .info => "INFO"
  | .warn => "WARN"
  | .error => "ERROR"

/-- What `HttpRequestLogScope` holds, and the status of its response. -/
structure RequestScope (R : Type) where
  component : String
  fields : Fields R
  errorLogged : Bool
  status : Int

/-- The variables of a thread, with the scopes on its stack and the lines it has written. -/
structure Thread (R : Type) where
  context : Context := {}
  contextSet : Bool := false
  scopes : List (RequestScope R) := []
  lines : List (Fields R) := []

namespace Context

/-- The fields of the context that are not empty. -/
def entries (ctx : Context) : List (String × String) :=
  [("request_id", ctx.requestId), ("trace_id", ctx.traceId), ("user_id", ctx.userId), ("dataset_id", ctx.datasetId),
    ("model_run_id", ctx.modelRunId), ("inference_run_id", ctx.inferenceRunId), ("score_job_id", ctx.scoreJobId)].filter
      fun entry => decide (entry.2 ≠ "")

end Context

/-- `j[key] = text` for each of the entries, in their order -/
def writeTexts (j : Fields R) (entries : List (String × String)) : Fields R :=
  entries.foldl (fun j entry => j.insert entry.1 (.string entry.2)) j

/-- `fields_[it.key()] = it.value()` for each of the fields -/
def merge (fields extra : Fields R) : Fields R :=
  extra.entries.foldl (fun j entry => j.insert entry.1 entry.2) fields

/-- The document of a line. -/
def document (level : LogLevel) (event component now : String) (fields : Fields R) (thread : Thread R) : Fields R :=
  let j := writeTexts fields [("ts", now), ("level", levelToString level), ("event", event), ("component", component)]
  if thread.contextSet then writeTexts j thread.context.entries else j

section Actions

/-- Whether `dump` writes a document, and what it throws for it otherwise. -/
structure Dump (R : Type) where
  writes : Fields R → Bool
  what : Fields R → String

variable (dump : Dump R)

def logEvent (level : LogLevel) (event component now : String) (fields : Fields R) : Action (Thread R) String :=
  fun thread =>
    let j := document level event component now fields thread
    if dump.writes j then ({ thread with lines := thread.lines ++ [j] }, .done) else (thread, .thrown (dump.what j))

/-- `SetContext`, which `UpdateContext` repeats. -/
def setContext (ctx : Context) (thread : Thread R) : Thread R := { thread with context := ctx, contextSet := true }

/-- The destructor of `ScopedContext` for the values that its constructor kept. -/
def restoreContext (entry thread : Thread R) : Thread R :=
  if entry.contextSet then { thread with context := entry.context, contextSet := true }
  else { thread with context := {}, contextSet := false }

def scopedContext (ctx : Context) (body : Action (Thread R) String) : Action (Thread R) String :=
  scope (modify (setContext ctx)) (fun entry thread => some (restoreContext entry thread)) body

/-- Something that happens to the innermost request. -/
def onRequest (f : RequestScope R → RequestScope R) (thread : Thread R) : Thread R :=
  { thread with scopes := thread.scopes.modifyHead f }

def addFields (extra : Fields R) : Action (Thread R) String :=
  modify (onRequest fun request => { request with fields := merge request.fields extra })

structure HttpErrorArgs where
  errorCode : String
  message : String
  statusCode : Int

/-- The fields of the error line. -/
def errorFields (request : RequestScope R) (args : HttpErrorArgs) (durationMs : R) : Fields R :=
  (((request.fields.insert "status_code" (.integer args.statusCode)).insert "duration_ms" (.number durationMs)).insert
    "error_code" (.string args.errorCode)).insert "error" (.string args.message)

def recordError (args : HttpErrorArgs) (now : String) (durationMs : R) : Action (Thread R) String := fun thread =>
  match thread.scopes with
  | [] => (thread, .done)
  | request :: _ =>
    if request.errorLogged then (thread, .done)
    else
      seq (logEvent dump .error "http_request_error" request.component now (errorFields request args durationMs))
        (modify (onRequest fun request => { request with errorLogged := true })) thread

/-- What a request brings, and what the clocks read at its two ends. -/
structure HttpRequestLogArgs (R : Type) where
  path : String
  method : String
  component : String
  requestId : String
  fields : Fields R
  status : Int
  startedAt : String
  endedAt : String
  durationMs : R

def startFields (args : HttpRequestLogArgs R) : Fields R :=
  let fields := ((∅ : Fields R).insert "route" (.string args.path)).insert "method" (.string args.method)
  merge (if args.requestId ≠ "" then fields.insert "request_id" (.string args.requestId) else fields) args.fields

/-- The constructor. When the line cannot be written, the context that it has set is restored. -/
def enterRequest (args : HttpRequestLogArgs R) : Action (Thread R) String := fun thread =>
  let set := setContext { requestId := args.requestId } thread
  let request : RequestScope R := ⟨args.component, startFields args, false, args.status⟩
  match logEvent dump .info "http_request_start" args.component args.startedAt (startFields args) set with
  | (began, .done) => ({ began with scopes := request :: began.scopes }, .done)
  | (failed, outcome) => (restoreContext thread failed, outcome)

/-- The destructor, from which no exception may escape. -/
def leaveRequest (args : HttpRequestLogArgs R) (entry thread : Thread R) : Option (Thread R) :=
  match thread.scopes with
  | [] => none
  | request :: outer =>
    if request.errorLogged then some (restoreContext entry { thread with scopes := outer })
    else
      let payload := (request.fields.insert "status_code" (.integer request.status)).insert "duration_ms"
        (.number args.durationMs)
      match logEvent dump .info "http_request_end" request.component args.endedAt payload thread with
      | (ended, .done) => some (restoreContext entry { ended with scopes := outer })
      | _ => none

def requestScope (args : HttpRequestLogArgs R) (body : Action (Thread R) String) : Action (Thread R) String :=
  scope (enterRequest dump args) (leaveRequest dump args) body

end Actions

/-! ## Handlers -/

/-- One path through a handler: what it logs, sets and throws, with its `try` blocks and scopes. -/
inductive Body (R : Type) where
  | skip
  | logEvent (level : LogLevel) (event component now : String) (fields : Fields R)
  | addFields (extra : Fields R)
  | recordError (args : HttpErrorArgs) (now : String) (durationMs : R)
  | setStatus (status : Int)
  | updateContext (ctx : Context)
  | throw_ (what : String)
  | seq (first second : Body R)
  | attempt (body : Body R) (handler : String → Body R)
  | scopedContext (ctx : Context) (body : Body R)

def Body.run (dump : Dump R) : Body R → Action (Thread R) String
  | .skip => Scopes.skip
  | .logEvent level event component now fields => Obs.logEvent dump level event component now fields
  | .addFields extra => Obs.addFields extra
  | .recordError args now durationMs => Obs.recordError dump args now durationMs
  | .setStatus status => modify (onRequest fun request => { request with status })
  | .updateContext ctx => modify (setContext ctx)
  | .throw_ what => Scopes.throw_ what
  | .seq first second => Scopes.seq (first.run dump) (second.run dump)
  | .attempt body handler => Scopes.attempt (body.run dump) fun what => (handler what).run dump
  | .scopedContext ctx body => Obs.scopedContext ctx (body.run dump)

/-- The server of the requests of one thread; it catches what a handler throws. -/
def serve (dump : Dump R) : List (HttpRequestLogArgs R × Body R) → Thread R → Option (Thread R)
  | [], thread => some thread
  | (args, body) :: rest, thread =>
    match requestScope dump args (body.run dump) thread with
    | (_, .aborted) => none
    | (next, _) => serve dump rest next

/-! ## What a line says -/

def textOf (key : String) (j : Fields R) : Option String :=
  match j.lookup key with
  | some (.string text) => some text
  | _ => none

def eventOf (j : Fields R) : Option String := textOf "event" j

/-- The events of a request that its scope writes. -/
def requestEvents : List String := ["http_request_start", "http_request_error", "http_request_end"]

def isStart (j : Fields R) : Bool := decide (eventOf j = some "http_request_start")

/-- The last line of a request. -/
def isClosing (j : Fields R) : Bool :=
  decide (eventOf j = some "http_request_error" ∨ eventOf j = some "http_request_end")

section Lines

variable {j fields : Fields R} {entries : List (String × String)} {key event component now : String} {level : LogLevel}
  {thread : Thread R}

theorem lookup_writeTexts (absent : key ∉ entries.map Prod.fst) : (writeTexts j entries).lookup key = j.lookup key := by
  induction entries generalizing j with
  | nil => rfl
  | cons entry rest ih =>
    rw [List.map_cons, List.mem_cons, not_or] at absent
    have later := ih (j := j.insert entry.1 (.string entry.2)) absent.2
    rw [AList.lookup_insert_ne absent.1] at later
    exact later

theorem entries_keys (ctx : Context) : ∀ key ∈ ctx.entries.map Prod.fst,
    key ∈ ["request_id", "trace_id", "user_id", "dataset_id", "model_run_id", "inference_run_id", "score_job_id"] := by
  intro key member
  obtain ⟨entry, listed, rfl⟩ := List.mem_map.mp member
  have whole := (List.mem_filter.mp listed).1
  simp only [List.mem_cons, List.not_mem_nil, or_false] at whole
  rcases whole with rfl | rfl | rfl | rfl | rfl | rfl | rfl <;> simp

theorem eventOf_document (level : LogLevel) (event component now : String) (fields : Fields R) (thread : Thread R) :
    eventOf (document level event component now fields thread) = some event := by
  have written : (writeTexts fields [("ts", now), ("level", levelToString level), ("event", event),
      ("component", component)]).lookup "event" = some (.string event) := by
    simp [writeTexts]
  have kept : (document level event component now fields thread).lookup "event" = some (.string event) := by
    rw [document]
    split
    · rw [lookup_writeTexts, written]
      intro member
      exact absurd (entries_keys thread.context "event" member) (by decide)
    · exact written
  rw [eventOf, textOf, kept]

/-- A line carries the request of the context. -/
theorem requestId_document (set : thread.contextSet = true) (named : thread.context.requestId ≠ "") :
    textOf "request_id" (document level event component now fields thread) = some thread.context.requestId := by
  have found : (document level event component now fields thread).lookup "request_id" =
      some (.string thread.context.requestId) := by
    rw [document, if_pos set, Context.entries, List.filter_cons_of_pos (by simpa using named)]
    rw [writeTexts, List.foldl_cons]
    refine (lookup_writeTexts ?_).trans (AList.lookup_insert _)
    intro member
    obtain ⟨entry, listed, same⟩ := List.mem_map.mp member
    have whole := (List.mem_filter.mp listed).1
    simp only [List.mem_cons, List.not_mem_nil, or_false] at whole
    rcases whole with rfl | rfl | rfl | rfl | rfl | rfl <;> simp at same
  rw [textOf, found]

end Lines

/-! ## Inside a request -/

/-- The handler keeps the request in every context that it sets, and leaves the events of the scope to the scope. -/
def Body.Follows (requestId : String) : Body R → Prop
  | .logEvent _ event _ _ _ => event ∉ requestEvents
  | .updateContext ctx => ctx.requestId = requestId
  | .seq first second => first.Follows requestId ∧ second.Follows requestId
  | .attempt body handler => body.Follows requestId ∧ ∀ what, (handler what).Follows requestId
  | .scopedContext ctx body => ctx.requestId = requestId ∧ body.Follows requestId
  | _ => True

/-- The lines of a request, from the constructor of its scope on. -/
structure Lines (start : Fields R) (requestId : String) (closed : Bool) (lines : List (Fields R)) : Prop where
  first : lines.head? = some start
  starts : lines.countP isStart = 1
  closings : lines.countP isClosing = if closed then 1 else 0
  named : requestId ≠ "" → ∀ line ∈ lines, textOf "request_id" line = some requestId

/-- A handler is running, above what the thread held before. -/
structure Running (entry : Thread R) (start : Fields R) (requestId : String) (thread : Thread R) : Prop where
  set : thread.contextSet = true
  named : thread.context.requestId = requestId
  stack : ∃ request lines, thread.scopes = request :: entry.scopes ∧ thread.lines = entry.lines ++ lines ∧
    Lines start requestId request.errorLogged lines

section Running

variable {dump : Dump R} {entry thread : Thread R} {start line : Fields R} {requestId event component now : String}
  {level : LogLevel} {fields : Fields R} {closed : Bool} {lines : List (Fields R)}

/-- A line between the first and the last one. -/
theorem Lines.append (begun : Lines start requestId closed lines) (notStart : isStart line = false)
    (named : requestId ≠ "" → textOf "request_id" line = some requestId) (once : closed = true → isClosing line = false) :
    Lines start requestId (closed || isClosing line) (lines ++ [line]) where
  first := by
    rw [List.head?_append, begun.first]
    rfl
  starts := by
    rw [List.countP_append, begun.starts, List.countP_singleton, notStart]
    rfl
  closings := by
    rw [List.countP_append, begun.closings, List.countP_singleton]
    cases closed with
    | true => simp [once rfl]
    | false => simp
  named := by
    intro some_ other member
    rcases List.mem_append.mp member with old | new
    · exact begun.named some_ other old
    · rw [List.mem_singleton.mp new]
      exact named some_

theorem Running.document_named (running : Running entry start requestId thread) (some_ : requestId ≠ "") :
    textOf "request_id" (document level event component now fields thread) = some requestId := by
  rw [requestId_document running.set (by rwa [running.named]), running.named]

theorem isStart_document (thread : Thread R) (other : event ≠ "http_request_start") :
    isStart (document level event component now fields thread) = false := by
  rw [isStart, eventOf_document, decide_eq_false_iff_not]
  simpa using other

theorem isClosing_document (thread : Thread R) : isClosing (document level event component now fields thread) =
    decide (event = "http_request_error" ∨ event = "http_request_end") := by
  rw [isClosing, eventOf_document]
  simp

theorem keeps_logEvent (own : event ∉ requestEvents) :
    Keeps (Running entry start requestId) (logEvent dump level event component now fields) := by
  intro thread running
  simp only [requestEvents, List.mem_cons, List.not_mem_nil, or_false, not_or] at own
  obtain ⟨request, lines, stack, written, begun⟩ := running.stack
  have other : isClosing (document level event component now fields thread) = false := by
    rw [isClosing_document]
    simp [own]
  have appended := begun.append (isStart_document thread own.1) running.document_named fun _ => other
  rw [other, Bool.or_false] at appended
  simp only [logEvent]
  split
  · refine ⟨running.set, running.named, request, _, stack, ?_, appended⟩
    rw [written, List.append_assoc]
  · exact running

theorem Running.onRequest {f : RequestScope R → RequestScope R} (same : ∀ request, (f request).errorLogged =
    request.errorLogged) (running : Running entry start requestId thread) :
    Running entry start requestId (onRequest f thread) := by
  obtain ⟨request, lines, stack, written, begun⟩ := running.stack
  refine ⟨running.set, running.named, f request, lines, ?_, written, ?_⟩
  · rw [Obs.onRequest, stack, List.modifyHead_cons]
  · rwa [same]

theorem keeps_recordError (args : HttpErrorArgs) (now : String) (durationMs : R) :
    Keeps (Running entry start requestId) (recordError dump args now durationMs) := by
  intro thread running
  obtain ⟨request, lines, stack, written, begun⟩ := running.stack
  rw [recordError, stack]
  by_cases logged : request.errorLogged = true
  · simpa [logged] using running
  · have open_ : request.errorLogged = false := by simpa using logged
    have marks : isClosing (document .error "http_request_error" request.component now
        (errorFields request args durationMs) thread) = true := by
      rw [isClosing_document]
      rfl
    have tagged : requestId ≠ "" → textOf "request_id" (document .error "http_request_error" request.component now
        (errorFields request args durationMs) thread) = some requestId := running.document_named
    have appended := begun.append (isStart_document thread (by decide : "http_request_error" ≠ "http_request_start"))
      tagged (fun closed => absurd closed logged)
    rw [marks, Bool.or_true] at appended
    simp only [open_, Bool.false_eq_true, if_false, Scopes.seq, logEvent]
    by_cases dumped : dump.writes (document .error "http_request_error" request.component now
        (errorFields request args durationMs) thread) = true
    · simp only [dumped, if_true, Scopes.modify, onRequest, stack, List.modifyHead_cons]
      refine ⟨running.set, running.named, _, _, rfl, ?_, appended⟩
      rw [written, List.append_assoc]
    · simpa only [dumped, Bool.false_eq_true, if_false] using running

theorem keeps_body {body : Body R} (follows : body.Follows requestId) :
    Keeps (Running entry start requestId) (body.run dump) := by
  induction body with
  | skip => exact Keeps.skip
  | logEvent level event component now fields => exact keeps_logEvent follows
  | addFields extra => exact Keeps.modify fun _ => Running.onRequest fun _ => rfl
  | recordError args now durationMs => exact keeps_recordError args now durationMs
  | setStatus status => exact Keeps.modify fun _ => Running.onRequest fun _ => rfl
  | updateContext ctx => exact Keeps.modify fun _ running => ⟨rfl, follows, running.stack⟩
  | throw_ what => exact Keeps.throw_ what
  | seq first second starts continues => exact Keeps.seq (starts follows.1) (continues follows.2)
  | attempt body handler tries catches => exact Keeps.attempt (tries follows.1) fun what => catches what (follows.2 what)
  | scopedContext ctx body runs =>
    apply Keeps.scope
    · exact Keeps.modify fun _ running => ⟨rfl, follows.1, running.stack⟩
    · exact runs follows.2
    · rintro before after _ outer inner ⟨⟩
      rw [restoreContext, if_pos outer.set]
      exact ⟨rfl, outer.named, inner.stack⟩

end Running

/-! ## Whole requests -/

/-- The first line of a request. -/
def startLine (args : HttpRequestLogArgs R) : Fields R :=
  document .info "http_request_start" args.component args.startedAt (startFields args)
    (setContext { requestId := args.requestId } {})

/-- The lines that a request leaves: none if the first one cannot be written. -/
def IsSegment (dump : Dump R) (args : HttpRequestLogArgs R) (lines : List (Fields R)) : Prop :=
  if dump.writes (startLine args) then Lines (startLine args) args.requestId true lines else lines = []

/-- Between two requests a thread has no context and no scope. -/
structure Idle (thread : Thread R) : Prop where
  context : thread.context = {}
  unset : thread.contextSet = false
  scopes : thread.scopes = []

/-- A request has been handled, above what the thread held before. -/
structure Handled (dump : Dump R) (args : HttpRequestLogArgs R) (entry thread : Thread R) : Prop where
  idle : Idle thread
  segment : ∃ lines, thread.lines = entry.lines ++ lines ∧ IsSegment dump args lines

section Requests

variable {dump : Dump R} {args : HttpRequestLogArgs R} {entry thread : Thread R} {body : Body R}

theorem restoreContext_idle (idle : Idle entry) (thread : Thread R) :
    restoreContext entry thread = { thread with context := {}, contextSet := false } := by
  rw [restoreContext, idle.unset]
  rfl

theorem begun (args : HttpRequestLogArgs R) : Lines (startLine args) args.requestId false [startLine args] where
  first := rfl
  starts := by
    rw [List.countP_singleton, isStart, startLine, eventOf_document]
    rfl
  closings := by
    rw [List.countP_singleton, startLine, isClosing_document]
    rfl
  named := by
    intro some_ line member
    rw [List.mem_singleton.mp member]
    exact requestId_document rfl some_

theorem enterRequest_eq (dump : Dump R) (args : HttpRequestLogArgs R) (thread : Thread R) :
    enterRequest dump args thread = if dump.writes (startLine args) then
      ({ setContext { requestId := args.requestId } thread with
          scopes := ⟨args.component, startFields args, false, args.status⟩ :: thread.scopes
          lines := thread.lines ++ [startLine args] }, .done)
    else (restoreContext thread (setContext { requestId := args.requestId } thread), .thrown (dump.what (startLine args))) := by
  have same : document .info "http_request_start" args.component args.startedAt (startFields args)
      (setContext { requestId := args.requestId } thread) = startLine args := rfl
  rw [enterRequest]
  simp only [logEvent, same]
  by_cases written : dump.writes (startLine args) = true
  · simp [written, setContext]
  · simp [written]

theorem enterRequest_running (written : dump.writes (startLine args) = true) (entry : Thread R) :
    Running entry (startLine args) args.requestId (enterRequest dump args entry).1 := by
  rw [enterRequest_eq, if_pos written]
  exact ⟨rfl, rfl, _, _, rfl, rfl, begun args⟩

/-- The destructor of the scope closes the request, or ends the process. -/
theorem leaveRequest_handled (idle : Idle entry) (written : dump.writes (startLine args) = true)
    (running : Running entry (startLine args) args.requestId thread) :
    ∀ after, leaveRequest dump args entry thread = some after → Handled dump args entry after := by
  obtain ⟨request, lines, stack, kept, lined⟩ := running.stack
  intro after left
  rw [leaveRequest, stack] at left
  by_cases logged : request.errorLogged = true
  · simp only [logged, if_true, restoreContext_idle idle] at left
    cases left
    rw [logged] at lined
    exact ⟨⟨rfl, rfl, idle.scopes⟩, lines, kept, by rwa [IsSegment, if_pos written]⟩
  · simp only [logged, Bool.false_eq_true, if_false] at left
    split at left
    next ended logs =>
      cases left
      rw [restoreContext_idle idle]
      rw [logEvent] at logs
      split at logs
      next =>
        cases logs
        have tagged : args.requestId ≠ "" → textOf "request_id" (document .info "http_request_end" request.component
            args.endedAt ((request.fields.insert "status_code" (.integer request.status)).insert "duration_ms"
              (.number args.durationMs)) thread) = some args.requestId := running.document_named
        have appended := lined.append (isStart_document thread (by decide : "http_request_end" ≠ "http_request_start"))
          tagged (fun closed => absurd closed logged)
        rw [isClosing_document, decide_eq_true (Or.inr rfl), Bool.or_true] at appended
        refine ⟨⟨rfl, rfl, idle.scopes⟩, _, ?_, by rwa [IsSegment, if_pos written]⟩
        rw [kept, List.append_assoc]
      next => cases logs
    next => cases left

theorem requestScope_handled (dump : Dump R) (idle : Idle entry) (follows : body.Follows args.requestId)
    (alive : (requestScope dump args (body.run dump) entry).2 ≠ .aborted) :
    Handled dump args entry (requestScope dump args (body.run dump) entry).1 := by
  by_cases written : dump.writes (startLine args) = true
  · have triple : Triple (fun t => t = entry) (requestScope dump args (body.run dump)) fun outcome t =>
        outcome ≠ .aborted → Handled dump args entry t := by
      apply Triple.scope (M := fun outcome t => outcome = .done ∧ Running entry (startLine args) args.requestId t)
        (Q := fun _ t => Running entry (startLine args) args.requestId t)
      · rintro t rfl
        refine ⟨?_, enterRequest_running written t⟩
        rw [enterRequest_eq, if_pos written]
      · exact fun t running => keeps_body follows t running.2
      · exact fun outcome t failed running => absurd running.1 failed
      · intro outcome t _ running
        cases left : leaveRequest dump args entry t with
        | none => exact fun survives => absurd rfl survives
        | some after => exact fun _ => leaveRequest_handled idle written running after left
      · exact fun _ _ survives => absurd rfl survives
    exact triple entry rfl alive
  · have failed : requestScope dump args (body.run dump) entry = (entry, .thrown (dump.what (startLine args))) := by
      rw [requestScope, scope, enterRequest_eq, if_neg written, restoreContext_idle idle]
      simp [setContext, ← idle.context, ← idle.unset]
    rw [failed]
    exact ⟨idle, [], (List.append_nil _).symm, by rw [IsSegment, if_neg written]⟩

theorem lives_logEvent (dump : Dump R) (level : LogLevel) (event component now : String) (fields : Fields R) :
    Lives (logEvent dump level event component now fields) := by
  intro thread
  rw [logEvent]
  split <;> nofun

/-- A handler does not end the process. -/
theorem lives_body (dump : Dump R) (body : Body R) : Lives (body.run dump) := by
  induction body with
  | skip => exact Lives.skip
  | logEvent level event component now fields => exact lives_logEvent dump level event component now fields
  | addFields extra => exact Lives.modify _
  | recordError args now durationMs =>
    intro thread
    simp only [Body.run, recordError]
    split
    · nofun
    · split
      · nofun
      · exact (lives_logEvent dump _ _ _ _ _).seq (Lives.modify _) thread
  | setStatus status => exact Lives.modify _
  | updateContext ctx => exact Lives.modify _
  | throw_ what => exact Lives.throw_ what
  | seq first second starts continues => exact starts.seq continues
  | attempt body handler tries catches => exact tries.attempt catches
  | scopedContext ctx body runs =>
    exact Lives.scope (I := fun _ _ => True) (Lives.modify _) (fun _ _ => trivial) runs (fun _ _ _ => trivial) fun _ _ _ => nofun

/-- Only a line that cannot be written ends the process. -/
theorem lives_requestScope (writes : ∀ j, dump.writes j = true) (follows : body.Follows args.requestId) :
    Lives (requestScope dump args (body.run dump)) := by
  apply Lives.scope (I := fun entry thread => Running entry (startLine args) args.requestId thread)
  · intro thread
    rw [enterRequest_eq, if_pos (writes _)]
    nofun
  · exact fun thread _ => enterRequest_running (writes _) thread
  · exact lives_body dump body
  · exact fun _ => keeps_body follows
  · intro entry thread running
    obtain ⟨request, lines, stack, -⟩ := running.stack
    rw [leaveRequest, stack]
    by_cases logged : request.errorLogged = true
    · simp [logged]
    · simp [logged, logEvent, writes]

end Requests

theorem serve_segments {dump : Dump R} {requests : List (HttpRequestLogArgs R × Body R)} {thread final : Thread R}
    (idle : Idle thread) (follows : ∀ request ∈ requests, request.2.Follows request.1.requestId)
    (served : serve dump requests thread = some final) :
    Idle final ∧ ∃ segments, final.lines = thread.lines ++ segments.flatten ∧
      List.Forall₂ (fun request lines => IsSegment dump request.1 lines) requests segments := by
  induction requests generalizing thread with
  | nil =>
    cases served
    exact ⟨idle, [], by simp, .nil⟩
  | cons request rest ih =>
    have handled := requestScope_handled dump idle (follows request List.mem_cons_self)
    rw [serve] at served
    rcases ran : requestScope dump request.1 (request.2.run dump) thread with ⟨next, outcome⟩
    rw [ran] at handled served
    have alive : outcome ≠ .aborted := by
      rintro rfl
      cases served
    obtain ⟨idleNext, lines, written, segment⟩ := handled alive
    have continued : serve dump rest next = some final := by
      cases outcome with
      | done => exact served
      | thrown what => exact served
      | aborted => exact absurd rfl alive
    obtain ⟨idleFinal, segments, kept, each⟩ := ih idleNext (fun other member => follows other
      (List.mem_cons_of_mem request member)) continued
    refine ⟨idleFinal, lines :: segments, ?_, .cons segment each⟩
    rw [kept, written, List.flatten_cons, List.append_assoc]

theorem serve_isSome {dump : Dump R} (writes : ∀ j, dump.writes j = true)
    {requests : List (HttpRequestLogArgs R × Body R)} (thread : Thread R)
    (follows : ∀ request ∈ requests, request.2.Follows request.1.requestId) : (serve dump requests thread).isSome := by
  induction requests generalizing thread with
  | nil => rfl
  | cons request rest ih =>
    have lives := lives_requestScope writes (follows request List.mem_cons_self) thread
    rw [serve]
    split
    next _ aborted => exact absurd (congrArg Prod.snd aborted) lives
    next next _ _ _ => exact ih next fun other member => follows other (List.mem_cons_of_mem request member)

/-- On a thread that serves requests one after the other the log falls into their segments, each with one
first line, one last line and, if the request has an id, with its id in every line. -/
theorem request_log_segmented (dump : Dump R) {requests : List (HttpRequestLogArgs R × Body R)}
    (follows : ∀ request ∈ requests, request.2.Follows request.1.requestId) :
    ((∀ j, dump.writes j = true) → (serve dump requests {}).isSome) ∧
    ∀ final, serve dump requests {} = some final → Idle final ∧ ∃ segments : List (List (Fields R)),
      final.lines = segments.flatten ∧
      List.Forall₂ (fun request lines => IsSegment dump request.1 lines) requests segments := by
  constructor
  · exact fun writes => serve_isSome writes {} follows
  · intro final served
    obtain ⟨idle, segments, written, each⟩ := serve_segments ⟨rfl, rfl, rfl⟩ follows served
    exact ⟨idle, segments, written, each⟩

/-- A request whose query throws, which the handler records as an error. -/
def failingRequest : HttpRequestLogArgs Int × Body Int :=
  (⟨"/datasets/d/summary", "GET", "api_server", "r", ∅, 200, "2026-01-01T00:00:00.000Z", "2026-01-01T00:00:00.005Z", 5⟩,
    .seq (.addFields ((∅ : Fields Int).insert "dataset_id" (.string "d")))
      (.attempt (.throw_ "connection lost") fun what =>
        .recordError ⟨"E_DB_QUERY_FAILED", what, 500⟩ "2026-01-01T00:00:00.004Z" 4))

theorem request_log_segmented_failing : ∃ final, serve ⟨fun _ => true, fun _ => ""⟩ [failingRequest] {} = some final ∧
    Idle final ∧ final.lines.countP isClosing = 1 := by
  have follows : ∀ request ∈ [failingRequest], request.2.Follows request.1.requestId := by
    intro request member
    rw [List.mem_singleton.mp member]
    exact ⟨trivial, trivial, fun _ => trivial⟩
  obtain ⟨answers, segmented⟩ := request_log_segmented ⟨fun _ => true, fun _ => ""⟩ follows
  obtain ⟨final, served⟩ := Option.isSome_iff_exists.mp (answers fun _ => rfl)
  obtain ⟨idle, segments, written, each⟩ := segmented final served
  refine ⟨final, served, idle, ?_⟩
  obtain ⟨lines, rest, segment, none_, rfl⟩ := List.forall₂_cons_left_iff.mp each
  rw [List.forall₂_nil_left_iff.mp none_] at written
  rw [written, List.flatten_cons, List.flatten_nil, List.append_nil]
  exact segment.closings

end TelemetryLab.Obs
