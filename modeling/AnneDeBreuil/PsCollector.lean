import AnneDeBreuil.PsPayload
import AnneDeBreuil.Runs
import Mathlib.Logic.Function.Basic

namespace AnneDeBreuil

/-- The `CollectError`s of the collector, a parse failure with its own text. -/
inductive CollectorError
  | spawn (text : String)
  | timeout (nanos : Nat)
  | parse (text : String)
deriving DecidableEq, Repr

/-- The calls of the ports that are answered from the payload. -/
inductive CollectorCall
  | listeningEndpoints
  | describe (pid : ProcessId)
  | hostedServices (pid : ProcessId)
  | inboundRules
  | profiles
deriving DecidableEq, Repr

inductive CollectorReply
  | endpoints (endpoints : List RawEndpoint)
  | process (process : Option RawProcess)
  | services (services : List RawService)
  | rules (rules : List RawRule)
  | profiles (profiles : List RawProfile)
deriving DecidableEq, Repr

def CollectorCall.answer (payload : PowerShellPayload) : CollectorCall → CollectorReply
  | .listeningEndpoints => .endpoints (payload.tcpEndpoints ++ payload.udpEndpoints)
  | .describe pid => .process (payload.processes.find? fun process => process.pid == pid.get)
  | .hostedServices pid =>
    .services ((payload.services.filter fun hosted => hosted.processId == pid.get).map HostedService.service)
  | .inboundRules => .rules (payload.firewallRules.filter fun rule => eqIgnoreAsciiCase rule.direction "inbound")
  | .profiles => .profiles payload.firewallProfiles

/-- What becomes of a child that was spawned: it is killed when its time is over, cannot be waited for,
exits without success, or leaves a file, which may be unreadable. -/
inductive ScriptOutcome
  | timedOut
  | waitFailed (message : String)
  | exited (status : String) (stderr : Utf8)
  | unreadable (message : String)
  | wrote (bytes : Utf8)
deriving DecidableEq, Repr

/-- `run_script` behind the spawn. -/
def runScript (timeout : Nat) : ScriptOutcome → Except CollectorError Utf8
  | .timedOut => .error (.timeout timeout)
  | .waitFailed message => .error (.spawn message)
  | .exited status stderr =>
    let stderrText := trim (String.ofList (fromUtf8Lossy none stderr))
    .error (.spawn (if stderrText = "" then "powershell exited with " ++ status
      else "powershell exited with " ++ status ++ ": " ++ stderrText))
  | .unreadable message => .error (.parse message)
  | .wrote bytes => .ok (stripBom bytes)

/-- Where a call stands; `missed` has seen that there is nothing cached. -/
inductive PayloadPhase
  | idle
  | started
  | missed
  | running
  | parsed (payload : PowerShellPayload)
  | returned (result : Except CollectorError CollectorReply)
  | dropped
deriving DecidableEq

inductive PayloadEvent
  | start
  | check
  | spawn (refusal : Option String)
  | finish (outcome : ScriptOutcome)
  | store
  | drop
deriving DecidableEq, Repr

structure CollectorState (ι : Type) where
  cached : Option PowerShellPayload
  phase : ι → PayloadPhase

def CollectorState.initial (ι : Type) : CollectorState ι := ⟨none, fun _ => .idle⟩

section

variable (crates : PayloadCrates) (timeout : Nat)

def payloadOf (outcome : ScriptOutcome) : Except CollectorError PowerShellPayload :=
  (runScript timeout outcome).bind fun bytes => (parsePayload crates bytes).mapError .parse

/-- `payload`, up to the next time others may come in between; the cache is locked for the check and
for the store, each by itself. -/
def payloadStep (call : CollectorCall) (cached : Option PowerShellPayload) :
    PayloadPhase → PayloadEvent → Option (PayloadPhase × Option PowerShellPayload)
  | .idle, .start => some (.started, cached)
  | .started, .check =>
    match cached with
    | some payload => some (.returned (.ok (call.answer payload)), cached)
    | none => some (.missed, cached)
  | .missed, .spawn (some message) => some (.returned (.error (.spawn message)), cached)
  | .missed, .spawn none => some (.running, cached)
  | .running, .finish outcome =>
    match payloadOf crates timeout outcome with
    | .error e => some (.returned (.error e), cached)
    | .ok parsed => some (.parsed parsed, cached)
  | .parsed parsed, .store =>
    -- `get_or_insert_with`
    let winner := cached.getD parsed
    some (.returned (.ok (call.answer winner)), some winner)
  | .started, .drop | .missed, .drop | .running, .drop | .parsed _, .drop => some (.dropped, cached)
  | _, _ => none

/-- One step of one call; the label is the call and what happens to it. -/
def collectorStep {ι : Type} [DecidableEq ι] (calls : ι → CollectorCall) (s : CollectorState ι)
    (label : ι × PayloadEvent) : Option (CollectorState ι) :=
  (payloadStep crates timeout (calls label.1) s.cached (s.phase label.1) label.2).map fun next =>
    ⟨next.2, Function.update s.phase label.1 next.1⟩

/-- The failure of a run, if this event is one. -/
def PayloadEvent.failure : PayloadEvent → Option CollectorError
  | .spawn (some message) => some (.spawn message)
  | .finish outcome =>
    match payloadOf crates timeout outcome with
    | .error e => some e
    | .ok _ => none
  | _ => none

/-- What the calls on one collector agree on. -/
structure OnePointInTime {ι : Type} [DecidableEq ι] (calls : ι → CollectorCall)
    (trace : List (CollectorState ι × (ι × PayloadEvent))) (s : CollectorState ι) : Prop where
  answered : ∀ i reply, s.phase i = .returned (.ok reply) →
    ∃ payload, s.cached = some payload ∧ reply = (calls i).answer payload
  parsed : ∀ payload, s.cached = some payload → ∃ i outcome, payloadOf crates timeout outcome = .ok payload ∧
    (∃ p ∈ trace, p.2 = (i, .finish outcome)) ∧ ∃ p ∈ trace, p.2 = (i, .store) ∧ p.1.cached = none
  kept : ∀ p ∈ trace, ∀ payload, p.1.cached = some payload → s.cached = some payload
  failed : ∀ p ∈ trace, ∀ e, p.2.2.failure crates timeout = some e → s.phase p.2.1 = .returned (.error e) ∧
    ∀ q ∈ trace, q.2.1 = p.2.1 → ∀ after, collectorStep crates timeout calls q.1 q.2 = some after →
      after.cached = q.1.cached
  reused : ∀ p ∈ trace, p.2.2 = .start → (∃ j reply, p.1.phase j = .returned (.ok reply)) →
    ∀ q ∈ trace, q.2.1 = p.2.1 → ∀ refusal, q.2.2 ≠ .spawn refusal

end

/-- No script can come of a call that stands here, once there is a payload. -/
def PayloadPhase.Quiet : PayloadPhase → Prop
  | .started | .returned _ | .dropped => True
  | .idle | .missed | .running | .parsed _ => False

/-- What one step of a call can do. -/
inductive PayloadMove (crates : PayloadCrates) (timeout : Nat) (call : CollectorCall) (cached : Option PowerShellPayload) :
    PayloadPhase → PayloadEvent → PayloadPhase → Option PowerShellPayload → Prop
  | start : PayloadMove crates timeout call cached .idle .start .started cached
  | hit {payload : PowerShellPayload} (held : cached = some payload) :
      PayloadMove crates timeout call cached .started .check (.returned (.ok (call.answer payload))) cached
  | miss (empty : cached = none) : PayloadMove crates timeout call cached .started .check .missed cached
  | refused {message : String} :
      PayloadMove crates timeout call cached .missed (.spawn (some message)) (.returned (.error (.spawn message))) cached
  | spawned : PayloadMove crates timeout call cached .missed (.spawn none) .running cached
  | failed {outcome : ScriptOutcome} {e : CollectorError} (error : payloadOf crates timeout outcome = .error e) :
      PayloadMove crates timeout call cached .running (.finish outcome) (.returned (.error e)) cached
  | parsed {outcome : ScriptOutcome} {payload : PowerShellPayload} (ok : payloadOf crates timeout outcome = .ok payload) :
      PayloadMove crates timeout call cached .running (.finish outcome) (.parsed payload) cached
  | stored {payload : PowerShellPayload} (empty : cached = none) :
      PayloadMove crates timeout call cached (.parsed payload) .store (.returned (.ok (call.answer payload))) (some payload)
  | beaten {payload winner : PowerShellPayload} (held : cached = some winner) :
      PayloadMove crates timeout call cached (.parsed payload) .store (.returned (.ok (call.answer winner))) cached
  | dropped {phase : PayloadPhase} (begun : phase ≠ .idle) (waits : ∀ result, phase ≠ .returned result) :
      PayloadMove crates timeout call cached phase .drop .dropped cached

section

variable {crates : PayloadCrates} {timeout : Nat} {call : CollectorCall} {cached cached' : Option PowerShellPayload}
  {phase phase' : PayloadPhase} {event : PayloadEvent}

theorem payloadStep_moves (h : payloadStep crates timeout call cached phase event = some (phase', cached')) :
    PayloadMove crates timeout call cached phase event phase' cached' := by
  unfold payloadStep at h
  split at h
  next => cases h; exact .start
  next =>
    split at h
    next held => cases h; exact .hit rfl
    next => cases h; exact .miss rfl
  next => cases h; exact .refused
  next => cases h; exact .spawned
  next =>
    split at h
    next error => cases h; exact .failed error
    next ok => cases h; exact .parsed ok
  next =>
    cases h
    cases cached with
    | none => exact .stored rfl
    | some winner => exact .beaten rfl
  next => cases h; exact .dropped nofun nofun
  next => cases h; exact .dropped nofun nofun
  next => cases h; exact .dropped nofun nofun
  next => cases h; exact .dropped nofun nofun
  next => cases h

namespace PayloadMove

/-- Only a store that finds nothing cached changes the cache. -/
theorem cache (move : PayloadMove crates timeout call cached phase event phase' cached') : cached' = cached ∨
    cached = none ∧ event = .store ∧ ∃ payload, phase = .parsed payload ∧ cached' = some payload := by
  cases move with
  | stored empty => exact .inr ⟨empty, rfl, _, rfl, rfl⟩
  | start | hit | miss | refused | spawned | failed | parsed | beaten | dropped => exact .inl rfl

theorem keeps {payload : PowerShellPayload} (move : PayloadMove crates timeout call cached phase event phase' cached')
    (held : cached = some payload) : cached' = some payload := by
  rcases move.cache with same | ⟨empty, -⟩
  · rw [same, held]
  · rw [held] at empty
    cases empty

theorem answered {reply : CollectorReply}
    (move : PayloadMove crates timeout call cached phase event (.returned (.ok reply)) cached') :
    ∃ payload, cached' = some payload ∧ reply = call.answer payload := by
  cases move with
  | hit held => exact ⟨_, held, rfl⟩
  | stored empty => exact ⟨_, rfl, rfl⟩
  | beaten held => exact ⟨_, held, rfl⟩

theorem not_returned {result : Except CollectorError CollectorReply} :
    ¬PayloadMove crates timeout call cached (.returned result) event phase' cached' := by
  intro move
  cases move with
  | dropped begun waits => exact waits result rfl

theorem not_idle (move : PayloadMove crates timeout call cached phase event phase' cached') : phase' ≠ .idle := by
  cases move <;> nofun

theorem starts (move : PayloadMove crates timeout call cached phase event phase' cached') (h : event = .start) :
    phase = .idle ∧ phase'.Quiet := by
  cases move with
  | start => exact ⟨rfl, trivial⟩
  | hit | miss | refused | spawned | failed | parsed | stored | beaten | dropped => cases h

theorem finished {payload : PowerShellPayload}
    (move : PayloadMove crates timeout call cached phase event (.parsed payload) cached') :
    ∃ outcome, event = .finish outcome ∧ payloadOf crates timeout outcome = .ok payload := by
  cases move with
  | parsed ok => exact ⟨_, rfl, ok⟩

theorem failure {e : CollectorError} (move : PayloadMove crates timeout call cached phase event phase' cached')
    (h : event.failure crates timeout = some e) : phase' = .returned (.error e) := by
  cases move with
  | refused =>
    cases h
    rfl
  | failed error =>
    rw [PayloadEvent.failure, error] at h
    cases h
    rfl
  | parsed ok =>
    rw [PayloadEvent.failure, ok] at h
    cases h
  | start | hit | miss | spawned | stored | beaten | dropped => cases h

theorem store (move : PayloadMove crates timeout call cached phase event phase' cached') (h : event = .store) :
    ∃ reply, phase' = .returned (.ok reply) := by
  cases move with
  | stored | beaten => exact ⟨_, rfl⟩
  | start | hit | miss | refused | spawned | failed | parsed | dropped => cases h

theorem quiet {payload : PowerShellPayload} (move : PayloadMove crates timeout call cached phase event phase' cached')
    (held : cached = some payload) (h : phase.Quiet) : phase'.Quiet ∧ ∀ refusal, event ≠ .spawn refusal := by
  cases move with
  | hit | dropped => exact ⟨trivial, nofun⟩
  | miss empty =>
    rw [empty] at held
    cases held
  | start | refused | spawned | failed | parsed | stored | beaten => cases h

end PayloadMove

end

section

variable {crates : PayloadCrates} {timeout : Nat} {ι : Type} [DecidableEq ι] {calls : ι → CollectorCall}
  {s t : CollectorState ι} {label : ι × PayloadEvent} {trace : List (CollectorState ι × (ι × PayloadEvent))}

theorem collectorStep_moves (h : collectorStep crates timeout calls s label = some t) :
    PayloadMove crates timeout (calls label.1) s.cached (s.phase label.1) label.2 (t.phase label.1) t.cached ∧
      ∀ j, j ≠ label.1 → t.phase j = s.phase j := by
  obtain ⟨⟨phase, cached⟩, moved, rfl⟩ := Option.map_eq_some_iff.mp h
  refine ⟨?_, fun j other => Function.update_of_ne other _ _⟩
  dsimp only
  rw [Function.update_self]
  exact payloadStep_moves moved

theorem collectorStep_returned {i : ι} {result : Except CollectorError CollectorReply} (h : s.phase i = .returned result)
    (next : collectorStep crates timeout calls s label = some t) : t.phase i = .returned result := by
  obtain ⟨move, others⟩ := collectorStep_moves next
  by_cases same : i = label.1
  · subst same
    rw [h] at move
    exact absurd move PayloadMove.not_returned
  · rw [others i same, h]

theorem answered_run (run : Run (collectorStep crates timeout calls) (.initial ι) trace s) {i : ι} {reply : CollectorReply}
    (h : s.phase i = .returned (.ok reply)) : ∃ payload, s.cached = some payload ∧ reply = (calls i).answer payload := by
  induction run with
  | refl => cases h
  | @snoc trace s t label before next ih =>
    obtain ⟨move, others⟩ := collectorStep_moves next
    by_cases same : i = label.1
    · subst same
      rw [h] at move
      exact move.answered
    · rw [others i same] at h
      obtain ⟨payload, held, reply⟩ := ih h
      exact ⟨payload, move.keeps held, reply⟩

theorem kept_run (run : Run (collectorStep crates timeout calls) s trace t) {payload : PowerShellPayload}
    (held : s.cached = some payload) : t.cached = some payload :=
  run.always (fun s => s.cached = some payload) held fun _ _ _ held next => (collectorStep_moves next).1.keeps held

theorem returned_run (run : Run (collectorStep crates timeout calls) s trace t) {i : ι}
    {result : Except CollectorError CollectorReply} (h : s.phase i = .returned result) : t.phase i = .returned result :=
  run.always (fun s => s.phase i = .returned result) h fun _ _ _ h next => collectorStep_returned h next

/-- A call that waits to store has parsed what its own run wrote. -/
theorem parsed_run (run : Run (collectorStep crates timeout calls) (.initial ι) trace s) {i : ι} {payload : PowerShellPayload}
    (h : s.phase i = .parsed payload) :
    ∃ outcome, payloadOf crates timeout outcome = .ok payload ∧ ∃ p ∈ trace, p.2 = (i, .finish outcome) := by
  induction run with
  | refl => cases h
  | @snoc trace s t label before next ih =>
    obtain ⟨move, others⟩ := collectorStep_moves next
    by_cases same : i = label.1
    · subst same
      rw [h] at move
      obtain ⟨outcome, finished, ok⟩ := move.finished
      exact ⟨outcome, ok, _, List.mem_append_right _ List.mem_cons_self, Prod.ext rfl finished⟩
    · rw [others i same] at h
      obtain ⟨outcome, ok, p, hp, finished⟩ := ih h
      exact ⟨outcome, ok, p, List.mem_append_left _ hp, finished⟩

theorem cached_run (run : Run (collectorStep crates timeout calls) (.initial ι) trace s) {payload : PowerShellPayload}
    (h : s.cached = some payload) : ∃ i outcome, payloadOf crates timeout outcome = .ok payload ∧
      (∃ p ∈ trace, p.2 = (i, .finish outcome)) ∧ ∃ p ∈ trace, p.2 = (i, .store) ∧ p.1.cached = none := by
  induction run with
  | refl => cases h
  | @snoc trace s t label before next ih =>
    rcases (collectorStep_moves next).1.cache with same | ⟨empty, store, parsed, waits, stored⟩
    · rw [same] at h
      obtain ⟨i, outcome, ok, ⟨p, hp, finished⟩, q, hq, stored⟩ := ih h
      exact ⟨i, outcome, ok, ⟨p, List.mem_append_left _ hp, finished⟩, q, List.mem_append_left _ hq, stored⟩
    · obtain rfl : parsed = payload := Option.some.inj (stored.symm.trans h)
      obtain ⟨outcome, ok, p, hp, finished⟩ := parsed_run before waits
      exact ⟨label.1, outcome, ok, ⟨p, List.mem_append_left _ hp, finished⟩, _,
        List.mem_append_right _ List.mem_cons_self, Prod.ext rfl store, empty⟩

/-- A call whose run failed has returned the error, and has left the cache as it was. -/
theorem failed_run (run : Run (collectorStep crates timeout calls) (.initial ι) trace s)
    {p q : CollectorState ι × (ι × PayloadEvent)} {e : CollectorError} {after : CollectorState ι} (hp : p ∈ trace)
    (failure : p.2.2.failure crates timeout = some e) (hq : q ∈ trace) (same : q.2.1 = p.2.1)
    (next : collectorStep crates timeout calls q.1 q.2 = some after) :
    s.phase p.2.1 = .returned (.error e) ∧ after.cached = q.1.cached := by
  obtain ⟨u, hu, later, rest⟩ := run.behind hp
  have failed := returned_run rest ((collectorStep_moves hu).1.failure failure)
  refine ⟨failed, ?_⟩
  rcases (collectorStep_moves next).1.cache with unchanged | ⟨-, store, -⟩
  · exact unchanged
  · obtain ⟨v, hv, later', rest'⟩ := run.behind hq
    obtain ⟨reply, answered⟩ := (collectorStep_moves hv).1.store store
    have returned := returned_run rest' answered
    rw [same, failed] at returned
    cases returned

/-- Once there is a payload, a call that starts runs no script. -/
theorem reused_run (run : Run (collectorStep crates timeout calls) (.initial ι) trace s)
    {p q : CollectorState ι × (ι × PayloadEvent)} {payload : PowerShellPayload} (hp : p ∈ trace) (start : p.2.2 = .start)
    (held : p.1.cached = some payload) (hq : q ∈ trace) (same : q.2.1 = p.2.1) (refusal : Option String) :
    q.2.2 ≠ .spawn refusal := by
  rcases run.order hp hq with rfl | ⟨u, hu, between, rest⟩ | ⟨u, hu, between, rest⟩
  · rw [start]
    nofun
  · -- from its start on the call is quiet
    have quiet : q.1.cached = some payload ∧ (q.1.phase p.2.1).Quiet := by
      refine rest.always (fun s => s.cached = some payload ∧ (s.phase p.2.1).Quiet) ?_ ?_
      · obtain ⟨move, -⟩ := collectorStep_moves hu
        exact ⟨move.keeps held, (move.starts start).2⟩
      · rintro s label t ⟨held, quiet⟩ next
        obtain ⟨move, others⟩ := collectorStep_moves next
        refine ⟨move.keeps held, ?_⟩
        by_cases moves : p.2.1 = label.1
        · rw [moves] at quiet ⊢
          exact (move.quiet held quiet).1
        · rwa [others _ moves]
    obtain ⟨v, hv, -⟩ := run.behind hq
    rw [← same] at quiet
    exact ((collectorStep_moves hv).1.quiet quiet.1 quiet.2).2 refusal
  · -- nothing comes before the start
    have begun : p.1.phase p.2.1 ≠ .idle := by
      refine rest.always (fun s => s.phase p.2.1 ≠ .idle) ?_ ?_
      · rw [← same]
        exact (collectorStep_moves hu).1.not_idle
      · intro s label t begun next
        obtain ⟨move, others⟩ := collectorStep_moves next
        by_cases moves : p.2.1 = label.1
        · rw [moves]
          exact move.not_idle
        · rwa [others _ moves]
    obtain ⟨v, hv, -⟩ := run.behind hp
    exact absurd ((collectorStep_moves hv).1.starts start).1 begun

end

/-- The calls on one collector are answered from one payload, whatever becomes of their scripts. -/
theorem onePointInTime {crates : PayloadCrates} {timeout : Nat} {ι : Type} [DecidableEq ι] {calls : ι → CollectorCall}
    {trace : List (CollectorState ι × (ι × PayloadEvent))} {s : CollectorState ι}
    (run : Run (collectorStep crates timeout calls) (.initial ι) trace s) :
    OnePointInTime crates timeout calls trace s where
  answered _ _ h := answered_run run h
  parsed _ h := cached_run run h
  kept p hp payload held := by
    obtain ⟨u, hu, later, rest⟩ := run.behind hp
    exact kept_run rest ((collectorStep_moves hu).1.keeps held)
  failed p hp e failure := by
    obtain ⟨u, hu, -⟩ := run.behind hp
    exact ⟨(failed_run run hp failure hp rfl hu).1, fun q hq same after next => (failed_run run hp failure hq same next).2⟩
  reused p hp start returned q hq same refusal := by
    obtain ⟨j, reply, returned⟩ := returned
    obtain ⟨before, run'⟩ := run.upTo hp
    obtain ⟨payload, held, -⟩ := answered_run run' returned
    exact reused_run run hp start held hq same refusal

def readerOfTwo (first second : PsPayload) : PayloadCrates :=
  { readerOf first with
    read := fun text => if text = second.toJson.print then .ok second.toJson else (readerOf first).read text }

theorem readerOfTwo_reads_second (first second : PsPayload) :
    (readerOfTwo first second).read second.toJson.print = .ok second.toJson := by
  simp [readerOfTwo]

theorem readerOfTwo_reads_first {first second : PsPayload} (apart : first.toJson.print ≠ second.toJson.print) :
    (readerOfTwo first second).read first.toJson.print = .ok first.toJson := by
  simp [readerOfTwo, apart, readerOf_reads]

def rivalReader : PayloadCrates := readerOfTwo (oneProcess "First") (oneProcess "Second")

/-- Two scripts run at a time, and the second one's payload is the first to be stored. -/
def rivalEvents (first second : ScriptOutcome) : List (Bool × PayloadEvent) :=
  [(false, .start), (true, .start), (false, .check), (true, .check), (false, .spawn none), (true, .spawn none),
    (true, .finish second), (true, .store), (false, .finish first), (false, .store)]

theorem runList_rivalEvents {crates : PayloadCrates} {timeout : Nat} {calls : Bool → CollectorCall}
    {first second : ScriptOutcome} {payload winner : PowerShellPayload}
    (hfirst : payloadOf crates timeout first = .ok payload) (hsecond : payloadOf crates timeout second = .ok winner) :
    ∃ s, runList (collectorStep crates timeout calls) (.initial Bool) (rivalEvents first second) = some s ∧
      s.phase false = .returned (.ok ((calls false).answer winner)) := by
  simp [rivalEvents, runList, collectorStep, payloadStep, Function.update, CollectorState.initial, hfirst, hsecond]

theorem payloadOf_print {crates : PayloadCrates} {envelope : PsPayload} (timeout : Nat)
    (name : envelope.schemaName = supportedSchemaName) (version : envelope.schemaVersion = supportedSchemaVersion)
    (decodes : crates.read envelope.toJson.print = .ok envelope.toJson) (unmarked : envelope.Unmarked) :
    payloadOf crates timeout (.wrote (utf8 envelope.toJson.print)) = .ok envelope.intoPayload := by
  have opens : stripBom (utf8 envelope.toJson.print) = utf8 envelope.toJson.print := if_neg (not_bom_print envelope.members)
  have parses := (parsePayload_print name version decodes false).mpr unmarked
  rw [if_neg Bool.false_ne_true, List.nil_append] at parses
  rw [payloadOf, runScript, Except.bind, opens, parses, Except.mapError]

theorem oneProcess_print_ne : (oneProcess "First").toJson.print ≠ (oneProcess "Second").toJson.print := by
  intro same
  have printable : Printable 'F' "irst".toList := .of_all (by decide) (by decide)
  have stands := (Json.infix_print_iff printable (oneProcess "First").toJson).mpr (by decide)
  rw [same, Json.infix_print_iff printable] at stands
  revert stands
  decide

theorem onePointInTime_rivals : ∃ trace s,
    Run (collectorStep rivalReader 60 fun _ => .describe ⟨1048⟩) (.initial Bool) trace s ∧
    OnePointInTime rivalReader 60 (fun _ => .describe ⟨1048⟩) trace s ∧
    s.phase false = .returned (.ok (.process (some ⟨1048, none, some "Second"⟩))) := by
  have first : payloadOf rivalReader 60 (.wrote (utf8 (oneProcess "First").toJson.print)) = .ok (oneProcess "First").intoPayload :=
    payloadOf_print 60 rfl rfl (readerOfTwo_reads_first oneProcess_print_ne) (by decide)
  have second : payloadOf rivalReader 60 (.wrote (utf8 (oneProcess "Second").toJson.print)) =
      .ok (oneProcess "Second").intoPayload :=
    payloadOf_print 60 rfl rfl (readerOfTwo_reads_second _ _) (by decide)
  obtain ⟨s, hs, answered⟩ := @runList_rivalEvents _ _ (fun _ => .describe ⟨1048⟩) _ _ _ _ first second
  exact ⟨_, s, .of_stepsOf hs, onePointInTime (.of_stepsOf hs), answered⟩

end AnneDeBreuil
