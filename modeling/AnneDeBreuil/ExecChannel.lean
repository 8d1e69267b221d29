import AnneDeBreuil.RemoteArtifact
import AnneDeBreuil.RemoteExec

namespace AnneDeBreuil

/-- What `Channel::wait` gives; the messages that `exec` passes over are `other`,
but for the end of the remote's data. -/
inductive ChannelMsg
  | data (bytes : List UInt8)
  | extendedData (bytes : List UInt8) (ext : UInt32)
  | exitStatus (status : UInt32)
  | eof
  | close
  | other
deriving DecidableEq, Repr

/-- One session, as a call of `exec` meets it: how the channel is opened, how the
command line is accepted, the messages until there are no more, and the time. -/
structure ExecSession where
  channelOpenSession : Except TransportError Unit
  exec : String → Except TransportError Unit
  messages : List ChannelMsg
  elapsedNanos : Nat

def sshExtendedDataStderr : UInt32 := 1

/-- The two lengths are those of byte vectors, at most `isize::MAX` each, so their
saturating sum is their sum. -/
def appendCapped (buf chunk : List UInt8) (cap : Nat) : Except TransportError (List UInt8) :=
  if buf.length + chunk.length > cap then .error .outputCapExceeded else .ok (buf ++ chunk)

/-- What the loop has so far. -/
structure ExecBuffers where
  stdout : List UInt8
  stderr : List UInt8
  exitStatus : Option UInt32
deriving DecidableEq, Repr

def execLoop (cap : Nat) (s : ExecBuffers) : List ChannelMsg → Except TransportError ExecBuffers
  | [] => .ok s
  | .data bytes :: rest => do
    let stdout ← appendCapped s.stdout bytes cap
    execLoop cap { s with stdout := stdout } rest
  | .extendedData bytes ext :: rest =>
    if ext = sshExtendedDataStderr then do
      let stderr ← appendCapped s.stderr bytes cap
      execLoop cap { s with stderr := stderr } rest
    else execLoop cap s rest
  | .exitStatus status :: rest => execLoop cap { s with exitStatus := some status } rest
  | .close :: _ => .ok s
  | .eof :: rest | .other :: rest => execLoop cap s rest

/-- `i32::try_from`, or else `i32::MAX`. -/
def clampStatus (status : UInt32) : Int := if status.toNat < 2147483648 then status.toNat else 2147483647

def noExitStatus : TransportError := .exec "channel closed before an exit status was received"

def exec (session : ExecSession) (cmd : RemoteCommand) (maxOutputBytes : Nat) : Except TransportError ExecOutput := do
  session.channelOpenSession
  session.exec (commandLine cmd.argv)
  let buffers ← execLoop maxOutputBytes ⟨[], [], none⟩ session.messages
  match buffers.exitStatus with
  | none => .error noExitStatus
  | some status => .ok ⟨clampStatus status, buffers.stdout, buffers.stderr, session.elapsedNanos⟩

/-- The messages up to the first `Close`. -/
def beforeClose (messages : List ChannelMsg) : List ChannelMsg := messages.takeWhile (· ≠ .close)

def ChannelMsg.stdoutBytes : ChannelMsg → List UInt8
  | .data bytes => bytes
  | _ => []

def ChannelMsg.stderrBytes : ChannelMsg → List UInt8
  | .extendedData bytes ext => if ext = sshExtendedDataStderr then bytes else []
  | _ => []

def ChannelMsg.status : ChannelMsg → Option UInt32
  | .exitStatus status => some status
  | _ => none

def stdoutOf (messages : List ChannelMsg) : List UInt8 := (beforeClose messages).flatMap ChannelMsg.stdoutBytes

def stderrOf (messages : List ChannelMsg) : List UInt8 := (beforeClose messages).flatMap ChannelMsg.stderrBytes

def lastStatus (messages : List ChannelMsg) : Option UInt32 := ((beforeClose messages).filterMap ChannelMsg.status).getLast?

/-- Neither buffer is over the cap. -/
def ExecBuffers.Within (cap : Nat) (s : ExecBuffers) : Prop := s.stdout.length ≤ cap ∧ s.stderr.length ≤ cap

section

variable {cap : Nat} {s : ExecBuffers} {msg : ChannelMsg} {messages rest : List ChannelMsg}

theorem appendCapped_ok {buf chunk appended : List UInt8} (h : appendCapped buf chunk cap = .ok appended) :
    appended = buf ++ chunk ∧ appended.length ≤ cap := by
  unfold appendCapped at h
  split at h
  next => cases h
  next fits =>
    cases h
    refine ⟨rfl, ?_⟩
    rw [List.length_append]
    omega

theorem appendCapped_error {buf chunk : List UInt8} {err : TransportError} (h : appendCapped buf chunk cap = .error err) :
    err = .outputCapExceeded ∧ cap < buf.length + chunk.length := by
  unfold appendCapped at h
  split at h
  next exceeds =>
    cases h
    exact ⟨rfl, exceeds⟩
  next => cases h

theorem appendCapped_nil {buf : List UInt8} (h : buf.length ≤ cap) : appendCapped buf [] cap = .ok buf := by
  rw [appendCapped, List.length_nil, Nat.add_zero, if_neg (by omega), List.append_nil]

theorem beforeClose_cons (h : msg ≠ .close) : beforeClose (msg :: rest) = msg :: beforeClose rest := by
  rw [beforeClose, List.takeWhile_cons_of_pos (by simpa using h), beforeClose]

/-- One message goes to the end of both buffers, though at most one of them grows. -/
theorem execLoop_cons (within : s.Within cap) (h : msg ≠ .close) : execLoop cap s (msg :: rest) = (do
    let stdout ← appendCapped s.stdout msg.stdoutBytes cap
    let stderr ← appendCapped s.stderr msg.stderrBytes cap
    execLoop cap ⟨stdout, stderr, msg.status.or s.exitStatus⟩ rest) := by
  have outKept := appendCapped_nil within.1
  have errKept := appendCapped_nil within.2
  cases msg with
  | data bytes =>
    simp only [execLoop, ChannelMsg.stdoutBytes, ChannelMsg.stderrBytes, errKept]
    rfl
  | extendedData bytes ext =>
    simp only [execLoop, ChannelMsg.stdoutBytes, ChannelMsg.stderrBytes, outKept]
    split
    next => rfl
    next => rw [errKept]; rfl
  | exitStatus status =>
    simp only [execLoop, ChannelMsg.stdoutBytes, ChannelMsg.stderrBytes, outKept, errKept]
    rfl
  | close => exact absurd rfl h
  | eof | other =>
    simp only [execLoop, ChannelMsg.stdoutBytes, ChannelMsg.stderrBytes, outKept, errKept]
    rfl

theorem stdoutOf_cons (h : msg ≠ .close) : stdoutOf (msg :: rest) = msg.stdoutBytes ++ stdoutOf rest := by
  rw [stdoutOf, beforeClose_cons h, List.flatMap_cons, stdoutOf]

theorem stderrOf_cons (h : msg ≠ .close) : stderrOf (msg :: rest) = msg.stderrBytes ++ stderrOf rest := by
  rw [stderrOf, beforeClose_cons h, List.flatMap_cons, stderrOf]

/-- A later status takes the place of this one. -/
theorem lastStatus_cons (h : msg ≠ .close) : lastStatus (msg :: rest) = (lastStatus rest).or msg.status := by
  rw [lastStatus, beforeClose_cons h, lastStatus]
  cases hstatus : msg.status with
  | none => rw [List.filterMap_cons_none hstatus, Option.or_none]
  | some status =>
    rw [List.filterMap_cons_some hstatus, List.getLast?_cons]
    cases ((beforeClose rest).filterMap ChannelMsg.status).getLast? <;> rfl

/-- What the loop ends with when the rest of the messages go into its buffers. -/
def ExecBuffers.filled (cap : Nat) (s : ExecBuffers) (messages : List ChannelMsg) : Except TransportError ExecBuffers :=
  if cap < s.stdout.length + (stdoutOf messages).length ∨ cap < s.stderr.length + (stderrOf messages).length then
    .error .outputCapExceeded
  else .ok ⟨s.stdout ++ stdoutOf messages, s.stderr ++ stderrOf messages, (lastStatus messages).or s.exitStatus⟩

theorem filled_of_beforeClose (within : s.Within cap) (h : beforeClose messages = []) : s.filled cap messages = .ok s := by
  obtain ⟨hout, herr⟩ := within
  rw [ExecBuffers.filled, if_neg (by simp [stdoutOf, stderrOf, h]; omega)]
  simp [stdoutOf, stderrOf, lastStatus, h]

/-- The loop fails when the bytes that are to come do not fit, and else it holds
all of them. -/
theorem execLoop_eq (within : s.Within cap) : execLoop cap s messages = s.filled cap messages := by
  induction messages generalizing s with
  | nil => rw [filled_of_beforeClose within rfl, execLoop]
  | cons msg rest ih =>
    by_cases hclose : msg = .close
    · subst hclose
      rw [filled_of_beforeClose within rfl, execLoop]
    · rw [execLoop_cons within hclose, ExecBuffers.filled, stdoutOf_cons hclose, stderrOf_cons hclose,
        lastStatus_cons hclose, List.length_append, List.length_append]
      cases hout : appendCapped s.stdout msg.stdoutBytes cap with
      | error err =>
        obtain ⟨rfl, exceeds⟩ := appendCapped_error hout
        rw [if_pos (.inl (by omega))]
        rfl
      | ok stdout =>
        obtain ⟨rfl, outFits⟩ := appendCapped_ok hout
        cases herr : appendCapped s.stderr msg.stderrBytes cap with
        | error err =>
          obtain ⟨rfl, exceeds⟩ := appendCapped_error herr
          rw [if_pos (.inr (by omega))]
          rfl
        | ok stderr =>
          obtain ⟨rfl, errFits⟩ := appendCapped_ok herr
          rw [ok_bind, ok_bind, ih ⟨outFits, errFits⟩, ExecBuffers.filled]
          simp only [List.length_append, List.append_assoc, Option.or_assoc, Nat.add_assoc]

/-- What fits keeps fitting: the loop never holds more than the cap. -/
theorem execLoop_within {buffers : ExecBuffers} (within : s.Within cap) (h : execLoop cap s messages = .ok buffers) :
    buffers.Within cap := by
  rw [execLoop_eq within, ExecBuffers.filled] at h
  split at h
  next => cases h
  next fits =>
    cases h
    simp only [ExecBuffers.Within, List.length_append]
    omega

end

/-- The answer to the two streams and the last status, however they came. -/
def execAnswer (cap : Nat) (stdout stderr : List UInt8) (status : Option UInt32) (elapsedNanos : Nat) :
    Except TransportError ExecOutput :=
  if cap < stdout.length ∨ cap < stderr.length then .error .outputCapExceeded
  else
    match status with
    | none => .error noExitStatus
    | some status => .ok ⟨clampStatus status, stdout, stderr, elapsedNanos⟩

theorem exec_eq {session : ExecSession} {cmd : RemoteCommand} (opened : session.channelOpenSession = .ok ())
    (accepted : session.exec (commandLine cmd.argv) = .ok ()) (cap : Nat) :
    exec session cmd cap = execAnswer cap (stdoutOf session.messages) (stderrOf session.messages)
      (lastStatus session.messages) session.elapsedNanos := by
  have start : (⟨[], [], none⟩ : ExecBuffers).Within cap := ⟨Nat.zero_le _, Nat.zero_le _⟩
  rw [exec, opened, accepted, ok_bind, ok_bind, execLoop_eq start, ExecBuffers.filled, execAnswer.eq_def]
  simp only [List.length_nil, Nat.zero_add, List.nil_append, Option.or_none]
  split
  next => rfl
  next => rfl

/-- On a channel that took the command, the output is the two streams up to the
close, or an error for what is over the cap or for a missing status. -/
theorem exec_streams {session : ExecSession} {cmd : RemoteCommand} (opened : session.channelOpenSession = .ok ())
    (accepted : session.exec (commandLine cmd.argv) = .ok ()) (cap : Nat) :
    (exec session cmd cap = .error .outputCapExceeded ↔
      cap < (stdoutOf session.messages).length ∨ cap < (stderrOf session.messages).length) ∧
    ((stdoutOf session.messages).length ≤ cap → (stderrOf session.messages).length ≤ cap →
      ((∃ text, exec session cmd cap = .error (.exec text)) ↔ lastStatus session.messages = none) ∧
      ∀ status, lastStatus session.messages = some status → exec session cmd cap =
        .ok ⟨clampStatus status, stdoutOf session.messages, stderrOf session.messages, session.elapsedNanos⟩) ∧
    (∀ sofar buffers, sofar <+: session.messages → execLoop cap ⟨[], [], none⟩ sofar = .ok buffers →
      buffers.stdout.length ≤ cap ∧ buffers.stderr.length ≤ cap) ∧
    ∀ messages, stdoutOf messages = stdoutOf session.messages → stderrOf messages = stderrOf session.messages →
      lastStatus messages = lastStatus session.messages →
        exec { session with messages := messages } cmd cap = exec session cmd cap := by
  have answer := exec_eq opened accepted cap
  refine ⟨?_, fun hout herr => ?_, ?_, ?_⟩
  · rw [answer, execAnswer.eq_def]
    split
    next exceeds => exact iff_of_true rfl exceeds
    next fits =>
      refine iff_of_false ?_ fits
      cases lastStatus session.messages <;> nofun
  · rw [answer, execAnswer.eq_def, if_neg (by omega)]
    cases lastStatus session.messages with
    | none => exact ⟨iff_of_true ⟨_, rfl⟩ rfl, nofun⟩
    | some status =>
      refine ⟨iff_of_false (by rintro ⟨text, ⟨⟩⟩) nofun, ?_⟩
      intro other hother
      cases hother
      rfl
  · intro sofar buffers _ hloop
    exact execLoop_within ⟨Nat.zero_le _, Nat.zero_le _⟩ hloop
  · intro messages hout herr hstatus
    rw [answer, @exec_eq { session with messages := messages } cmd opened accepted cap, hout, herr, hstatus]

/-- A session that is opened and takes its command. -/
def acceptingSession (messages : List ChannelMsg) : ExecSession := ⟨.ok (), fun _ => .ok (), messages, 0⟩

/-- A status before the data, and a chunk that fills the cap. -/
theorem exec_streams_full : exec (acceptingSession [.exitStatus 3, .data [1, 2], .eof, .data [3], .close]) ⟨["true"]⟩ 3 =
    .ok ⟨3, [1, 2, 3], [], 0⟩ :=
  ((exec_streams rfl rfl 3).2.1 (by decide) (by decide)).2 3 (by decide)

/-- A status beyond the range of `i32` is not the one returned. -/
theorem exec_streams_counterexample :
    lastStatus [.exitStatus 4294967295, .close] = some 4294967295 ∧
    exec (acceptingSession [.exitStatus 4294967295, .close]) ⟨["true"]⟩ 3 = .ok ⟨2147483647, [], [], 0⟩ ∧
    (2147483647 : Int) ≠ (4294967295 : UInt32).toNat := by
  decide

end AnneDeBreuil
