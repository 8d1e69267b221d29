import AnneDeBreuil.Checksum
import AnneDeBreuil.ExecChannel
import AnneDeBreuil.FanoutProvenance
import AnneDeBreuil.SnapshotWire
import AnneDeBreuil.Utf8Lossy

namespace AnneDeBreuil

/-- The libraries at the two ends of a connection, and the controller's cap on what
it captures. `print` and `read` are the writer and the reader of `serde_json`, and the rest its errors. -/
structure WireLibs where
  crates : SerdeCrates
  writers : SerdeWriters
  print : Json → String
  read : String → Except String Json
  notUtf8 : String
  mismatch : Json → String
  maxOutputBytes : Nat

/-- `serde_json::from_slice` at a snapshot. -/
def ScanSnapshot.fromSlice (wire : WireLibs) (bytes : Utf8) : Except String ScanSnapshot :=
  match fromUtf8 bytes with
  | none => .error wire.notUtf8
  | some text => do
    let v ← wire.read text
    match ScanSnapshot.deserialize wire.crates v with
    | none => .error (wire.mismatch v)
    | some snapshot => .ok snapshot

/-- The standard output of `anne scan --emit-json`, where the scan succeeds. -/
def emitJson (wire : WireLibs) (snapshot : ScanSnapshot) : Utf8 := utf8 (wire.print (snapshot.toJson wire.writers))

/-- The standard output of `anne --self-hash`. -/
def selfHashLine (sha256 : List UInt8 → Digest) (image : List UInt8) : Utf8 := utf8 (sha256Hex sha256 image ++ "\n")

/-- Each command has a session of its own. -/
def sshExec (maxOutputBytes : Nat) (session : RemoteCommand → ExecSession) (cmd : RemoteCommand) :
    Await (Except TransportError ExecOutput) := .ready (exec (session cmd) cmd maxOutputBytes)

def SshScanEnv.selfHash (env : SshScanEnv) : RemoteCommand := .new env.remotePath.asStr ["--self-hash"]

def SshScanEnv.emit (env : SshScanEnv) : RemoteCommand := .new env.remotePath.asStr ["scan", "--emit-json"]

/-- The scan runs its commands over SSH sessions that take them. -/
structure SshScanEnv.OverSsh (env : SshScanEnv) (wire : WireLibs) (session : RemoteCommand → ExecSession) : Prop where
  exec : env.collect.exec = sshExec wire.maxOutputBytes session
  fromSlice : env.collect.fromSlice = ScanSnapshot.fromSlice wire
  lossy : env.collect.fromUtf8Lossy = fun bytes => String.ofList (fromUtf8Lossy none bytes)
  opened : ∀ cmd, (session cmd).channelOpenSession = .ok ()
  accepted : ∀ cmd, (session cmd).exec (commandLine cmd.argv) = .ok ()

/-- The crates read back what they write of this snapshot, whose command lines are texts. -/
structure WireLibs.Reads (wire : WireLibs) (snapshot : ScanSnapshot) : Prop where
  uuids : ∀ uuid ∈ snapshot.uuids, wire.crates.uuidParseStr (uuidText uuid) = some uuid
  date : wire.crates.offsetDateTime (wire.writers.offsetDateTime snapshot.collectedAt) = some snapshot.collectedAt
  json : wire.read (wire.print (snapshot.toJson wire.writers)) = .ok (snapshot.toJson wire.writers)
  legible : ∀ endpoint ∈ snapshot.endpoints, endpoint.LegibleCommandLine

/-- Neither stream is over the cap, and an exit status came. -/
structure ExecSession.Answers (session : ExecSession) (cap : Nat) : Prop where
  stdout : (stdoutOf session.messages).length ≤ cap
  stderr : (stderrOf session.messages).length ≤ cap
  status : (lastStatus session.messages).isSome = true

section

variable {wire : WireLibs} {session : RemoteCommand → ExecSession} {env : SshScanEnv} {sent : ScanSnapshot}

theorem ScanSnapshot.fromSlice_emitJson (reads : wire.Reads sent) : fromSlice wire (emitJson wire sent) = .ok sent := by
  have back := ScanSnapshot.deserialize_toJson reads.uuids reads.date reads.legible
  rw [fromSlice, emitJson, fromUtf8_utf8]
  simp only [reads.json, ok_bind, back]

/-- A command over SSH that answers gives its standard output. -/
theorem SshScanEnv.OverSsh.exec_ok_iff (viaSsh : env.OverSsh wire session) (cmd : RemoteCommand) (stdout : List UInt8) :
    (∃ output, env.collect.exec cmd = .ready (.ok output) ∧ output.stdout = stdout) ↔
      (session cmd).Answers wire.maxOutputBytes ∧ stdoutOf (session cmd).messages = stdout := by
  rw [viaSsh.exec]
  simp only [sshExec, Await.ready.injEq, exec_eq (viaSsh.opened cmd) (viaSsh.accepted cmd), execAnswer.eq_def]
  split
  next exceeds =>
    refine iff_of_false (by simp) fun h => ?_
    have out := h.1.stdout
    have err := h.1.stderr
    omega
  next fits =>
    cases hstatus : lastStatus (session cmd).messages with
    | none =>
      refine iff_of_false (by simp) fun h => ?_
      have status := h.1.status
      rw [hstatus] at status
      cases status
    | some status =>
      constructor
      · rintro ⟨output, h, rfl⟩
        obtain rfl := Except.ok.inj h
        exact ⟨⟨by omega, by omega, by rw [hstatus]; rfl⟩, rfl⟩
      · rintro ⟨-, rfl⟩
        exact ⟨_, rfl, rfl⟩

/-- What the controller reads is what the collector wrote, however it was cut up. -/
theorem emits_sent (viaSsh : env.OverSsh wire session) (reads : wire.Reads sent)
    (carries : stdoutOf (session env.emit).messages = emitJson wire sent) {emitted : ScanSnapshot}
    (h : env.Emits emitted) : emitted = sent := by
  obtain ⟨output, hexec, hslice⟩ := h
  obtain ⟨-, hstdout⟩ := (viaSsh.exec_ok_iff env.emit output.stdout).mp ⟨output, hexec, rfl⟩
  rw [viaSsh.fromSlice, ← hstdout, carries, ScanSnapshot.fromSlice_emitJson reads] at hslice
  exact (Except.ok.inj hslice).symm

/-- The printed form of a snapshot tells it apart and reads back as it. -/
theorem emitJson_roundTrip (reads : wire.Reads sent) : ScanSnapshot.fromSlice wire (emitJson wire sent) = .ok sent ∧
    ∀ other, wire.Reads other → (emitJson wire other = emitJson wire sent ↔ other = sent) := by
  refine ⟨ScanSnapshot.fromSlice_emitJson reads, fun other others => ⟨fun same => ?_, congrArg _⟩⟩
  have back := ScanSnapshot.fromSlice_emitJson others
  rw [same, ScanSnapshot.fromSlice_emitJson reads] at back
  exact (Except.ok.inj back).symm

theorem trim_selfHashLine (sha256 : List UInt8 → Digest) (image : List UInt8) :
    trim (String.ofList (fromUtf8Lossy none (selfHashLine sha256 image))) = sha256Hex sha256 image := by
  have visible : trim (sha256Hex sha256 image) = sha256Hex sha256 image := trim_of_visible (sha256Hex_visible image)
  have feed : ∀ c ∈ ['\n'], isWhitespace c = true := by
    intro c hc
    cases List.mem_singleton.mp hc
    rfl
  have nothing : fromUtf8Lossy none [] = [] := rfl
  have read := fromUtf8Lossy_encodeChars (sha256Hex sha256 image ++ "\n").toList []
  rw [List.append_nil, nothing, List.append_nil, ← utf8_eq_encodeChars] at read
  have chars : (sha256Hex sha256 image ++ "\n").toList = (sha256Hex sha256 image).toList ++ ['\n'] := String.toList_append
  rw [selfHashLine, read, trim, String.toList_ofList, chars, trimChars_append_blank feed]
  exact visible

theorem runAndCollect_ok_iff {collect : CollectEnv} {remotePath : RemotePath} {expectedHash : String}
    {snapshot : ScanSnapshot} : runAndCollect collect remotePath expectedHash = .ready (.ok snapshot) ↔
      ∃ hashCheck output, collect.exec (.new remotePath.asStr ["--self-hash"]) = .ready (.ok hashCheck) ∧
        trim (collect.fromUtf8Lossy hashCheck.stdout) = expectedHash ∧
        collect.exec (.new remotePath.asStr ["scan", "--emit-json"]) = .ready (.ok output) ∧
        collect.fromSlice output.stdout = .ok snapshot := by
  unfold runAndCollect
  rcases collect.exec (.new remotePath.asStr ["--self-hash"]) with (error | hashCheck) | _
  · simp
  · by_cases hhash : trim (collect.fromUtf8Lossy hashCheck.stdout) = expectedHash
    · rcases collect.exec (.new remotePath.asStr ["scan", "--emit-json"]) with (error | output) | _
      · simp [hhash]
      · cases hslice : collect.fromSlice output.stdout <;> simp [hhash, hslice, Except.mapError]
      · simp [hhash]
    · simp [hhash]
  · simp

theorem pushExecCollectRemove_ok_iff {collect : CollectEnv} {binary expectedHash : String} {remotePath : RemotePath}
    {snapshot : ScanSnapshot} :
    (pushExecCollectRemove collect binary remotePath expectedHash).result = .ready (.ok snapshot) ↔
      (sftpPush collect.push binary remotePath).1 = .ready (.ok ()) ∧
        runAndCollect collect remotePath expectedHash = .ready (.ok snapshot) ∧ ¬collect.remove.Dropped := by
  have hremove := sftpRemove_dropped collect.remove
  unfold pushExecCollectRemove
  rcases sftpPush collect.push binary remotePath with ⟨(error | ⟨⟩) | _, created⟩
  · simp
  · rcases runAndCollect collect remotePath expectedHash with (error | emitted) | _
    · simp only [RemoteArtifactGuard.removeNow]
      cases sftpRemove collect.remove <;> simp
    · rw [← hremove]
      simp only [RemoteArtifactGuard.removeNow]
      cases sftpRemove collect.remove <;> simp
    · simp
  · simp

theorem scanExecute_ok_iff {exePath expectedHash : String} {scanner : SshHostScanner} {host : InventoryHost}
    (exe : env.exeHash = .ok (exePath, expectedHash)) (connected : env.connect = .ready (.ok ())) {snapshot : ScanSnapshot} :
    scanner.scanExecute host env = .ready (.ok snapshot) ↔ ∃ emitted,
      (pushExecCollectRemove env.collect exePath env.remotePath expectedHash).result = .ready (.ok emitted) ∧
        snapshot = { emitted with hostId := host.hostId } := by
  unfold SshHostScanner.scanExecute
  rw [exe, connected]
  simp only
  rcases (pushExecCollectRemove env.collect exePath env.remotePath expectedHash).result with (error | emitted) | _
  · simp
  · simp [eq_comm]
  · simp

/-- Both commands of a scan answer, and nothing of it is dropped. -/
structure Undisturbed (env : SshScanEnv) (session : RemoteCommand → ExecSession) (cap : Nat) : Prop where
  pushed : env.collect.push.Completes
  hashed : (session env.selfHash).Answers cap
  emitted : (session env.emit).Answers cap
  removed : ¬env.collect.remove.Dropped

/-- The collector runs the image it was sent, and each of its two outputs is whole. -/
structure IntactRemote (wire : WireLibs) (session : RemoteCommand → ExecSession) (env : SshScanEnv)
    (sha256 : List UInt8 → Digest) (image : List UInt8) (sent : ScanSnapshot) : Prop where
  viaSsh : env.OverSsh wire session
  reads : wire.Reads sent
  creates : env.collect.push.Creates
  hash : stdoutOf (session env.selfHash).messages = selfHashLine sha256 image
  carries : stdoutOf (session env.emit).messages = emitJson wire sent

theorem collected_iff {sha256 : List UInt8 → Digest} {image : List UInt8} (intact : IntactRemote wire session env sha256 image sent)
    (exePath : String) (emitted : ScanSnapshot) :
    (pushExecCollectRemove env.collect exePath env.remotePath (sha256Hex sha256 image)).result = .ready (.ok emitted) ↔
      emitted = sent ∧ Undisturbed env session wire.maxOutputBytes := by
  have viaSsh := intact.viaSsh
  rw [pushExecCollectRemove_ok_iff, sftpPush_ok _ _ _ intact.creates, runAndCollect_ok_iff]
  constructor
  · rintro ⟨completes, ⟨hashCheck, output, hhash, -, hemit, hslice⟩, kept⟩
    obtain ⟨answers, -⟩ := (viaSsh.exec_ok_iff env.selfHash hashCheck.stdout).mp ⟨hashCheck, hhash, rfl⟩
    obtain ⟨emits, -⟩ := (viaSsh.exec_ok_iff env.emit output.stdout).mp ⟨output, hemit, rfl⟩
    exact ⟨emits_sent viaSsh intact.reads intact.carries ⟨output, hemit, hslice⟩, completes, answers, emits, kept⟩
  · rintro ⟨rfl, completes, answers, emits, kept⟩
    obtain ⟨hashCheck, hhash, hread⟩ := (viaSsh.exec_ok_iff env.selfHash _).mpr ⟨answers, intact.hash⟩
    obtain ⟨output, hemit, hstdout⟩ := (viaSsh.exec_ok_iff env.emit _).mpr ⟨emits, intact.carries⟩
    refine ⟨completes, ⟨hashCheck, output, hhash, ?_, hemit, ?_⟩, kept⟩
    · rw [viaSsh.lossy, hread]
      exact trim_selfHashLine sha256 image
    · rw [viaSsh.fromSlice, hstdout]
      exact ScanSnapshot.fromSlice_emitJson intact.reads

/-- An `Execute` scan of a host that runs the image it was sent: it has the host's
own snapshot if both commands answer and nothing is dropped, and no other. -/
theorem scanExecute_iff {sha256 : List UInt8 → Digest} {image : List UInt8} {exePath : String}
    {scanner : SshHostScanner} {host : InventoryHost} (intact : IntactRemote wire session env sha256 image sent)
    (exe : env.exeHash = .ok (exePath, sha256Hex sha256 image)) (connected : env.connect = .ready (.ok ()))
    (snapshot : ScanSnapshot) : scanner.scanExecute host env = .ready (.ok snapshot) ↔
      snapshot = { sent with hostId := host.hostId } ∧ Undisturbed env session wire.maxOutputBytes := by
  rw [scanExecute_ok_iff exe connected]
  constructor
  · rintro ⟨emitted, hresult, rfl⟩
    obtain ⟨rfl, undisturbed⟩ := (collected_iff intact exePath emitted).mp hresult
    exact ⟨rfl, undisturbed⟩
  · rintro ⟨rfl, undisturbed⟩
    exact ⟨sent, (collected_iff intact exePath sent).mpr ⟨rfl, undisturbed⟩, rfl⟩

end

def listener (line : Option String) : Endpoint := .new .tcp ⟨.v4 0⟩ ⟨443⟩ (some ⟨42⟩) none [] .unknown (line.map utf8)

/-- A scan of one listener, at the epoch. -/
def listenerScan (line : Option String) : ScanSnapshot := ⟨⟨9⟩, ⟨7⟩, ⟨0, 0⟩, "1.0.0", [listener line], [], [], .execute⟩

/-- The epoch as its crate writes it: year, day, time of the day and offset. -/
def epochJson : Json := .arr [.int 1970, .int 1, .int 0, .int 0, .int 0, .int 0, .int 0, .int 0, .int 0]

def epochOf : Json → Option OffsetDateTime
  | .arr [.int 1970, .int 1, .int 0, .int 0, .int 0, .int 0, .int 0, .int 0, .int 0] => some ⟨0, 0⟩
  | _ => none

def zeroDigest : List UInt8 := List.replicate 32 0

theorem zeroDigest_length : zeroDigest.length = 32 := rfl

def zeroSha : List UInt8 → Digest := fun _ => ⟨zeroDigest, zeroDigest_length⟩

/-- The two ids of the scan by their texts. -/
def listenerUuid (text : String) : Option Uuid :=
  if text = uuidText 9 then some 9 else if text = uuidText 7 then some 7 else none

section

variable (line : Option String)

/-- The text of the scan, which is all that the reader here knows. -/
def listenerText : String := ((listenerScan line).toJson ⟨fun _ => epochJson⟩).print

def listenerWire (cap : Nat) : WireLibs where
  crates := ⟨listenerUuid, epochOf⟩
  writers := ⟨fun _ => epochJson⟩
  print := Json.print
  read text := if text = listenerText line then .ok ((listenerScan line).toJson ⟨fun _ => epochJson⟩) else .error "expected value"
  notUtf8 := "invalid unicode code point"
  mismatch _ := "invalid type"
  maxOutputBytes := cap

theorem listenerWire_reads (cap : Nat) : (listenerWire line cap).Reads (listenerScan line) where
  uuids := by
    have apart : uuidText 7 ≠ uuidText 9 := fun same => absurd (uuidText_injective same) (by decide)
    have first : listenerUuid (uuidText 9) = some 9 := if_pos rfl
    have second : listenerUuid (uuidText 7) = some 7 := (if_neg apart).trans (if_pos rfl)
    intro uuid h
    simp only [ScanSnapshot.uuids, listenerScan, List.map_nil, List.mem_cons, List.not_mem_nil, or_false] at h
    rcases h with rfl | rfl
    · exact first
    · exact second
  date := rfl
  json := by
    simp only [listenerWire, listenerText, ↓reduceIte]
  legible := by
    intro endpoint h bytes hbytes
    obtain rfl := List.mem_singleton.mp h
    have given : (listener line).commandLine = line.map utf8 := rfl
    rw [given] at hbytes
    obtain ⟨text, -, rfl⟩ := Option.map_eq_some_iff.mp hbytes
    exact ⟨text, rfl⟩

theorem stdoutOf_pieces (first second : List UInt8) :
    stdoutOf [.extendedData [] 1, .data first, .eof, .data second, .exitStatus 0, .close] = first ++ second := by
  simp [stdoutOf, beforeClose, ChannelMsg.stdoutBytes]

/-- The collector logs on its error stream while it writes the scan in two pieces. -/
def listenerSession (cap : Nat) (cmd : RemoteCommand) : ExecSession :=
  if cmd.argv = ["/tmp/anne-collector-1", "--self-hash"] then
    acceptingSession [.data (selfHashLine zeroSha []), .exitStatus 0, .close]
  else
    acceptingSession [.extendedData [] 1, .data ((emitJson (listenerWire line cap) (listenerScan line)).take 40), .eof,
      .data ((emitJson (listenerWire line cap) (listenerScan line)).drop 40), .exitStatus 0, .close]

def listenerEnv (cap : Nat) : SshScanEnv where
  exeHash := .ok ("/usr/local/bin/anne", sha256Hex zeroSha [])
  connect := .ready (.ok ())
  remotePath := ⟨"/tmp/anne-collector-1"⟩
  collect := { healthyEnv with
    exec := sshExec cap (listenerSession line cap)
    fromUtf8Lossy := fun bytes => String.ofList (fromUtf8Lossy none bytes)
    fromSlice := ScanSnapshot.fromSlice (listenerWire line cap) }
  probeHost := .ready []
  scanId := ⟨8⟩
  nowUtc := ⟨0, 0⟩

variable (cap : Nat)

theorem listenerEnv_overSsh : (listenerEnv line cap).OverSsh (listenerWire line cap) (listenerSession line cap) where
  exec := rfl
  fromSlice := rfl
  lossy := rfl
  opened cmd := by
    unfold listenerSession
    split <;> rfl
  accepted cmd := by
    unfold listenerSession
    split <;> rfl

theorem listenerSession_hash : listenerSession line cap (listenerEnv line cap).selfHash =
    acceptingSession [.data (selfHashLine zeroSha []), .exitStatus 0, .close] := if_pos rfl

theorem listenerSession_emit : listenerSession line cap (listenerEnv line cap).emit =
    acceptingSession [.extendedData [] 1, .data ((emitJson (listenerWire line cap) (listenerScan line)).take 40), .eof,
      .data ((emitJson (listenerWire line cap) (listenerScan line)).drop 40), .exitStatus 0, .close] :=
  if_neg (by simp [listenerEnv, SshScanEnv.emit, RemoteCommand.new])

theorem stdoutOf_hash : stdoutOf (listenerSession line cap (listenerEnv line cap).selfHash).messages = selfHashLine zeroSha [] := by
  rw [listenerSession_hash]
  simp [stdoutOf, beforeClose, acceptingSession, ChannelMsg.stdoutBytes]

theorem stdoutOf_emit : stdoutOf (listenerSession line cap (listenerEnv line cap).emit).messages =
    emitJson (listenerWire line cap) (listenerScan line) := by
  rw [listenerSession_emit]
  exact (stdoutOf_pieces _ _).trans (List.take_append_drop 40 _)

theorem emitJson_listener : emitJson (listenerWire line cap) (listenerScan line) = utf8 (listenerText line) := by
  simp only [emitJson, listenerWire, listenerText]

theorem listenerEnv_intact :
    IntactRemote (listenerWire line cap) (listenerSession line cap) (listenerEnv line cap) zeroSha [] (listenerScan line) where
  viaSsh := listenerEnv_overSsh line cap
  reads := listenerWire_reads line cap
  creates := ⟨⟨_, rfl⟩, rfl, .inl rfl⟩
  hash := stdoutOf_hash line cap
  carries := stdoutOf_emit line cap

variable {cap}

theorem listenerSession_answers (hash : (selfHashLine zeroSha []).length ≤ cap) (emit : (utf8 (listenerText line)).length ≤ cap) :
    (listenerSession line cap (listenerEnv line cap).selfHash).Answers cap ∧
      (listenerSession line cap (listenerEnv line cap).emit).Answers cap := by
  refine ⟨⟨?_, ?_, ?_⟩, ?_, ?_, ?_⟩
  · rw [stdoutOf_hash]
    exact hash
  · rw [listenerSession_hash]
    exact Nat.zero_le _
  · rw [listenerSession_hash]
    rfl
  · rw [stdoutOf_emit, emitJson_listener]
    exact emit
  · rw [listenerSession_emit]
    exact Nat.zero_le _
  · rw [listenerSession_emit]
    rfl

/-- With room for both outputs. -/
theorem listenerEnv_undisturbed : ∃ cap, Undisturbed (listenerEnv line cap) (listenerSession line cap) cap := by
  obtain ⟨cap, hash, emit⟩ := exists_ge_ge (selfHashLine zeroSha []).length (utf8 (listenerText line)).length
  obtain ⟨hashed, emitted⟩ := listenerSession_answers line hash emit
  refine ⟨cap, ⟨rfl, ⟨_, rfl, rfl⟩, rfl⟩, hashed, emitted, ?_⟩
  rintro (h | ⟨-, h⟩) <;> cases h

def listenerScanner : SshHostScanner := ⟨⟨fun _ => "", id⟩, "1.0.0"⟩

theorem scanExecute_collected : ∃ cap, listenerScanner.scanExecute ⟨⟨1⟩⟩ (listenerEnv line cap) =
    .ready (.ok { listenerScan line with hostId := ⟨1⟩ }) := by
  obtain ⟨cap, undisturbed⟩ := listenerEnv_undisturbed line
  have collected := (collected_iff (listenerEnv_intact line cap) "/usr/local/bin/anne" (listenerScan line)).mpr ⟨rfl, undisturbed⟩
  exact ⟨cap, (scanExecute_ok_iff rfl rfl).mpr ⟨_, collected, rfl⟩⟩

end

theorem emitJson_roundTrip_listener : ScanSnapshot.fromSlice (listenerWire (some "nginx -g off") 0)
    (emitJson (listenerWire (some "nginx -g off") 0) (listenerScan (some "nginx -g off"))) = .ok (listenerScan (some "nginx -g off")) :=
  (emitJson_roundTrip (listenerWire_reads (some "nginx -g off") 0)).1

theorem scanExecute_listener : ∃ cap, listenerScanner.scanExecute ⟨⟨1⟩⟩ (listenerEnv (some "nginx -g off") cap) =
    .ready (.ok { listenerScan (some "nginx -g off") with hostId := ⟨1⟩ }) := by
  obtain ⟨cap, undisturbed⟩ := listenerEnv_undisturbed (some "nginx -g off")
  exact ⟨cap, (scanExecute_iff (listenerEnv_intact _ cap) rfl rfl _).mpr ⟨rfl, undisturbed⟩⟩

/-- Where an `Execute` scan of a run goes over SSH, and what its remote built. -/
def SentOver (wire : WireLibs) (session : SshScanEnv → RemoteCommand → ExecSession) (sent : SshScanEnv → ScanSnapshot)
    (s : FanoutState) : FanoutAction SshScanEnv → Prop
  | .scanned task met => s.resolvedStrategy task = .execute → met.OverSsh wire (session met) ∧ wire.Reads (sent met) ∧
      stdoutOf (session met met.emit).messages = emitJson wire (sent met)
  | _ => True

/-- A snapshot of an entry that was scanned with `Execute` is what some remote built
in a scan of that entry's host, under the host's id. -/
def BuiltRemotely (inventory : List InventoryHost) (sent : SshScanEnv → ScanSnapshot)
    (trace : List (FanoutState × FanoutAction SshScanEnv)) (host : InventoryHost) (strategy : TargetStrategy)
    (snapshot : ScanSnapshot) : Prop :=
  strategy = .execute → ∃ p ∈ trace, ∃ task met, p.2 = .scanned task met ∧ inventory[task]? = some host ∧
    snapshot = { sent met with hostId := host.hostId }

section

variable {wire : WireLibs} {session : SshScanEnv → RemoteCommand → ExecSession} {sent : SshScanEnv → ScanSnapshot}
  {scanner : SshHostScanner} {inventory : List InventoryHost} {concurrency : Nat} {log : List Put}
  {trace : List (FanoutState × FanoutAction SshScanEnv)} {s : FanoutState}

theorem executed_traced
    (run : Run (sshFanout scanner inventory concurrency).step ((sshFanout scanner inventory concurrency).start log) trace s)
    (fresh : ∀ p ∈ trace, FreshKey p.1 p.2) (viaSsh : ∀ p ∈ trace, SentOver wire session sent p.1 p.2) :
    Traced (sshFanout scanner inventory concurrency) (BuiltRemotely inventory sent trace) s := by
  have stamps : ∀ p ∈ trace, ∀ task met host snapshot, p.2 = .scanned task met → inventory[task]? = some host →
      scanner.scan host (p.1.resolvedStrategy task) (p.1.key task) met = .ready (.ok snapshot) →
      BuiltRemotely inventory sent trace host (p.1.resolvedStrategy task) snapshot := by
    intro p hp task met host snapshot haction hhost hscan hexecute
    have hover := viaSsh p hp
    rw [haction] at hover
    obtain ⟨ssh, reads, carries⟩ := hover hexecute
    rw [hexecute] at hscan
    obtain ⟨emitted, hemits, rfl⟩ := scanExecute_emits hscan
    obtain rfl := emits_sent ssh reads carries hemits
    exact ⟨p, hp, task, met, haction, hhost, rfl⟩
  exact traced_run (BuiltRemotely inventory sent trace) run fresh stamps

/-- In every run of the fan-out, what the store keeps under the key of an entry scanned with `Execute` is what a remote
built, also where the entry timed out before the store had it: the wire changes no field of it. An entry reported as a
success has such a record. -/
theorem executed_run
    (run : Run (sshFanout scanner inventory concurrency).step ((sshFanout scanner inventory concurrency).start log) trace s)
    (fresh : ∀ p ∈ trace, FreshKey p.1 p.2) (viaSsh : ∀ p ∈ trace, SentOver wire session sent p.1 p.2) :
    (∀ put ∈ s.log, ∀ task, (s.phase task).started = true → put.key = s.key task →
      ∃ host, inventory[task]? = some host ∧
        BuiltRemotely inventory sent trace host (s.resolvedStrategy task) put.snapshot) ∧
    ∀ task result id, (task, result) ∈ s.results → result.outcome = .succeeded id →
      ∃ host put, inventory[task]? = some host ∧ put ∈ s.log ∧ put.key = s.key task ∧ put.snapshot.scanId = id ∧
        result.hostId = host.hostId ∧ BuiltRemotely inventory sent trace host result.strategyUsed put.snapshot :=
  have traced := executed_traced run fresh viaSsh
  ⟨fun _ hput _ started hkey => traced.record hput started hkey, fun _ _ _ hmem houtcome => traced.success hmem houtcome⟩

end

/-- A run that scans the one host with `Execute` and returns. -/
def executedActions (met : SshScanEnv) : List (FanoutAction SshScanEnv) :=
  [.spawn, .acquire 0, .start 0 ⟨5⟩, .resolve 0 .execute, .scanned 0 met, .commit 0, .stored 0, .finish 0, .release 0,
    .join 0 "", .finishRun]

section

variable {scanner : SshHostScanner} {host : InventoryHost} {met : SshScanEnv} {snapshot : ScanSnapshot}

theorem executedActions_run (h : scanner.scanExecute host met = .ready (.ok snapshot)) : ∃ s,
    runList (sshFanout scanner [host] 1).step ((sshFanout scanner [host] 1).start []) (executedActions met) = some s ∧
      s.results = [(0, ⟨host.hostId, .execute, .succeeded snapshot.scanId⟩)] ∧ s.done = true := by
  have scanned : ∀ key, (sshFanout scanner [host] 1).scan host .execute key met = .ready (.ok snapshot) := fun _ => h
  have inventory : (sshFanout scanner [host] 1).inventory = [host] := rfl
  simp [executedActions, runList, FanoutSystem.step, FanoutSystem.start, inventory, FanoutState.setPhase, FanoutState.report,
    FanoutState.attempt, scanned, logPut, FanoutState.endAttempt, afterAttempt, FanoutState.pushResult, FanoutSystem.limit]

theorem executedActions_fresh : ∀ p ∈ stepsOf (sshFanout scanner [host] 1).step ((sshFanout scanner [host] 1).start [])
    (executedActions met), FreshKey p.1 p.2 :=
  freshKey_alone _ _ _ (by simp [FreshKey])

end

/-- A whole run over the one host: it returns, with its one success. -/
theorem executedActions_listener (line : Option String) : ∃ cap trace s,
    Run (sshFanout listenerScanner [⟨⟨1⟩⟩] 1).step ((sshFanout listenerScanner [⟨⟨1⟩⟩] 1).start []) trace s ∧
      s.results = [(0, ⟨⟨1⟩, .execute, .succeeded ⟨7⟩⟩)] ∧ s.done = true ∧ (∀ p ∈ trace, FreshKey p.1 p.2) ∧
      (∀ p ∈ trace, p.2 ∈ executedActions (listenerEnv line cap)) ∧
      ∀ p ∈ trace, SentOver (listenerWire line cap) (fun _ => listenerSession line cap) (fun _ => listenerScan line) p.1 p.2 := by
  obtain ⟨cap, scanned⟩ := scanExecute_collected line
  obtain ⟨s, ends, results, done⟩ := executedActions_run scanned
  refine ⟨cap, _, s, Run.of_stepsOf ends, results, done, executedActions_fresh, fun _ => mem_stepsOf, ?_⟩
  rintro ⟨s, action⟩ hp
  have hmem := mem_stepsOf hp
  simp only [executedActions, List.mem_cons, List.not_mem_nil, or_false] at hmem
  rcases hmem with rfl | rfl | rfl | rfl | rfl | rfl | rfl | rfl | rfl | rfl | rfl
  case inr.inr.inr.inr.inl =>
    exact fun _ => ⟨listenerEnv_overSsh line cap, listenerWire_reads line cap, stdoutOf_emit line cap⟩
  all_goals trivial

theorem executed_run_listener : ∃ trace s, ∃ put : Put,
    Run (sshFanout listenerScanner [⟨⟨1⟩⟩] 1).step ((sshFanout listenerScanner [⟨⟨1⟩⟩] 1).start []) trace s ∧
      put ∈ s.log ∧ BuiltRemotely [⟨⟨1⟩⟩] (fun _ => listenerScan none) trace ⟨⟨1⟩⟩ .execute put.snapshot := by
  obtain ⟨cap, trace, s, run, results, -, fresh, -, viaSsh⟩ := executedActions_listener none
  have stored := (executed_run run fresh viaSsh).2 0 _ ⟨7⟩ (by rw [results]; exact .head _) rfl
  obtain ⟨host, put, hhost, hput, -, -, -, built⟩ := stored
  obtain rfl := Option.some.inj hhost
  exact ⟨trace, s, put, run, hput, built⟩

end AnneDeBreuil
