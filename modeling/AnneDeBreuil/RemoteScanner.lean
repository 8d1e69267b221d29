import AnneDeBreuil.Fanout

namespace AnneDeBreuil

/-- What one call of `scan` meets: this binary and its hash, the connection and
the host behind it, and what the probes of the well-known ports found. -/
structure SshScanEnv where
  exeHash : Except String (String × String)
  connect : Await (Except TransportError Unit)
  remotePath : RemotePath
  collect : CollectEnv
  probeHost : Await (List Endpoint)
  scanId : ScanId
  nowUtc : OffsetDateTime

/-- The scanner, by the texts of its errors and of the version it stamps. -/
structure SshHostScanner where
  debug : DebugText
  version : String

/-- The snapshot is the remote's, but for its host id. -/
def SshHostScanner.scanExecute (scanner : SshHostScanner) (host : InventoryHost) (env : SshScanEnv) :
    Await (Except HostError ScanSnapshot) :=
  match env.exeHash with
  | .error err => .ready (.error (.fatal ("hashing this binary before push: " ++ err)))
  | .ok (exePath, expectedHash) =>
    match env.connect with
    | .dropped => .dropped
    | .ready (.error err) => .ready (.error (mapTransportError scanner.debug err))
    | .ready (.ok ()) =>
      match (pushExecCollectRemove env.collect exePath env.remotePath expectedHash).result with
      | .dropped => .dropped
      | .ready (.error err) => .ready (.error (mapTransportError scanner.debug err))
      | .ready (.ok snapshot) => .ready (.ok { snapshot with hostId := host.hostId })

def SshHostScanner.scanProbe (scanner : SshHostScanner) (host : InventoryHost) (env : SshScanEnv) :
    Await ScanSnapshot :=
  match env.probeHost with
  | .dropped => .dropped
  | .ready endpoints =>
    .ready (.new host.hostId env.scanId env.nowUtc scanner.version endpoints [] [] .probe)

def SshHostScanner.scan (scanner : SshHostScanner) (host : InventoryHost) (strategy : TargetStrategy)
    (_idempotencyKey : IdempotencyKey) (env : SshScanEnv) : Await (Except HostError ScanSnapshot) :=
  match strategy with
  | .execute => scanner.scanExecute host env
  | .probe =>
    match scanner.scanProbe host env with
    | .dropped => .dropped
    | .ready snapshot => .ready (.ok snapshot)
  | .localOnly => .ready (.error (.fatal ("SshHostScanner does not handle TargetStrategy::LocalOnly -- that tier is " ++
      "the local scan path's own responsibility, never fanned out over a transport")))

/-- The JSON that the collector run on the host emits, decoded. -/
def SshScanEnv.Emits (env : SshScanEnv) (snapshot : ScanSnapshot) : Prop :=
  ∃ output, env.collect.exec (.new env.remotePath.asStr ["scan", "--emit-json"]) = .ready (.ok output) ∧
    env.collect.fromSlice output.stdout = .ok snapshot

section

variable {scanner : SshHostScanner} {host : InventoryHost} {env : SshScanEnv} {snapshot : ScanSnapshot}

theorem runAndCollect_emits {collect : CollectEnv} {remotePath : RemotePath} {expectedHash : String}
    (h : runAndCollect collect remotePath expectedHash = .ready (.ok snapshot)) :
    ∃ output, collect.exec (.new remotePath.asStr ["scan", "--emit-json"]) = .ready (.ok output) ∧
      collect.fromSlice output.stdout = .ok snapshot := by
  unfold runAndCollect at h
  split at h
  next => cases h
  next => cases h
  next hashCheck hhash =>
    split at h
    next => cases h
    next =>
      split at h
      next => cases h
      next => cases h
      next output hexec =>
        refine ⟨output, hexec, ?_⟩
        cases hslice : collect.fromSlice output.stdout with
        | error message =>
          rw [hslice] at h
          cases h
        | ok decoded =>
          rw [hslice] at h
          cases h
          rfl

theorem pushExecCollectRemove_emits {collect : CollectEnv} {binary expectedHash : String} {remotePath : RemotePath}
    (h : (pushExecCollectRemove collect binary remotePath expectedHash).result = .ready (.ok snapshot)) :
    runAndCollect collect remotePath expectedHash = .ready (.ok snapshot) := by
  unfold pushExecCollectRemove at h
  split at h
  next => cases h
  next => cases h
  next created hpush =>
    cases hrun : runAndCollect collect remotePath expectedHash with
    | dropped =>
      rw [hrun] at h
      cases h
    | ready result =>
      simp only [hrun, RemoteArtifactGuard.removeNow] at h
      cases hremove : sftpRemove collect.remove with
      | dropped =>
        rw [hremove] at h
        cases h
      | ready removed =>
        rw [hremove] at h
        exact h

/-- An `Execute` scan hands on what the collector emitted, under the host's id. -/
theorem scanExecute_emits (h : scanner.scanExecute host env = .ready (.ok snapshot)) :
    ∃ emitted, env.Emits emitted ∧ snapshot = { emitted with hostId := host.hostId } := by
  unfold SshHostScanner.scanExecute at h
  split at h
  next => cases h
  next exePath expectedHash hhash =>
    split at h
    next => cases h
    next => cases h
    next =>
      split at h
      next => cases h
      next => cases h
      next emitted hresult =>
        cases h
        exact ⟨emitted, runAndCollect_emits (pushExecCollectRemove_emits hresult), rfl⟩

/-- The host id is the inventory's; the strategy is the orchestrator's but where
the collector emitted another. -/
theorem scan_stamped {strategy : TargetStrategy} {key : IdempotencyKey}
    (h : scanner.scan host strategy key env = .ready (.ok snapshot)) :
    snapshot.hostId = host.hostId ∧
      (snapshot.strategy = strategy ∨ strategy = .execute ∧
        ∃ emitted, env.Emits emitted ∧ snapshot.strategy = emitted.strategy) := by
  cases strategy with
  | execute =>
    obtain ⟨emitted, hemits, rfl⟩ := scanExecute_emits h
    exact ⟨rfl, .inr ⟨rfl, emitted, hemits, rfl⟩⟩
  | probe =>
    simp only [SshHostScanner.scan, SshHostScanner.scanProbe] at h
    split at h
    next => cases h
    next probed hprobed =>
      cases h
      split at hprobed
      next => cases hprobed
      next =>
        cases hprobed
        exact ⟨rfl, .inl rfl⟩
  | localOnly => cases h

end

end AnneDeBreuil
