import AnneDeBreuil.Collect

namespace AnneDeBreuil

/-- What a collection run is told: the sockets, and in each round of the loop what
the resolver and the verifier answer then. -/
structure CollectSources where
  listeningEndpoints : Except CollectError (List RawEndpoint)
  lookups : Nat → Lookups

def collectLoop (lookups : Nat → Lookups) : List CollectedEndpoint → List RawEndpoint →
    Except CollectError (List CollectedEndpoint)
  | collected, [] => .ok collected
  | collected, raw :: raws => do
    let endpoint ← collectEndpoint (lookups collected.length) raw
    collectLoop lookups (collected ++ [endpoint]) raws

def collectEndpoints (sources : CollectSources) : Except CollectError (List CollectedEndpoint) := do
  let rawEndpoints ← sources.listeningEndpoints
  collectLoop sources.lookups [] rawEndpoints

/-- Each socket has its own round, and the endpoint of that round. -/
def CollectedInRounds (lookups : Nat → Lookups) (raws : List RawEndpoint) (collected : List CollectedEndpoint) : Prop :=
  collected.length = raws.length ∧ ∀ (round : Nat) (raw : RawEndpoint) (endpoint : CollectedEndpoint),
    raws[round]? = some raw → collected[round]? = some endpoint → collectEndpoint (lookups round) raw = .ok endpoint

/-- What is recorded of a socket without a live owner. -/
inductive Unattributed (lookups : Lookups) : Option UInt32 → ProcessAttribution → Prop
  | missing : Unattributed lookups none .unresolved
  | zero : Unattributed lookups (some 0) .unresolved
  | gone {rawPid : UInt32} {pid : ProcessId} (live : ProcessId.tryFrom rawPid = some pid)
      (exited : lookups.describe pid = .ok none) : Unattributed lookups (some rawPid) .processGone

section

variable {lookups : Nat → Lookups} {raws : List RawEndpoint} {done collected : List CollectedEndpoint}

/-- The loop puts behind what it has one endpoint for each socket that is left, each
from the lookups of its own round. -/
theorem collectLoop_eq_ok_iff : collectLoop lookups done raws = .ok collected ↔
    ∃ rest, collected = done ++ rest ∧ CollectedInRounds (fun round => lookups (done.length + round)) raws rest := by
  induction raws generalizing done with
  | nil =>
    rw [collectLoop, Except.ok.injEq]
    constructor
    · rintro rfl
      exact ⟨[], by simp, rfl, by simp⟩
    · rintro ⟨rest, rfl, empty, -⟩
      rw [List.length_eq_zero_iff.mp empty, List.append_nil]
  | cons raw raws ih =>
    have shift : ∀ (endpoint : CollectedEndpoint) (round : Nat),
        lookups ((done ++ [endpoint]).length + round) = lookups (done.length + (round + 1)) := by
      intro endpoint round
      rw [List.length_append, List.length_singleton, Nat.add_right_comm, Nat.add_assoc]
    rw [collectLoop]
    constructor
    · intro h
      obtain ⟨endpoint, hfirst, h⟩ := bind_eq_ok h
      obtain ⟨rest, rfl, hlength, hrounds⟩ := ih.mp h
      refine ⟨endpoint :: rest, by simp, by simp [hlength], ?_⟩
      intro round other result hraw hresult
      cases round with
      | zero =>
        cases hraw
        cases hresult
        exact hfirst
      | succ round =>
        have later : collectEndpoint (lookups ((done ++ [endpoint]).length + round)) other = .ok result :=
          hrounds round other result hraw hresult
        rwa [shift] at later
    · rintro ⟨rest, rfl, hlength, hrounds⟩
      cases rest with
      | nil => cases hlength
      | cons endpoint rest =>
        have hfirst : collectEndpoint (lookups done.length) raw = .ok endpoint := hrounds 0 raw endpoint rfl rfl
        rw [hfirst, ok_bind]
        refine ih.mpr ⟨rest, by simp, by simpa using hlength, ?_⟩
        intro round other result hraw hresult
        have later : collectEndpoint (lookups (done.length + (round + 1))) other = .ok result :=
          hrounds (round + 1) other result hraw hresult
        rwa [← shift endpoint] at later

theorem collectEndpoints_eq_ok_iff {sources : CollectSources} : collectEndpoints sources = .ok collected ↔
    ∃ raws, sources.listeningEndpoints = .ok raws ∧ CollectedInRounds sources.lookups raws collected := by
  rw [collectEndpoints]
  cases listened : sources.listeningEndpoints with
  | error e => exact iff_of_false nofun (by rintro ⟨raws, ⟨⟩, -⟩)
  | ok raws =>
    rw [ok_bind, collectLoop_eq_ok_iff]
    simp

end

/-- A socket without a live owner is no error. -/
theorem resolveProcess_unattributed {lookups : Lookups} {owningPid : Option UInt32} {attribution : ProcessAttribution}
    (h : Unattributed lookups owningPid attribution) : resolveProcess lookups owningPid = .ok attribution := by
  cases h with
  | missing => rfl
  | zero => rfl
  | gone live exited => simp only [resolveProcess, Option.bind_some, live, exited, ok_bind]

/-- Another owner, or another answer about it, changes the attribution of that round. -/
theorem CollectedInRounds.set {lookups : Nat → Lookups} {raws : List RawEndpoint} {collected : List CollectedEndpoint}
    (h : CollectedInRounds lookups raws collected) {round : Nat} {raw : RawEndpoint} {endpoint : CollectedEndpoint}
    (hraw : raws[round]? = some raw) (hendpoint : collected[round]? = some endpoint) {answers : Lookups}
    {owningPid : Option UInt32} {attribution : ProcessAttribution}
    (resolved : resolveProcess answers owningPid = .ok attribution) :
    CollectedInRounds (fun other => if other = round then answers else lookups other)
      (raws.set round { raw with owningPid := owningPid })
      (collected.set round { endpoint with owningProcess := attribution }) := by
  obtain ⟨hlength, hrounds⟩ := h
  refine ⟨by simp [hlength], fun other otherRaw otherEndpoint hotherRaw hotherEndpoint => ?_⟩
  by_cases own : other = round
  · subst own
    have inRaws : other < raws.length := (List.getElem?_eq_some_iff.mp hraw).1
    rw [List.getElem?_set_self inRaws] at hotherRaw
    rw [List.getElem?_set_self (hlength ▸ inRaws)] at hotherEndpoint
    cases hotherRaw
    cases hotherEndpoint
    obtain ⟨hprotocol, hbind, hport, -⟩ := collectEndpoint_eq_ok_iff.mp (hrounds other raw endpoint hraw hendpoint)
    simp only [if_true]
    exact collectEndpoint_eq_ok_iff.mpr ⟨hprotocol, hbind, hport, resolved⟩
  · rw [List.getElem?_set_ne (Ne.symm own)] at hotherRaw hotherEndpoint
    simp only [if_neg own]
    exact hrounds other otherRaw otherEndpoint hotherRaw hotherEndpoint

/-- The fields of a socket that its endpoint has to keep. -/
def SameSocket (endpoint : Endpoint) (collected : CollectedEndpoint) : Prop :=
  endpoint.protocol = collected.protocol ∧ endpoint.bindAddress = collected.bindAddress ∧ endpoint.port = collected.port

theorem endpointFromCollected_sameSocket (collected : CollectedEndpoint) :
    SameSocket (endpointFromCollected collected) collected := by
  unfold endpointFromCollected
  split <;> exact ⟨rfl, rfl, rfl⟩

theorem endpointFromCollected_processId (collected : CollectedEndpoint) (pid : ProcessId) :
    (endpointFromCollected collected).processId = some pid ↔ ∃ path hostedServices signature commandLine,
      collected.owningProcess = .resolved pid path hostedServices signature commandLine := by
  unfold endpointFromCollected
  split
  next own path hostedServices signature commandLine hresolved =>
    simp [Endpoint.new, hresolved]
  next hgone => simp [Endpoint.new, hgone]
  next hunresolved => simp [Endpoint.new, hunresolved]

/-- A collection run loses, merges and reorders nothing, and what is not known of an
owner stays with its own socket. -/
theorem collectEndpoints_lossless (sources : CollectSources) :
    (∀ collected, collectEndpoints sources = .ok collected ↔
      ∃ raws, sources.listeningEndpoints = .ok raws ∧ CollectedInRounds sources.lookups raws collected) ∧
    (∀ (lookups : Lookups) (raw : RawEndpoint) (endpoint : CollectedEndpoint),
      collectEndpoint lookups raw = .ok endpoint ↔ Protocol.fromStr raw.protocol = .ok endpoint.protocol ∧
        BindAddress.fromStr raw.localAddress = .ok endpoint.bindAddress ∧
        Port.tryFrom raw.localPort = .ok endpoint.port ∧
        resolveProcess lookups raw.owningPid = .ok endpoint.owningProcess) ∧
    (∀ (lookups : Lookups) (owningPid : Option UInt32) (attribution : ProcessAttribution),
      Unattributed lookups owningPid attribution → resolveProcess lookups owningPid = .ok attribution) ∧
    (∀ (raws : List RawEndpoint) (collected : List CollectedEndpoint) (round : Nat) (raw : RawEndpoint)
      (endpoint : CollectedEndpoint) (answers : Lookups) (owningPid : Option UInt32) (attribution : ProcessAttribution),
      sources.listeningEndpoints = .ok raws → collectEndpoints sources = .ok collected → raws[round]? = some raw →
      collected[round]? = some endpoint → resolveProcess answers owningPid = .ok attribution →
      collectEndpoints ⟨.ok (raws.set round { raw with owningPid := owningPid }),
          fun other => if other = round then answers else sources.lookups other⟩ =
        .ok (collected.set round { endpoint with owningProcess := attribution })) ∧
    ∀ collected : CollectedEndpoint, SameSocket (endpointFromCollected collected) collected ∧
      ∀ pid, (endpointFromCollected collected).processId = some pid ↔ ∃ path hostedServices signature commandLine,
        collected.owningProcess = .resolved pid path hostedServices signature commandLine := by
  refine ⟨fun _ => collectEndpoints_eq_ok_iff, fun _ _ _ => collectEndpoint_eq_ok_iff,
    fun _ _ _ => resolveProcess_unattributed, ?_, fun collected =>
      ⟨endpointFromCollected_sameSocket collected, endpointFromCollected_processId collected⟩⟩
  intro raws collected round raw endpoint answers owningPid attribution listened ran hraw hendpoint resolved
  obtain ⟨raws', listened', rounds⟩ := collectEndpoints_eq_ok_iff.mp ran
  obtain rfl : raws' = raws := Except.ok.inj (listened'.symm.trans listened)
  exact collectEndpoints_eq_ok_iff.mpr ⟨_, rfl, rounds.set hraw hendpoint resolved⟩

end AnneDeBreuil
