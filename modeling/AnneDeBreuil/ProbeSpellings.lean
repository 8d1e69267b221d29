import AnneDeBreuil.IpDisplay
import AnneDeBreuil.ProbeSpacing

namespace AnneDeBreuil

/-- `ipnet` reads an IPv4 address with a prefix of 32 bits as the network of that
address alone. -/
def IpNetLib.HostNets {ν : Type} (nets : IpNetLib ν) : Prop :=
  ∀ a, ∃ net, nets.fromStr ((IpAddr.v4 a).display ++ "/32") = some net ∧ ∀ ip, nets.contains net ip = true ↔ ip = .v4 a

/-- The spellings of an address: an IPv4 address is also the one that maps it. -/
def IpAddr.spellings : IpAddr → List IpAddr
  | .v4 a => [.v4 a, .mapped a]
  | .v6 b => if b.extractLsb' 32 96 = 0xffff#96 then [.v6 b, .v4 (b.extractLsb' 0 32)] else [.v6 b]

/-- The metadata addresses of `defaultExcludedCidrs`. -/
def metadataAddrs : List (BitVec 32) := [0xa9fea9fe, 0xa9feaa02]

section

variable {ν : Type} (nets : IpNetLib ν)

/-- An exclusion set takes both spellings of an address as one, and no run of the
probe tier attempts a connection that is excluded in either spelling. -/
structure SpellingBlind (exclude : ProbeExclusions ν) : Prop where
  excludes : ∀ a port, exclude.excludes nets (.mapped a) port = true ↔ exclude.excludes nets (.v4 a) port = true
  attempts : ∀ (tier : ProbeTier ν) (trace : List (TierState × TierAction)) (s : TierState), tier.nets = nets →
    tier.config.exclude = exclude → Run tier.step .initial trace s →
    ∀ attempt ∈ s.attempts, ∀ ip ∈ attempt.ip.spellings, exclude.excludes nets ip attempt.port = false

/-- The operator's networks hold the mapped form of an address exactly where they
hold the address or it is a metadata address; or every port is listed. -/
def Mirrored (ports : List UInt16) (cidrs : List ν) : Prop :=
  (∀ port, port ∈ ports) ∨ ∀ a, (∃ net ∈ cidrs, nets.contains net (.mapped a) = true) ↔
    a ∈ metadataAddrs ∨ ∃ net ∈ cidrs, nets.contains net (.v4 a) = true

end

section

variable {ν : Type} {nets : IpNetLib ν} {tier : ProbeTier ν} {s t : TierState} {action : TierAction}

theorem connectTo_allowed {ip : IpAddr} {rawPort : UInt16} {port : Port} (h : tier.connectTo ip rawPort = some port) :
    tier.config.exclude.excludes tier.nets ip rawPort = false := by
  unfold ProbeTier.connectTo at h
  split at h
  next => cases h
  next =>
    split at h
    next => cases h
    next allowed => simpa using allowed

/-- The target of a phase whose prober's call has been let in. -/
def ProbePhase.target : ProbePhase → Option (IpAddr × UInt16)
  | .inCall ip port _ _ _ => some (ip, port.get)
  | _ => none

/-- A call is in after a step if it was in before, or its target is not excluded. -/
theorem TierMove.target (move : TierMove tier s action t) {task : Nat} {target : IpAddr × UInt16}
    (after : (t.phase task).target = some target) :
    (s.phase task).target = some target ∨ tier.config.exclude.excludes tier.nets target.1 target.2 = false := by
  have moved : ∀ {own : Nat} {phase : ProbePhase} {u : TierState}, u.phase = Function.update s.phase own phase →
      (u.phase task).target = some target → (task = own → phase.target ≠ some target) → (s.phase task).target = some target := by
    intro own phase u hu hafter outside
    rw [hu] at hafter
    by_cases same : task = own
    · rw [same, Function.update_self] at hafter
      exact absurd hafter (outside same)
    · rwa [Function.update_of_ne same] at hafter
  have apart : ∀ {own : Nat} {ip : IpAddr} {port : Port} {rest : List UInt16} {called : ProberKind} {state : ProberState},
      (((s.setProber called state).afterCall own ip port rest called).phase task).target = some target →
      (s.phase task).target = some target := by
    intro own ip port rest called state hafter
    cases called with
    | http => exact moved rfl hafter (by simp [ProbePhase.target])
    | tls => exact moved rfl hafter (by simp [ProbePhase.target])
  cases move with
  | waits => exact .inl after
  | resolves | unresolved | finishes | connects | skips | opens | closed | panics | abandons
    | drops => exact .inl (moved rfl after (by simp [ProbePhase.target]))
  | refused | answered => exact .inl (apart after)
  | @enters own ip port rest called state before reserved =>
    by_cases same : task = own
    · subst same
      rw [TierState.phase_setPhase, Function.update_self] at after
      cases after
      exact .inr (ProberState.enter_ok reserved)
    · exact .inl (moved rfl after fun own => absurd own same)
  | @calls own action ip port rest called call next state before stepped =>
    by_cases same : task = own
    · subst same
      rw [TierState.phase_setPhase, Function.update_self] at after
      rw [before]
      exact .inl after
    · exact .inl (moved rfl after fun own => absurd own same)

/-- What is attempted is not excluded, given that the calls let in are not. -/
theorem attemptOf_allowed {attempt : Attempt} (h : tier.attemptOf s action = some attempt)
    (calls : ∀ task target, (s.phase task).target = some target →
      tier.config.exclude.excludes tier.nets target.1 target.2 = false) :
    tier.config.exclude.excludes tier.nets attempt.ip attempt.port = false := by
  obtain ⟨task, ip, rawPort, rest, port, -, -, allowed, rfl⟩ | ⟨task, ip, port, rest, called, request, wake, -, before, rfl⟩ :=
    tier.attemptOf_cases h
  · exact connectTo_allowed allowed
  · exact calls task (ip, port.get) (by rw [before]; rfl)

/-- No attempt of a run goes where it is excluded, in the spelling it goes to. -/
theorem attempts_allowed {trace : List (TierState × TierAction)} (run : Run tier.step .initial trace s) :
    ∀ attempt ∈ s.attempts, tier.config.exclude.excludes tier.nets attempt.ip attempt.port = false := by
  refine (run.always (fun s => (∀ task target, (s.phase task).target = some target →
      tier.config.exclude.excludes tier.nets target.1 target.2 = false) ∧
    ∀ attempt ∈ s.attempts, tier.config.exclude.excludes tier.nets attempt.ip attempt.port = false)
    ⟨nofun, nofun⟩ ?_).2
  rintro s action t ⟨calls, logged⟩ h
  obtain ⟨u, hu, rfl⟩ := Option.map_eq_some_iff.mp h
  refine ⟨?_, ?_⟩
  · intro task target htarget
    rcases (tier.advance_moves hu).target htarget with before | allowed
    · exact calls task target before
    · exact allowed
  · intro attempt hattempt
    rcases List.mem_append.mp hattempt with hattempt | hattempt
    · exact logged attempt hattempt
    · exact attemptOf_allowed (Option.mem_toList.mp hattempt) calls

theorem mem_spellings {ip spelled : IpAddr} (h : spelled ∈ ip.spellings) :
    spelled = ip ∨ ∃ a, (ip = .v4 a ∧ spelled = .mapped a) ∨ (ip = .mapped a ∧ spelled = .v4 a) := by
  cases ip with
  | v4 a =>
    simp only [IpAddr.spellings, List.mem_cons, List.not_mem_nil, or_false] at h
    rcases h with rfl | rfl
    · exact .inl rfl
    · exact .inr ⟨a, .inl ⟨rfl, rfl⟩⟩
  | v6 b =>
    simp only [IpAddr.spellings] at h
    split at h
    next high =>
      simp only [List.mem_cons, List.not_mem_nil, or_false] at h
      rcases h with rfl | rfl
      · exact .inl rfl
      · refine .inr ⟨_, .inr ⟨?_, rfl⟩⟩
        rw [IpAddr.mapped, ← high, BitVec.extractLsb'_append_extractLsb'_eq_extractLsb' (by decide)]
        simp
    next => exact .inl (List.mem_singleton.mp h)

theorem excludes_new_iff (host : nets.HostNets) {ports : List UInt16} {cidrs : List ν} {ip : IpAddr} {port : UInt16} :
    (ProbeExclusions.new nets ports cidrs).excludes nets ip port = true ↔
      port ∈ ports ∨ (∃ a ∈ metadataAddrs, ip = .v4 a) ∨ ∃ net ∈ cidrs, nets.contains net ip = true := by
  have defaults : defaultExcludedCidrs = metadataAddrs.map fun a => (IpAddr.v4 a).display ++ "/32" := by decide +kernel
  have metadata : (∃ net ∈ defaultExcludedCidrs.filterMap nets.fromStr, nets.contains net ip = true) ↔
      ∃ a ∈ metadataAddrs, ip = .v4 a := by
    rw [defaults]
    constructor
    · rintro ⟨net, hnet, hcontains⟩
      obtain ⟨text, htext, hread⟩ := List.mem_filterMap.mp hnet
      obtain ⟨a, ha, rfl⟩ := List.mem_map.mp htext
      obtain ⟨own, hown, alone⟩ := host a
      rw [hown, Option.some.injEq] at hread
      subst hread
      exact ⟨a, ha, (alone ip).mp hcontains⟩
    · rintro ⟨a, ha, hip⟩
      obtain ⟨own, hown, alone⟩ := host a
      exact ⟨own, List.mem_filterMap.mpr ⟨_, List.mem_map_of_mem ha, hown⟩, (alone ip).mpr hip⟩
  rw [ProbeExclusions.excludes, ProbeExclusions.new, Bool.or_eq_true, decide_eq_true_iff]
  simp only [List.any_eq_true, List.mem_append, or_and_right, exists_or, metadata]

/-- The two spellings are excluded alike exactly where the operator's networks
mirror the metadata addresses too. -/
theorem spellingBlind_iff (host : nets.HostNets) (ports : List UInt16) (cidrs : List ν) :
    SpellingBlind nets (.new nets ports cidrs) ↔ Mirrored nets ports cidrs := by
  have plain : ∀ a port, (ProbeExclusions.new nets ports cidrs).excludes nets (.v4 a) port = true ↔
      port ∈ ports ∨ a ∈ metadataAddrs ∨ ∃ net ∈ cidrs, nets.contains net (.v4 a) = true := by
    intro a port
    rw [excludes_new_iff host]
    simp
  have mapped : ∀ a port, (ProbeExclusions.new nets ports cidrs).excludes nets (.mapped a) port = true ↔
      port ∈ ports ∨ ∃ net ∈ cidrs, nets.contains net (.mapped a) = true := by
    intro a port
    rw [excludes_new_iff host]
    simp [IpAddr.mapped]
  constructor
  · intro blind
    by_cases all : ∀ port, port ∈ ports
    · exact .inl all
    · obtain ⟨port, outside⟩ := not_forall.mp all
      refine .inr fun a => ?_
      have same := blind.excludes a port
      rw [mapped, plain] at same
      simpa [outside] using same
  · intro mirrored
    have same : ∀ a port, (ProbeExclusions.new nets ports cidrs).excludes nets (.mapped a) port = true ↔
        (ProbeExclusions.new nets ports cidrs).excludes nets (.v4 a) port = true := by
      intro a port
      rw [mapped, plain]
      rcases mirrored with all | mirrored
      · exact iff_of_true (.inl (all port)) (.inl (all port))
      · rw [mirrored a]
    refine ⟨same, ?_⟩
    rintro tier trace s rfl hexclude run attempt hattempt ip hip
    have allowed := attempts_allowed run attempt hattempt
    rw [hexclude] at allowed
    rcases mem_spellings hip with rfl | ⟨a, ⟨hown, rfl⟩ | ⟨hown, rfl⟩⟩
    · exact allowed
    · rw [hown] at allowed
      rw [Bool.eq_false_iff, ne_eq, same, allowed]
      decide
    · rw [hown] at allowed
      rw [Bool.eq_false_iff, ne_eq, ← same, allowed]
      decide

end

theorem hostNets_hostNets : hostNets.HostNets := by
  intro a
  refine ⟨.v4 a, ?_, fun ip => ?_⟩
  · have split : splitOnce '/' ((IpAddr.v4 a).display ++ "/32").toList = some ((IpAddr.v4 a).display.toList, ['3', '2']) := by
      rw [splitOnce_eq_some]
      refine ⟨by rw [String.toList_append]; rfl, ?_⟩
      intro hmem
      rw [IpAddr.display, String.toList_ofList] at hmem
      rcases mem_displayIpv4 hmem with h | ⟨k, hk, h⟩
      · cases h
      · exact (show ∀ k < 10, '/' ≠ Nat.digitChar k by decide) k hk h
    simp only [hostNets, split, String.ofList_toList, IpAddr.fromStr_display]
  · simp only [hostNets, decide_eq_true_eq]
    exact eq_comm

/-- Listing every network's mapped form too makes the two spellings one. -/
theorem spellingBlind_iff_mirrored :
    SpellingBlind hostNets (.new hostNets [] [.mapped 0xa9fea9fe, .mapped 0xa9feaa02]) ↔
      Mirrored hostNets [] [.mapped 0xa9fea9fe, .mapped 0xa9feaa02] :=
  spellingBlind_iff hostNets_hostNets _ _

def metadataTier : ProbeTier IpAddr where
  nets := hostNets
  config := .default hostNets
  address _ := "::ffff:169.254.169.254"

/-- With the default exclusions a host written as `::ffff:169.254.169.254` is
dialled, though the metadata address is excluded. -/
theorem spellingBlind_counterexample :
    ¬(∀ ports cidrs, SpellingBlind hostNets (.new hostNets ports cidrs)) ∧
      ∃ trace s, Run metadataTier.step .initial trace s ∧
        ∃ attempt ∈ s.attempts, attempt.ip = .mapped 0xa9fea9fe ∧
          metadataTier.config.exclude.excludes hostNets (.v4 0xa9fea9fe) attempt.port = true := by
  have dialled : (runList metadataTier.step .initial [.resolve 0 none, .next 0]).map TierState.attempts =
      some [⟨0, .mapped 0xa9fea9fe, 21, .raw, 0⟩] := by decide +kernel
  have forbidden : (ProbeExclusions.new hostNets [] []).excludes hostNets (.v4 0xa9fea9fe) 21 = true := by decide +kernel
  refine ⟨?_, ?_⟩
  · intro h
    have spelled := ((h [] []).excludes 0xa9fea9fe 21).mpr forbidden
    exact absurd spelled (by decide +kernel)
  · obtain ⟨s, hs, hattempts⟩ := Option.map_eq_some_iff.mp dialled
    obtain ⟨trace, run, -⟩ := Run.of_runList hs
    exact ⟨trace, s, run, _, by rw [hattempts]; exact List.mem_singleton.mpr rfl, rfl, forbidden⟩

end AnneDeBreuil
