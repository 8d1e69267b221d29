import AnneDeBreuil.ProcNetRows
import AnneDeBreuil.Reachability

namespace AnneDeBreuil

/-- A row of tcp6 that holds an address. -/
def HoldsAddr (line : List Char) (ip : IpAddr) : Prop :=
  ∃ port, (splitWhitespace line)[1]? = some (kernelAddr ip ++ ':' :: port)

/-- An IPv4 address and the address that maps it are classified as one, and so a
listener that a tcp6 row reports on the latter has the exposure and the verdict
of the same listener on the former. -/
structure MappedAgrees (a : BitVec 32) : Prop where
  classify : Exposure.classify (.mapped a) = Exposure.classify (.v4 a)
  collected : ∀ (inodeToPid : Nat → Option UInt32) (lookups : Lookups) (line : List Char) (raw : RawEndpoint)
    (own : CollectedEndpoint), HoldsAddr line (.mapped a) → parseProcNetLine inodeToPid line = some raw →
    collectEndpoint lookups raw = .ok own →
    ∃ same, collectEndpoint lookups { raw with localAddress := (IpAddr.v4 a).display } = .ok same ∧
      same.bindAddress = ⟨.v4 a⟩ ∧
      (endpointFromCollected own).exposure = (endpointFromCollected same).exposure ∧
      ∀ target rules profiles, evaluate target (endpointFromCollected own) rules profiles =
        evaluate target (endpointFromCollected same) rules profiles

section

variable {a : BitVec 32}

theorem digits_visible {radix n : Nat} {c : Char} (hradix : 1 < radix) (hsmall : radix ≤ 16)
    (h : c ∈ Nat.toDigits radix n) : isWhitespace c = false := by
  obtain ⟨k, hk, rfl⟩ := mem_toDigits hradix h
  have every : ∀ k < 16, isWhitespace (Nat.digitChar k) = false := by decide
  exact every k (by omega)

theorem numbers_visible {radix : Nat} {sep c : Char} {ns : List Nat} (hradix : 1 < radix) (hsmall : radix ≤ 16)
    (hsep : isWhitespace sep = false) (h : c ∈ [sep].intercalate (ns.map (Nat.toDigits radix))) :
    isWhitespace c = false := by
  rcases mem_intercalate _ h with rfl | ⟨part, hpart, hc⟩
  · exact hsep
  · obtain ⟨n, -, rfl⟩ := List.mem_map.mp hpart
    exact digits_visible hradix hsmall hc

theorem displayIpv4_visible {bits : BitVec 32} : ∀ c ∈ displayIpv4 bits, isWhitespace c = false :=
  fun _ hc => numbers_visible (by decide) (by decide) (by decide) hc

theorem IpAddr.display_visible (ip : IpAddr) : ∀ c ∈ ip.display.toList, isWhitespace c = false := by
  cases ip with
  | v4 bits =>
    rw [IpAddr.display, String.toList_ofList]
    exact displayIpv4_visible
  | v6 bits =>
    have groups : ∀ segments, ∀ c ∈ fmtSubslice segments, isWhitespace c = false :=
      fun segments _ hc => numbers_visible (by decide) (by decide) (by decide) hc
    rw [IpAddr.display, String.toList_ofList]
    intro c hc
    unfold displayIpv6 at hc
    split at hc
    next =>
      rcases List.mem_append.mp hc with hc | hc
      · exact (show ∀ c ∈ "::ffff:".toList, isWhitespace c = false by simp [isWhitespace]) c hc
      · exact displayIpv4_visible c hc
    next =>
      dsimp only at hc
      split at hc
      next =>
        rcases List.mem_append.mp hc with hc | hc
        · exact groups _ c hc
        · rcases List.mem_cons.mp hc with rfl | hc
          · decide
          · rcases List.mem_cons.mp hc with rfl | hc
            · decide
            · exact groups _ c hc
      next => exact groups _ c hc

/-- The text of an address is a bind address. -/
theorem BindAddress.fromStr_display (ip : IpAddr) : BindAddress.fromStr ip.display = .ok ⟨ip⟩ := by
  rw [BindAddress.fromStr, trim_of_visible ip.display_visible, IpAddr.fromStr_display]

theorem IpAddr.display_injective : Function.Injective IpAddr.display := by
  intro ip ip' h
  have read := IpAddr.fromStr_display ip
  rw [h, IpAddr.fromStr_display] at read
  exact (Option.some.inj read).symm

/-- The raw endpoint of a row is on the address that the row holds. -/
theorem HoldsAddr.localAddress {inodeToPid : Nat → Option UInt32} {line : List Char} {raw : RawEndpoint} {ip : IpAddr}
    (h : HoldsAddr line ip) (hraw : parseProcNetLine inodeToPid line = some raw) : raw.localAddress = ip.display := by
  obtain ⟨printed, hfield⟩ := h
  obtain ⟨addr, port, read, number, hlocal, hread, -, -, haddress, -⟩ := ((parseFields_iff (.inr rfl)).mp hraw).address
  rw [hfield, Option.some.injEq] at hlocal
  have noColon : ∀ {cs : List Char} {ip : IpAddr}, KernelAddr (PlusNumeral 16) cs ip → ':' ∉ cs := by
    intro cs ip haddr hmem
    rcases haddr.chars ':' hmem with h | h
    · cases h
    · exact h (by decide)
  have plain : KernelAddr (PlusNumeral 16) (kernelAddr ip) ip := (kernelAddr_reads ip).mono fun _ _ => .inl
  have own : splitOnce ':' (kernelAddr ip ++ ':' :: printed) = some (kernelAddr ip, printed) :=
    splitOnce_eq_some.mpr ⟨rfl, noColon plain⟩
  rw [hlocal, splitOnce_eq_some.mpr ⟨rfl, noColon hread⟩] at own
  cases own
  have text := decodeHexAddr_iff.mpr ⟨read, hread, rfl⟩
  rw [decodeHexAddr_kernelAddr ip, Option.some.injEq] at text
  rw [haddress, text]

/-- A collected endpoint differs by its address alone where the raw text does. -/
theorem collectEndpoint_rebind {lookups : Lookups} {raw : RawEndpoint} {own : CollectedEndpoint} {text : String}
    {bindAddress : BindAddress} (h : collectEndpoint lookups raw = .ok own)
    (htext : BindAddress.fromStr text = .ok bindAddress) :
    collectEndpoint lookups { raw with localAddress := text } = .ok { own with bindAddress := bindAddress } := by
  obtain ⟨hprotocol, -, hport, howner⟩ := collectEndpoint_eq_ok_iff.mp h
  exact collectEndpoint_eq_ok_iff.mpr ⟨hprotocol, htext, hport, howner⟩

/-- Two endpoints that differ in their addresses alone have one verdict, where
the addresses are classified as one. -/
theorem evaluate_rebind {own : CollectedEndpoint} {bindAddress : BindAddress}
    (h : Exposure.classify own.bindAddress.ip = Exposure.classify bindAddress.ip) :
    (endpointFromCollected own).exposure = (endpointFromCollected { own with bindAddress := bindAddress }).exposure ∧
      ∀ target rules profiles, evaluate target (endpointFromCollected own) rules profiles =
        evaluate target (endpointFromCollected { own with bindAddress := bindAddress }) rules profiles := by
  obtain ⟨protocol, ownAddress, port, owningProcess⟩ := own
  have exposure : (endpointFromCollected ⟨protocol, ownAddress, port, owningProcess⟩).exposure =
      (endpointFromCollected ⟨protocol, bindAddress, port, owningProcess⟩).exposure := by
    cases owningProcess with
    | resolved => exact h
    | processGone => exact h
    | unresolved => exact h
  have governed : ∀ target rules, applicable target (endpointFromCollected ⟨protocol, ownAddress, port, owningProcess⟩) rules =
      applicable target (endpointFromCollected ⟨protocol, bindAddress, port, owningProcess⟩) rules := by
    intro target rules
    apply List.filter_congr
    intro rule _
    cases owningProcess with
    | resolved => rfl
    | processGone => rfl
    | unresolved => rfl
  refine ⟨exposure, fun target rules profiles => ?_⟩
  unfold evaluate
  rw [exposure, governed]

theorem mapped_ne {bits : BitVec 128} (h : bits.extractLsb' 32 96 ≠ 0xffff#96) : 0xffff#96 ++ a ≠ bits := by
  rintro rfl
  rw [BitVec.extractLsb'_append_eq_left] at h
  exact h rfl

theorem classify_mapped : Exposure.classify (.mapped a) = .specificInterface := by
  have notLoopback : (IpAddr.mapped a).isLoopback = false := beq_eq_false_iff_ne.mpr (mapped_ne (by decide))
  have specified : (IpAddr.mapped a).isUnspecified = false := beq_eq_false_iff_ne.mpr (mapped_ne (by decide))
  rw [Exposure.classify, notLoopback, specified]
  rfl

/-- An address that maps an IPv4 address is always taken for one interface's, so
the two agree exactly where the IPv4 address is. -/
theorem mappedAgrees_iff : MappedAgrees a ↔ (IpAddr.v4 a).isLoopback = false ∧ (IpAddr.v4 a).isUnspecified = false := by
  constructor
  · intro h
    have class4 := h.classify
    rw [classify_mapped, Exposure.classify] at class4
    split at class4
    next => cases class4
    next notLoopback =>
      split at class4
      next => cases class4
      next specified => exact ⟨by simpa using notLoopback, by simpa using specified⟩
  · rintro ⟨notLoopback, specified⟩
    have class4 : Exposure.classify (.v4 a) = .specificInterface := by
      rw [Exposure.classify, notLoopback, specified]
      rfl
    refine ⟨classify_mapped.trans class4.symm, ?_⟩
    intro inodeToPid lookups line raw own hline hraw hown
    have bound : own.bindAddress = ⟨.mapped a⟩ := by
      obtain ⟨-, read, -, -⟩ := collectEndpoint_eq_ok_iff.mp hown
      rw [hline.localAddress hraw, BindAddress.fromStr_display] at read
      exact (Except.ok.inj read).symm
    have same : Exposure.classify own.bindAddress.ip = Exposure.classify (BindAddress.mk (.v4 a)).ip := by
      rw [bound, classify_mapped, class4]
    exact ⟨_, collectEndpoint_rebind hown (BindAddress.fromStr_display (.v4 a)), rfl, evaluate_rebind same⟩

/-- `::ffff:127.0.0.1` is taken for an interface's. -/
theorem mappedAgrees_counterexample : ¬∀ a, MappedAgrees a := by
  intro h
  exact absurd (h 0x7f000001#32).classify (by decide)

end

end AnneDeBreuil
