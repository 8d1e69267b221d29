import AnneDeBreuil.NftDecode

namespace AnneDeBreuil

def NftChain.Named (chain : NftChain) : Prop := chain.table ≠ some "" ∧ chain.name ≠ some ""

/-- The messages that a parse of these bytes reads before it ends: none of them
ends a dump, and what comes next either does or is not a complete message. -/
structure ReadUntil (bytes : List UInt8) (messages : List (Record UInt8)) (rest : List UInt8) : Prop where
  walk : nlMessages.Walk bytes messages rest
  going : ∀ r ∈ messages, ¬Terminal r
  stop : ∀ r, nlMessages.front rest = some r → Terminal r

/-- A parse ends without a fault; its chains come from complete messages ahead of
the one it stops at, and nothing behind a terminal message shows in it. -/
structure SafeParse (buf : ByteSlice) (outcome : BufferOutcome) (messages : List (Record UInt8))
    (rest : List UInt8) : Prop where
  ends : parseNlBuffer buf = .ok outcome
  read : ReadUntil buf.bytes messages rest
  chains : outcome.chains = messages.filterMap chainOf
  sources : ∀ chain ∈ outcome.chains, ∃ r ∈ messages, nlMessages.WellFormed r ∧
    messageType r = newchainMsgType ∧ decodeChain r.body = some chain
  named : ∀ chain ∈ outcome.chains, chain.Named
  done : outcome.done = true ↔ ∃ r, nlMessages.front rest = some r
  tail : ∀ r, nlMessages.front rest = some r → ∃ before after, buf.bytes = before ++ (r.header ++ r.body) ++ after ∧
    ∀ (buf' : ByteSlice) other, buf'.bytes = before ++ (r.header ++ r.body) ++ other → parseNlBuffer buf' = .ok outcome

theorem parseNlBuffer_of_read {buf : ByteSlice} {messages : List (Record UInt8)} {rest : List UInt8}
    (h : ReadUntil buf.bytes messages rest) :
    parseNlBuffer buf =
      .ok (BufferOutcome.close ⟨messages.filterMap chainOf, false, none⟩ (nlMessages.front rest)) := by
  obtain ⟨messages', rest', walk, going, stop, hparse⟩ := parseNlBuffer_eq buf
  obtain ⟨rfl, rfl⟩ := h.walk.unique h.going h.stop walk going stop
  exact hparse

theorem BufferOutcome.close_chains (outcome : BufferOutcome) (r : Option (Record UInt8)) :
    (outcome.close r).chains = outcome.chains := by
  cases r with
  | none => rfl
  | some r =>
    rw [BufferOutcome.close]
    split
    next => rfl
    next => rfl

theorem BufferOutcome.close_done (chains : List NftChain) (r : Option (Record UInt8)) :
    (BufferOutcome.close ⟨chains, false, none⟩ r).done = true ↔ ∃ s, r = some s := by
  cases r with
  | none => simp [BufferOutcome.close]
  | some r =>
    rw [BufferOutcome.close]
    split
    next => exact ⟨fun _ => ⟨r, rfl⟩, fun _ => rfl⟩
    next => exact ⟨fun _ => ⟨r, rfl⟩, fun _ => rfl⟩

theorem decodeNlaString_ne_empty (value : List UInt8) : decodeNlaString value ≠ some "" := by
  intro h
  unfold decodeNlaString at h
  simp only [List.isEmpty_iff] at h
  generalize (if value.getLast? = some 0 then value.take (value.length - 1) else value) = trimmed at h
  split at h
  next => cases h
  next hne => exact fromUtf8_ne_empty h hne rfl

theorem NftChain.Named.apply {chain : NftChain} (h : chain.Named) (attr : UInt16 × List UInt8) :
    (chain.apply attr).Named := by
  unfold NftChain.apply
  split
  next => exact ⟨decodeNlaString_ne_empty _, h.2⟩
  next =>
    split
    next => exact ⟨h.1, decodeNlaString_ne_empty _⟩
    next =>
      split
      next => exact h
      next =>
        split
        next => exact h
        next => exact h

theorem NftChain.Named.foldl {chain : NftChain} (h : chain.Named) (attrs : List (UInt16 × List UInt8)) :
    (attrs.foldl NftChain.apply chain).Named := by
  induction attrs generalizing chain with
  | nil => exact h
  | cons attr attrs ih => exact ih (h.apply attr)

theorem chainOf_eq_some {r : Record UInt8} {chain : NftChain} (h : chainOf r = some chain) :
    messageType r = newchainMsgType ∧ decodeChain r.body = some chain ∧ chain.Named := by
  unfold chainOf at h
  split at h
  next htype =>
    refine ⟨htype, h, ?_⟩
    unfold decodeChain at h
    split at h
    next =>
      cases Option.some.inj h
      exact NftChain.Named.foldl ⟨by simp [NftChain.default], by simp [NftChain.default]⟩ _
    next => cases h
  next => cases h

/-- What is read up to a terminal message, with other bytes behind it. -/
theorem ReadUntil.swap {bytes rest : List UInt8} {messages : List (Record UInt8)} {r : Record UInt8}
    (h : ReadUntil bytes messages rest) (hr : nlMessages.front rest = some r) :
    ∃ before after, bytes = before ++ (r.header ++ r.body) ++ after ∧
      ∀ other, ReadUntil (before ++ (r.header ++ r.body) ++ other) messages (r.header ++ r.body ++ other) ∧
        nlMessages.front (r.header ++ r.body ++ other) = some r := by
  obtain ⟨wf, after, hrest⟩ := Framing.front_eq_some_iff.mp hr
  have hne : rest ≠ [] := by
    rintro rfl
    rw [Framing.front_nil] at hr
    cases hr
  obtain ⟨before, hbytes, swap⟩ := h.walk.swap_rest hne
  refine ⟨before, after, by rw [hbytes, hrest, List.append_assoc before], fun other => ?_⟩
  have front : nlMessages.front (r.header ++ r.body ++ other) = some r :=
    Framing.front_eq_some_iff.mpr ⟨wf, other, rfl⟩
  refine ⟨⟨?_, h.going, ?_⟩, front⟩
  · rw [List.append_assoc]
    exact swap _
  · intro r' hr'
    cases Option.some.inj (front.symm.trans hr')
    exact h.stop r hr

/-- Every parse is safe, whatever the bytes. -/
theorem parseNlBuffer_safe (buf : ByteSlice) : ∃ outcome messages rest, SafeParse buf outcome messages rest := by
  obtain ⟨messages, rest, walk, going, stop, hparse⟩ := parseNlBuffer_eq buf
  have read : ReadUntil buf.bytes messages rest := ⟨walk, going, stop⟩
  have chains := BufferOutcome.close_chains ⟨messages.filterMap chainOf, false, none⟩ (nlMessages.front rest)
  refine ⟨_, messages, rest, hparse, read, chains, ?_, ?_, BufferOutcome.close_done _ _, ?_⟩
  · intro chain hchain
    rw [chains] at hchain
    obtain ⟨r, hr, hof⟩ := List.mem_filterMap.mp hchain
    obtain ⟨htype, hdecode, -⟩ := chainOf_eq_some hof
    exact ⟨r, hr, walk.wellFormed r hr, htype, hdecode⟩
  · intro chain hchain
    rw [chains] at hchain
    obtain ⟨r, -, hof⟩ := List.mem_filterMap.mp hchain
    exact (chainOf_eq_some hof).2.2
  · intro r hr
    obtain ⟨before, after, hbytes, swap⟩ := read.swap hr
    refine ⟨before, after, hbytes, fun buf' other hbuf' => ?_⟩
    obtain ⟨read', front'⟩ := swap other
    rw [parseNlBuffer_of_read (hbuf' ▸ read'), hr, front']

end AnneDeBreuil
