import AnneDeBreuil.NftEncode

namespace AnneDeBreuil

structure DumpedChain where
  family : UInt8
  chain : NftChain
deriving DecidableEq, Repr

def DumpedChain.identity (dumped : DumpedChain) : UInt8 × Option String × Option String :=
  (dumped.family, dumped.chain.table, dumped.chain.name)

/-- The family is the first byte of the payload. -/
structure WireMessage.Dumps (message : WireMessage) (dumped : DumpedChain) : Prop where
  carries : message.Carries dumped.chain
  family : message.payload.head? = some dumped.family

/-- The rules of two chains can be told apart, both as raw rules and as the
domain rules they are mapped to. -/
def DistinctRules (crates : IdCrates) (a b : NftChain) : Prop :=
  ∀ r s, nftChainToRawRule a = some r → nftChainToRawRule b = some s →
    r.ruleId ≠ s.ruleId ∧
    ∀ rules rules', firewallRulesFromRaw crates [r] = .ok rules → firewallRulesFromRaw crates [s] = .ok rules' →
      ∀ x ∈ rules, ∀ y ∈ rules', x.ruleId ≠ y.ruleId

/-- Any two chains of the dump that differ in family, table or name come out of
the query as chains with distinct rules. -/
def IdentityKept (crates : IdCrates) (datagrams : List ByteSlice) (dump : List DumpedChain) : Prop :=
  ∃ chains, recvLoop (datagrams.map .ok) [] = .ok (some (.ok chains)) ∧
    ∀ (i j : Nat) a b, dump[i]? = some a → dump[j]? = some b → a.identity ≠ b.identity →
      ∀ c d, chains[i]? = some c → chains[j]? = some d → DistinctRules crates c d

/-- A table or a chain without a name is shown as a question mark. -/
def NftChain.shownTable (chain : NftChain) : String := chain.table.getD "?"
def NftChain.shownName (chain : NftChain) : String := chain.name.getD "?"

/-- The same table and name, or a slash of a name where another has it in its table. -/
def NftChain.ReadsAs (a b : NftChain) : Prop :=
  (a.shownTable = b.shownTable ∧ a.shownName = b.shownName) ∨
  ∃ x, a.shownTable = b.shownTable ++ "/" ++ x ∧ b.shownName = x ++ "/" ++ a.shownName

def NftChain.ruleText (chain : NftChain) : String := "nftables/" ++ chain.shownTable ++ "/" ++ chain.shownName

/-- What the identifiers of a dump's rules rely on: no text that starts with the
letter n is a UUID, and the digests of the texts do not collide. -/
structure IdCrates.LawfulFor (crates : IdCrates) (dump : List DumpedChain) : Prop where
  notUuid : ∀ cs, crates.uuidParseStr (String.ofList ('n' :: cs)) = none
  collisionFree : ∀ a ∈ dump, ∀ b ∈ dump,
    RuleId.synthesize crates a.chain.ruleText = RuleId.synthesize crates b.chain.ruleText →
      a.chain.ruleText = b.chain.ruleText

theorem append_cons_eq_append_cons_iff {α : Type} {s : α} {as bs cs ds : List α} :
    as ++ s :: bs = cs ++ s :: ds ↔
      (as = cs ∧ bs = ds) ∨ (∃ xs, as = cs ++ s :: xs ∧ ds = xs ++ s :: bs) ∨
        ∃ xs, cs = as ++ s :: xs ∧ bs = xs ++ s :: ds := by
  constructor
  · intro h
    rcases List.append_eq_append_iff.mp h with ⟨xs, hcs, hbs⟩ | ⟨xs, has, hds⟩
    · cases xs with
      | nil =>
        rw [List.append_nil] at hcs
        exact .inl ⟨hcs.symm, (List.cons.inj hbs).2⟩
      | cons x xs =>
        obtain ⟨rfl, htail⟩ := List.cons.inj hbs
        exact .inr (.inr ⟨xs, hcs, htail⟩)
    · cases xs with
      | nil =>
        rw [List.append_nil] at has
        exact .inl ⟨has, (List.cons.inj hds).2.symm⟩
      | cons x xs =>
        obtain ⟨rfl, htail⟩ := List.cons.inj hds
        exact .inr (.inl ⟨xs, has, htail⟩)
  · rintro (⟨rfl, rfl⟩ | ⟨xs, rfl, rfl⟩ | ⟨xs, rfl, rfl⟩)
    · rfl
    · simp
    · simp

theorem ruleText_eq_iff {a b : NftChain} : a.ruleText = b.ruleText ↔ a.ReadsAs b ∨ b.ReadsAs a := by
  have joined : a.ruleText = b.ruleText ↔
      a.shownTable.toList ++ '/' :: a.shownName.toList = b.shownTable.toList ++ '/' :: b.shownName.toList := by
    rw [← String.toList_inj]
    simp [NftChain.ruleText]
  have longer : ∀ c d : NftChain,
      (∃ xs, c.shownTable.toList = d.shownTable.toList ++ '/' :: xs ∧ d.shownName.toList = xs ++ '/' :: c.shownName.toList) ↔
        ∃ x, c.shownTable = d.shownTable ++ "/" ++ x ∧ d.shownName = x ++ "/" ++ c.shownName := by
    intro c d
    constructor
    · rintro ⟨xs, htable, hname⟩
      exact ⟨String.ofList xs, by rw [← String.toList_inj]; simp [htable], by rw [← String.toList_inj]; simp [hname]⟩
    · rintro ⟨x, htable, hname⟩
      exact ⟨x.toList, by rw [htable]; simp, by rw [hname]; simp⟩
  rw [joined, append_cons_eq_append_cons_iff, longer, longer, String.toList_inj, String.toList_inj]
  unfold NftChain.ReadsAs
  constructor
  · rintro (same | left | right)
    · exact .inl (.inl same)
    · exact .inl (.inr left)
    · exact .inr (.inr right)
  · rintro ((same | left) | (same | right))
    · exact .inl same
    · exact .inr (.inl left)
    · exact .inl ⟨same.1.symm, same.2.symm⟩
    · exact .inr (.inr right)

theorem nftChainToRawRule_inbound {chain : NftChain} (h : chain.hooknum = some nfInetLocalIn) :
    ∃ raw, nftChainToRawRule chain = some raw ∧ raw.ruleId = chain.ruleText := by
  unfold nftChainToRawRule
  rw [if_neg (by simp [h])]
  exact ⟨_, rfl, rfl⟩

theorem nftChainToRawRule_some {chain : NftChain} {raw : RawRule} (h : nftChainToRawRule chain = some raw) :
    chain.hooknum = some nfInetLocalIn ∧ raw.ruleId = chain.ruleText := by
  have inbound : chain.hooknum = some nfInetLocalIn := by
    by_contra hne
    unfold nftChainToRawRule at h
    rw [if_pos hne] at h
    cases h
  obtain ⟨raw', hraw, hid⟩ := nftChainToRawRule_inbound inbound
  cases Option.some.inj (h.symm.trans hraw)
  exact ⟨inbound, hid⟩

theorem trimChars_cons {c : Char} (h : isWhitespace c = false) (cs : List Char) :
    ∃ cs', trimChars (c :: cs) = c :: cs' := by
  unfold trimChars
  rw [List.dropWhile_cons_of_neg (by simp [h]), List.reverse_cons, List.dropWhile_append]
  split
  next => exact ⟨[], by simp [h]⟩
  next => exact ⟨_, by rw [List.reverse_append]; rfl⟩

section

variable {crates : IdCrates} {dump : List DumpedChain}

theorem IdCrates.LawfulFor.ruleIdFromRaw (h : crates.LawfulFor dump) (chain : NftChain) :
    ruleIdFromRaw crates chain.ruleText = RuleId.synthesize crates chain.ruleText := by
  have start : ∃ cs, chain.ruleText.toList = 'n' :: cs := by
    refine ⟨"ftables/".toList ++ chain.shownTable.toList ++ "/".toList ++ chain.shownName.toList, ?_⟩
    simp [NftChain.ruleText]
  obtain ⟨cs, hcs⟩ := start
  obtain ⟨cs', hcs'⟩ := trimChars_cons (show isWhitespace 'n' = false by decide) cs
  have trimmed : trim chain.ruleText = String.ofList ('n' :: cs') := by rw [trim, hcs, hcs']
  rw [AnneDeBreuil.ruleIdFromRaw, trimmed, h.notUuid]

/-- The rules of two inbound chains of the dump are told apart exactly by their texts. -/
theorem distinctRules_iff (h : crates.LawfulFor dump) {a b : DumpedChain} (ha : a ∈ dump) (hb : b ∈ dump)
    (inboundA : a.chain.hooknum = some nfInetLocalIn) (inboundB : b.chain.hooknum = some nfInetLocalIn) :
    DistinctRules crates a.chain b.chain ↔ a.chain.ruleText ≠ b.chain.ruleText := by
  obtain ⟨r, hr, idA⟩ := nftChainToRawRule_inbound inboundA
  obtain ⟨s, hs, idB⟩ := nftChainToRawRule_inbound inboundB
  constructor
  · intro distinct
    rw [← idA, ← idB]
    exact (distinct r s hr hs).1
  · intro hne r' s' hr' hs'
    cases Option.some.inj (hr.symm.trans hr')
    cases Option.some.inj (hs.symm.trans hs')
    refine ⟨by rwa [idA, idB], ?_⟩
    intro rules rules' hrules hrules' x hx y hy heq
    rw [firewallRulesFromRaw_singleton, firewallRuleFromRaw_ok_iff] at hrules hrules'
    obtain ⟨fields, -, rfl⟩ := hrules
    obtain ⟨fields', -, rfl⟩ := hrules'
    obtain ⟨protocol, -, rfl⟩ := List.mem_map.mp hx
    obtain ⟨protocol', -, rfl⟩ := List.mem_map.mp hy
    simp only [RawRule.ruleFor, idA, idB, h.ruleIdFromRaw] at heq
    exact hne (h.collisionFree a ha b hb heq)

variable {messages : List WireMessage} {done : WireMessage} {pieces : List (List WireMessage)}
  {datagrams : List ByteSlice}

theorem dumps_carry (h : List.Forall₂ WireMessage.Dumps messages dump) :
    List.Forall₂ WireMessage.Carries messages (dump.map DumpedChain.chain) := by
  induction h with
  | nil => exact .nil
  | cons first _ ih => exact .cons first.carries ih

/-- The query gives the chains of the dump, so their texts decide. -/
theorem identityKept_iff_texts (h : crates.LawfulFor dump) (hmessages : List.Forall₂ WireMessage.Dumps messages dump)
    (hdone : done.msgType = nlmsgDone) (hcut : pieces.flatten = messages ++ [done])
    (hbytes : datagrams.map (·.bytes) = pieces.map encodeMessages) :
    IdentityKept crates datagrams dump ↔
      ∀ a ∈ dump, ∀ b ∈ dump, a.chain.hooknum = some nfInetLocalIn → b.chain.hooknum = some nfInetLocalIn →
        a.identity ≠ b.identity → a.chain.ruleText ≠ b.chain.ruleText := by
  have loop := recvLoop_carried (dumps_carry hmessages) hdone hcut hbytes [] []
  rw [List.append_nil, List.nil_append] at loop
  constructor
  · rintro ⟨chains, hchains, kept⟩ a ha b hb inboundA inboundB hne
    cases loop.symm.trans hchains
    obtain ⟨i, hi⟩ := List.mem_iff_getElem?.mp ha
    obtain ⟨j, hj⟩ := List.mem_iff_getElem?.mp hb
    have distinct := kept i j a b hi hj hne a.chain b.chain (by simp [hi]) (by simp [hj])
    exact (distinctRules_iff h ha hb inboundA inboundB).mp distinct
  · intro texts
    refine ⟨_, loop, ?_⟩
    intro i j a b hi hj hne c d hc hd
    rw [List.getElem?_map, hi] at hc
    rw [List.getElem?_map, hj] at hd
    cases Option.some.inj hc
    cases Option.some.inj hd
    have ha := List.mem_of_getElem? hi
    have hb := List.mem_of_getElem? hj
    intro r s hr hs
    have inboundA := (nftChainToRawRule_some hr).1
    have inboundB := (nftChainToRawRule_some hs).1
    exact (distinctRules_iff h ha hb inboundA inboundB).mpr (texts a ha b hb inboundA inboundB hne) r s hr hs

/-- Identity is kept exactly when no two inbound chains that differ in family,
table or name read as one another. -/
theorem identityKept_iff (h : crates.LawfulFor dump) (hmessages : List.Forall₂ WireMessage.Dumps messages dump)
    (hdone : done.msgType = nlmsgDone) (hcut : pieces.flatten = messages ++ [done])
    (hbytes : datagrams.map (·.bytes) = pieces.map encodeMessages) :
    IdentityKept crates datagrams dump ↔
      ∀ a ∈ dump, ∀ b ∈ dump, a.chain.hooknum = some nfInetLocalIn → b.chain.hooknum = some nfInetLocalIn →
        a.identity ≠ b.identity → ¬a.chain.ReadsAs b.chain := by
  rw [identityKept_iff_texts h hmessages hdone hcut hbytes]
  constructor
  · intro texts a ha b hb inboundA inboundB hne reads
    exact texts a ha b hb inboundA inboundB hne (ruleText_eq_iff.mpr (.inl reads))
  · intro apart a ha b hb inboundA inboundB hne same
    rcases ruleText_eq_iff.mp same with reads | reads
    · exact apart a ha b hb inboundA inboundB hne reads
    · exact apart b hb a ha inboundB inboundA hne.symm reads

end

/-- The BLAKE3 digests of two texts, and no UUIDs. -/
def tabledCrates : IdCrates where
  uuidParseStr _ := none
  blake3Hash bytes :=
    if bytes = utf8 "nftables/filter/input" then 0x651095f43274cc90ba4ddba639594784670de34e54620bb775b459df8a410e78
    else if bytes = utf8 "nftables/?/?" then 0x12b8afcc379976f8bdb684fad28773a465269f1e8a95999cbfc1c1d75626fbab
    else 0

def namelessMessage : WireMessage :=
  { inputChainMessage 2 with
    payload := [2, 0, 0, 0] ++ encodeAttrs [inputHookAttr]
    fits := by decide
    aligned := by decide }

theorem namelessMessage_carries : namelessMessage.Carries ⟨none, none, some 1, none⟩ where
  newchain := rfl
  payload := ⟨[2, 0, 0, 0], [inputHookAttr], rfl, rfl, by decide, by decide,
    .inr ⟨inputHook, by decide, by decide⟩, by decide⟩
  named := ⟨by decide, by decide⟩

/-- The input chain of `ip filter` beside one that has no names is told apart. -/
theorem identityKept_nameless :
    IdentityKept tabledCrates [⟨encodeMessages [inputChainMessage 2, namelessMessage, doneMessage], by decide +kernel⟩]
      [⟨2, inputChain⟩, ⟨2, none, none, some 1, none⟩] := by
  have lawful : tabledCrates.LawfulFor [⟨2, inputChain⟩, ⟨2, none, none, some 1, none⟩] := by
    refine ⟨fun _ => rfl, ?_⟩
    decide +kernel
  have hmessages : List.Forall₂ WireMessage.Dumps [inputChainMessage 2, namelessMessage]
      [⟨2, inputChain⟩, ⟨2, none, none, some 1, none⟩] :=
    .cons ⟨inputChainMessage_carries 2, rfl⟩ (.cons ⟨namelessMessage_carries, rfl⟩ .nil)
  have hcut : [[inputChainMessage 2, namelessMessage, doneMessage]].flatten =
      [inputChainMessage 2, namelessMessage] ++ [doneMessage] := rfl
  refine (identityKept_iff lawful hmessages rfl hcut rfl).mpr ?_
  intro a ha b hb _ _ hne
  have apart : ∀ c d : NftChain, c.shownTable ≠ d.shownTable → '/' ∉ c.shownTable.toList → ¬c.ReadsAs d := by
    rintro c d htable hslash (⟨h, -⟩ | ⟨x, h, -⟩)
    · exact htable h
    · rw [h] at hslash
      simp at hslash
  simp only [List.mem_cons, List.not_mem_nil, or_false] at ha hb
  rcases ha with rfl | rfl <;> rcases hb with rfl | rfl
  · exact absurd rfl hne
  · exact apart _ _ (by decide) (by decide)
  · exact apart _ _ (by decide) (by decide)
  · exact absurd rfl hne

/-- `ip filter input` and `ip6 filter input` get one rule id, and so do two
chains with a slash in a name. -/
theorem identityKept_counterexample :
    ¬IdentityKept tabledCrates [⟨encodeMessages [inputChainMessage 2, inputChainMessage 10, doneMessage], by decide +kernel⟩]
      [⟨2, inputChain⟩, ⟨10, inputChain⟩] ∧
    NftChain.ruleText ⟨some "a/b", some "c", some 1, none⟩ = NftChain.ruleText ⟨some "a", some "b/c", some 1, none⟩ := by
  refine ⟨fun kept => ?_, by decide⟩
  have lawful : tabledCrates.LawfulFor [⟨2, inputChain⟩, ⟨10, inputChain⟩] := by
    refine ⟨fun _ => rfl, ?_⟩
    decide +kernel
  have hmessages : List.Forall₂ WireMessage.Dumps [inputChainMessage 2, inputChainMessage 10]
      [⟨2, inputChain⟩, ⟨10, inputChain⟩] :=
    .cons ⟨inputChainMessage_carries 2, rfl⟩ (.cons ⟨inputChainMessage_carries 10, rfl⟩ .nil)
  have hcut : [[inputChainMessage 2, inputChainMessage 10, doneMessage]].flatten =
      [inputChainMessage 2, inputChainMessage 10] ++ [doneMessage] := rfl
  have texts := (identityKept_iff_texts lawful hmessages rfl hcut rfl).mp kept
  exact texts ⟨2, inputChain⟩ (by simp) ⟨10, inputChain⟩ (by simp) rfl rfl (by decide) rfl

end AnneDeBreuil
