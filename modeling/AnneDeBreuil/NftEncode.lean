import AnneDeBreuil.LinuxFirewall
import AnneDeBreuil.NftSafety

namespace AnneDeBreuil

structure WireAttr where
  nlaType : UInt16
  value : List UInt8
  padding : List UInt8
  fits : 4 + value.length < 2 ^ 16
  aligned : 4 + value.length + padding.length = roundUp (4 + value.length) 4

def WireAttr.header (attr : WireAttr) : List UInt8 :=
  toLeBytes 2 (4 + attr.value.length) ++ toLeBytes 2 attr.nlaType.toNat

def WireAttr.bytes (attr : WireAttr) : List UInt8 := attr.header ++ attr.value ++ attr.padding

def encodeAttrs (attrs : List WireAttr) : List UInt8 := (attrs.map WireAttr.bytes).flatten

/-- A message as it is sent; its flags, sequence number and port id are the ten
bytes behind its type. -/
structure WireMessage where
  msgType : UInt16
  rest : List UInt8
  payload : List UInt8
  padding : List UInt8
  rest_length : rest.length = 10
  fits : 16 + payload.length < 2 ^ 32
  aligned : 16 + payload.length + padding.length = roundUp (16 + payload.length) 4

def WireMessage.header (message : WireMessage) : List UInt8 :=
  toLeBytes 4 (16 + message.payload.length) ++ toLeBytes 2 message.msgType.toNat ++ message.rest

def WireMessage.bytes (message : WireMessage) : List UInt8 :=
  message.header ++ message.payload ++ message.padding

def encodeMessages (messages : List WireMessage) : List UInt8 := (messages.map WireMessage.bytes).flatten

/-- The values of the attributes of one kind, whatever flags their types carry. -/
def valuesOf (kind : UInt16) (attrs : List (UInt16 × List UInt8)) : List (List UInt8) :=
  (attrs.filter (fun attr => attr.1 &&& nlaTypeMask = kind)).map (·.2)

def WireAttr.pair (attr : WireAttr) : UInt16 × List UInt8 := (attr.nlaType, attr.value)

/-- At most one attribute of a kind, with the value it is to have. -/
def Sends (kind : UInt16) (attrs : List WireAttr) (value : Option (List UInt8)) : Prop :=
  valuesOf kind (attrs.map WireAttr.pair) = value.toList

instance (kind : UInt16) (attrs : List WireAttr) (value : Option (List UInt8)) : Decidable (Sends kind attrs value) :=
  inferInstanceAs (Decidable (_ = _))

/-- The attributes of a chain, in any order and with any others in between. -/
structure Spells (attrs : List WireAttr) (chain : NftChain) : Prop where
  table : Sends nftaChainTable attrs (chain.table.map (fun table => utf8 table ++ [0]))
  name : Sends nftaChainName attrs (chain.name.map (fun name => utf8 name ++ [0]))
  hook : (Sends nftaChainHook attrs none ∧ chain.hooknum = none) ∨
    ∃ nested, Sends nftaChainHook attrs (some (encodeAttrs nested)) ∧
      Sends nftaHookHooknum nested (chain.hooknum.map (fun hooknum => toBeBytes 4 hooknum.toNat))
  policy : Sends nftaChainPolicy attrs (chain.policy.map (fun policy => toBeBytes 4 policy.toNat))

/-- A NEWCHAIN message for a chain whose names, where it has any, are not empty. -/
structure WireMessage.Carries (message : WireMessage) (chain : NftChain) : Prop where
  newchain : message.msgType = newchainMsgType
  payload : ∃ nfgenmsg attrs, nfgenmsg.length = 4 ∧ message.payload = nfgenmsg ++ encodeAttrs attrs ∧
    Spells attrs chain
  named : chain.Named

def WireAttr.record (attr : WireAttr) : Record UInt8 := ⟨attr.header, attr.value⟩

def WireMessage.record (message : WireMessage) : Record UInt8 := ⟨message.header, message.payload⟩

theorem WireAttr.written (attr : WireAttr) : nlAttrs.Written attr.record attr.bytes := by
  have header : attr.header.length = 4 := by simp [WireAttr.header]
  have size : attr.record.size = 4 + attr.value.length := by rw [Record.size, WireAttr.record, header]
  have fits := attr.fits
  refine ⟨⟨header, ?_⟩, ⟨attr.padding, rfl⟩, ?_⟩
  · rw [size]
    change ofLeBytes (attr.header.take 2) = _
    rw [WireAttr.header, List.take_left' (toLeBytes_length 2 _), ofLeBytes_toLeBytes (by omega)]
  · change _ = roundUp attr.record.size 4
    rw [size, ← attr.aligned, WireAttr.bytes]
    simp only [List.length_append, header]

theorem WireMessage.written (message : WireMessage) : nlMessages.Written message.record message.bytes := by
  have header : message.header.length = 16 := by simp [WireMessage.header, message.rest_length]
  have size : message.record.size = 16 + message.payload.length := by rw [Record.size, WireMessage.record, header]
  have fits := message.fits
  refine ⟨⟨header, ?_⟩, ⟨message.padding, rfl⟩, ?_⟩
  · rw [size]
    change ofLeBytes (message.header.take 4) = _
    rw [WireMessage.header, List.append_assoc, List.take_left' (toLeBytes_length 4 _), ofLeBytes_toLeBytes (by omega)]
  · change _ = roundUp message.record.size 4
    rw [size, ← message.aligned, WireMessage.bytes]
    simp only [List.length_append, header]

theorem forall₂_written {ω : Type} {F : Framing UInt8} {record : ω → Record UInt8} {bytes : ω → List UInt8}
    (h : ∀ item, F.Written (record item) (bytes item)) (items : List ω) :
    List.Forall₂ F.Written (items.map record) (items.map bytes) := by
  induction items with
  | nil => exact .nil
  | cons item items ih => exact .cons (h item) ih

theorem ofLeBytes_type (type : UInt16) : UInt16.ofNat (ofLeBytes (toLeBytes 2 type.toNat)) = type := by
  rw [ofLeBytes_toLeBytes type.toNat_lt, UInt16.ofNat_toNat]

theorem attributes_encodeAttrs (attrs : List WireAttr) : attributes (encodeAttrs attrs) = attrs.map WireAttr.pair := by
  rw [attributes, encodeAttrs, Framing.records_written (forall₂_written WireAttr.written attrs), List.map_map]
  apply List.map_congr_left
  intro attr _
  change (UInt16.ofNat (ofLeBytes ((attr.header.drop 2).take 2)), attr.value) = _
  rw [WireAttr.header, List.drop_left' (toLeBytes_length 2 _), List.take_of_length_le (by simp), ofLeBytes_type]
  rfl

theorem messageType_record (message : WireMessage) : messageType message.record = message.msgType := by
  change UInt16.ofNat (ofLeBytes ((message.header.drop 4).take 2)) = _
  rw [WireMessage.header, List.append_assoc, List.drop_left' (toLeBytes_length 4 _),
    List.take_left' (toLeBytes_length 2 _), ofLeBytes_type]

/-- A field that only the attributes of one kind set ends as they leave it. -/
theorem foldl_field {σ γ : Type} {step : σ → UInt16 × List UInt8 → σ} {kind : UInt16} (field : σ → γ)
    (set : γ → List UInt8 → γ)
    (h : ∀ state attr, field (step state attr) =
      if attr.1 &&& nlaTypeMask = kind then set (field state) attr.2 else field state)
    (attrs : List (UInt16 × List UInt8)) (state : σ) :
    field (attrs.foldl step state) = (valuesOf kind attrs).foldl set (field state) := by
  induction attrs generalizing state with
  | nil => rfl
  | cons attr attrs ih =>
    rw [List.foldl_cons, ih, h]
    by_cases hkind : attr.1 &&& nlaTypeMask = kind
    · simp only [valuesOf, List.filter_cons, hkind, decide_true, ↓reduceIte, List.map_cons, List.foldl_cons]
    · simp only [valuesOf, List.filter_cons, hkind, decide_false, ↓reduceIte, Bool.false_eq_true]

theorem readHook_eq (hooknum : Option UInt32) (attrs : List (UInt16 × List UInt8)) :
    readHook hooknum attrs = (valuesOf nftaHookHooknum attrs).foldl (fun _ value => decodeNlaU32Be value) hooknum :=
  foldl_field id (fun _ value => decodeNlaU32Be value) (fun _ _ => rfl) attrs hooknum

theorem apply_table (chain : NftChain) (attr : UInt16 × List UInt8) :
    (chain.apply attr).table =
      if attr.1 &&& nlaTypeMask = nftaChainTable then decodeNlaString attr.2 else chain.table := by
  simp only [NftChain.apply]
  split_ifs <;> rfl

theorem apply_name (chain : NftChain) (attr : UInt16 × List UInt8) :
    (chain.apply attr).name =
      if attr.1 &&& nlaTypeMask = nftaChainName then decodeNlaString attr.2 else chain.name := by
  simp only [NftChain.apply]
  split_ifs <;> simp_all [nftaChainTable, nftaChainName]

theorem apply_hooknum (chain : NftChain) (attr : UInt16 × List UInt8) :
    (chain.apply attr).hooknum =
      if attr.1 &&& nlaTypeMask = nftaChainHook then readHook chain.hooknum (attributes attr.2)
      else chain.hooknum := by
  simp only [NftChain.apply]
  split_ifs <;> simp_all [nftaChainTable, nftaChainName, nftaChainHook]

theorem apply_policy (chain : NftChain) (attr : UInt16 × List UInt8) :
    (chain.apply attr).policy =
      if attr.1 &&& nlaTypeMask = nftaChainPolicy then decodeNlaU32Be attr.2 else chain.policy := by
  simp only [NftChain.apply]
  split_ifs <;> simp_all [nftaChainTable, nftaChainName, nftaChainHook, nftaChainPolicy]

theorem utf8_ne_nil {s : String} (h : s ≠ "") : utf8 s ≠ [] := by
  intro hnil
  have decoded := fromUtf8_utf8 s
  rw [hnil] at decoded
  exact h (Option.some.inj (decoded.symm.trans (fromUtf8_utf8 "")))

theorem decodeNlaString_utf8 {s : String} (h : s ≠ "") : decodeNlaString (utf8 s ++ [0]) = some s := by
  have last : (utf8 s ++ [0]).getLast? = some 0 := by simp
  have trimmed : (utf8 s ++ [0]).take ((utf8 s ++ [0]).length - 1) = utf8 s := by
    rw [List.length_append, List.length_singleton, Nat.add_sub_cancel, List.take_left]
  unfold decodeNlaString
  simp only [last, ↓reduceIte, trimmed, List.isEmpty_iff, utf8_ne_nil h, fromUtf8_utf8]

theorem decodeNlaU32Be_toBeBytes (n : UInt32) : decodeNlaU32Be (toBeBytes 4 n.toNat) = some n := by
  unfold decodeNlaU32Be
  rw [if_pos (by simp), List.take_of_length_le (by simp), ofBeBytes_toBeBytes n.toNat_lt, UInt32.ofNat_toNat]

/-- The decoder gets a name back that was sent, and nothing where none was. -/
theorem foldl_decodeNlaString {name : Option String} (h : name ≠ some "") :
    (name.map (fun name => utf8 name ++ [0])).toList.foldl (fun _ value => decodeNlaString value) none = name := by
  cases name with
  | none => rfl
  | some name => exact decodeNlaString_utf8 (fun hname => h (hname ▸ rfl))

theorem foldl_decodeNlaU32Be (n : Option UInt32) :
    (n.map (fun n => toBeBytes 4 n.toNat)).toList.foldl (fun _ value => decodeNlaU32Be value) none = n := by
  cases n with
  | none => rfl
  | some n => exact decodeNlaU32Be_toBeBytes n

theorem Spells.decode {attrs : List WireAttr} {chain : NftChain} (h : Spells attrs chain) (named : chain.Named) :
    (attrs.map WireAttr.pair).foldl NftChain.apply NftChain.default = chain := by
  have table := foldl_field NftChain.table (fun _ value => decodeNlaString value) apply_table
    (attrs.map WireAttr.pair) NftChain.default
  have name := foldl_field NftChain.name (fun _ value => decodeNlaString value) apply_name
    (attrs.map WireAttr.pair) NftChain.default
  have hooknum := foldl_field NftChain.hooknum (fun hooknum value => readHook hooknum (attributes value)) apply_hooknum
    (attrs.map WireAttr.pair) NftChain.default
  have policy := foldl_field NftChain.policy (fun _ value => decodeNlaU32Be value) apply_policy
    (attrs.map WireAttr.pair) NftChain.default
  generalize (attrs.map WireAttr.pair).foldl NftChain.apply NftChain.default = decoded at *
  rw [h.table, NftChain.default, foldl_decodeNlaString named.1] at table
  rw [h.name, NftChain.default, foldl_decodeNlaString named.2] at name
  rw [h.policy, NftChain.default, foldl_decodeNlaU32Be] at policy
  have hook : decoded.hooknum = chain.hooknum := by
    rw [hooknum]
    rcases h.hook with ⟨absent, hnone⟩ | ⟨nested, sent, inner⟩
    · rw [absent, hnone]
      rfl
    · rw [sent, Option.toList_some, List.foldl_cons, List.foldl_nil, attributes_encodeAttrs, readHook_eq, inner]
      exact foldl_decodeNlaU32Be chain.hooknum
  cases decoded
  cases chain
  simp only at table name policy hook
  rw [table, name, policy, hook]

theorem WireMessage.Carries.chainOf {message : WireMessage} {chain : NftChain} (h : message.Carries chain) :
    chainOf message.record = some chain := by
  obtain ⟨nfgenmsg, attrs, hlen, hpayload, spells⟩ := h.payload
  have body : message.record.body = nfgenmsg ++ encodeAttrs attrs := hpayload
  unfold AnneDeBreuil.chainOf decodeChain
  rw [if_pos ((messageType_record message).trans h.newchain), body, if_pos (by simp; omega),
    List.drop_left' hlen, attributes_encodeAttrs, spells.decode h.named]

theorem WireMessage.Carries.going {message : WireMessage} {chain : NftChain} (h : message.Carries chain) :
    ¬Terminal message.record := by
  unfold Terminal
  rw [messageType_record, h.newchain]
  decide

section

variable {messages : List WireMessage} {chains : List NftChain}

theorem filterMap_chainOf (h : List.Forall₂ WireMessage.Carries messages chains) :
    (messages.map WireMessage.record).filterMap chainOf = chains := by
  induction h with
  | nil => rfl
  | cons first _ ih => rw [List.map_cons, List.filterMap_cons_some first.chainOf, ih]

theorem carried_going (h : List.Forall₂ WireMessage.Carries messages chains) :
    ∀ r ∈ messages.map WireMessage.record, ¬Terminal r := by
  induction h with
  | nil => simp
  | cons first _ ih =>
    rintro r (_ | ⟨_, hr⟩)
    · exact first.going
    · exact ih r hr

theorem parseNlBuffer_carried (h : List.Forall₂ WireMessage.Carries messages chains) {buf : ByteSlice}
    {rest : List UInt8} (hbytes : buf.bytes = encodeMessages messages ++ rest)
    (stop : ∀ r, nlMessages.front rest = some r → Terminal r) :
    parseNlBuffer buf = .ok (BufferOutcome.close ⟨chains, false, none⟩ (nlMessages.front rest)) := by
  have walk : nlMessages.Walk buf.bytes (messages.map WireMessage.record) rest := by
    rw [hbytes]
    exact Framing.walk_written (forall₂_written WireMessage.written messages) rest
  rw [parseNlBuffer_of_read ⟨walk, carried_going h, stop⟩, filterMap_chainOf h]

theorem parseNlBuffer_more (h : List.Forall₂ WireMessage.Carries messages chains) {buf : ByteSlice}
    (hbytes : buf.bytes = encodeMessages messages) : parseNlBuffer buf = .ok ⟨chains, false, none⟩ := by
  have parsed := parseNlBuffer_carried h (hbytes.trans (List.append_nil _).symm) (by simp [Framing.front_nil])
  rwa [Framing.front_nil] at parsed

theorem parseNlBuffer_done (h : List.Forall₂ WireMessage.Carries messages chains) {done : WireMessage}
    (hdone : done.msgType = nlmsgDone) {buf : ByteSlice} (hbytes : buf.bytes = encodeMessages (messages ++ [done])) :
    parseNlBuffer buf = .ok ⟨chains, true, none⟩ := by
  have front : nlMessages.front done.bytes = some done.record := by
    obtain ⟨padding, layout⟩ := done.written.layout
    exact Framing.front_eq_some_iff.mpr ⟨done.written.wf, padding, layout⟩
  have ends : messageType done.record = nlmsgDone := (messageType_record done).trans hdone
  have split : buf.bytes = encodeMessages messages ++ done.bytes := by
    rw [hbytes, encodeMessages, List.map_append, List.flatten_append]
    simp [encodeMessages]
  rw [parseNlBuffer_carried h split, front, BufferOutcome.close, if_pos ends]
  intro r hr
  cases Option.some.inj (front.symm.trans hr)
  exact .inl ends

theorem forall₂_append_left {α β : Type} {R : α → β → Prop} {xs ys : List α} {zs : List β}
    (h : List.Forall₂ R (xs ++ ys) zs) :
    ∃ us vs, zs = us ++ vs ∧ List.Forall₂ R xs us ∧ List.Forall₂ R ys vs := by
  induction xs generalizing zs with
  | nil => exact ⟨[], zs, rfl, .nil, h⟩
  | cons x xs ih =>
    cases h with
    | @cons _ z _ _ first later =>
      obtain ⟨us, vs, rfl, hx, hy⟩ := ih later
      exact ⟨z :: us, vs, rfl, .cons first hx, hy⟩

theorem recvLoop_carried {done : WireMessage} {pieces : List (List WireMessage)} {datagrams : List ByteSlice}
    (hmessages : List.Forall₂ WireMessage.Carries messages chains) (hdone : done.msgType = nlmsgDone)
    (hcut : pieces.flatten = messages ++ [done]) (hbytes : datagrams.map (·.bytes) = pieces.map encodeMessages)
    (earlier : List NftChain) (later : List (Except IoErrorKind ByteSlice)) :
    recvLoop (datagrams.map .ok ++ later) earlier = .ok (some (.ok (earlier ++ chains))) := by
  induction pieces generalizing messages chains datagrams earlier with
  | nil => simp at hcut
  | cons piece pieces ih =>
    obtain ⟨datagram, datagrams, rfl, hpiece, hrest⟩ := List.map_eq_cons_iff.mp hbytes
    have more : ∀ {us : List NftChain}, List.Forall₂ WireMessage.Carries piece us →
        recvLoop ((datagram :: datagrams).map .ok ++ later) earlier =
          recvLoop (datagrams.map .ok ++ later) (earlier ++ us) := by
      intro us hus
      rw [List.map_cons, List.cons_append, recvLoop, parseNlBuffer_more hus hpiece]
      rfl
    rw [List.flatten_cons] at hcut
    rcases List.append_eq_append_iff.mp hcut with ⟨messages', rfl, hlater⟩ | ⟨tail, rfl, htail⟩
    · -- the datagram ends before the end of the dump
      obtain ⟨us, vs, rfl, hus, hvs⟩ := forall₂_append_left hmessages
      rw [more hus, ih hvs hlater hrest, List.append_assoc]
    · cases tail with
      | nil =>
        rw [List.append_nil] at more
        rw [more hmessages, ih .nil htail.symm hrest, List.append_nil]
      | cons last tail =>
        -- it holds the end of the dump, and nothing is read after it
        obtain ⟨rfl, hnil⟩ := List.cons.inj htail
        obtain ⟨rfl, -⟩ := List.append_eq_nil_iff.mp hnil.symm
        rw [List.map_cons, List.cons_append, recvLoop, parseNlBuffer_done hmessages hdone hpiece]
        rfl

/-- Decoding undoes the encoding: the loop of a query reads the chains back from
the messages that carry them, however these are cut into datagrams, and ends with
the end of the dump. -/
theorem nftDump_decoded {done : WireMessage} {pieces : List (List WireMessage)} {datagrams : List ByteSlice}
    (hmessages : List.Forall₂ WireMessage.Carries messages chains) (hdone : done.msgType = nlmsgDone)
    (hcut : pieces.flatten = messages ++ [done]) (hbytes : datagrams.map (·.bytes) = pieces.map encodeMessages)
    (later : List (Except IoErrorKind ByteSlice)) :
    recvLoop (datagrams.map .ok ++ later) [] = .ok (some (.ok chains)) :=
  recvLoop_carried hmessages hdone hcut hbytes [] later

/-- A whole query, when no datagram is longer than the buffer. -/
theorem queryChains_decoded {done : WireMessage} {pieces : List (List WireMessage)} {datagrams : List ByteSlice}
    (hmessages : List.Forall₂ WireMessage.Carries messages chains) (hdone : done.msgType = nlmsgDone)
    (hcut : pieces.flatten = messages ++ [done]) (hbytes : datagrams.map (·.bytes) = pieces.map encodeMessages)
    (hfits : ∀ datagram ∈ datagrams, datagram.length ≤ recvBufferSize) :
    queryChains ⟨.ok (), .ok (), .ok (), .ok (), datagrams.map .ok⟩ = .ok (some (.ok chains)) := by
  have received : (datagrams.map Except.ok).map (fun datagram => datagram.map recv) =
      (datagrams.map Except.ok : List (Except IoErrorKind ByteSlice)) := by
    rw [List.map_map]
    apply List.map_congr_left
    intro datagram hmem
    exact congrArg Except.ok (recv_of_le (hfits datagram hmem))
  have loop := recvLoop_carried hmessages hdone hcut hbytes [] []
  rw [List.append_nil] at loop
  unfold queryChains
  simp only [received]
  exact loop

end

def zeroPadded (nlaType : UInt16) (value : List UInt8) (fits : 4 + value.length < 2 ^ 16) : WireAttr where
  nlaType := nlaType
  value := value
  padding := List.replicate (roundUp (4 + value.length) 4 - (4 + value.length)) 0
  fits := fits
  aligned := by have := le_roundUp (4 + value.length) 4; simp; omega

def inputChain : NftChain := ⟨some "filter", some "input", some 1, some 0⟩

def inputHook : List WireAttr := [zeroPadded 2 [0, 0, 0, 0] (by decide), zeroPadded 1 [0, 0, 0, 1] (by decide)]

def inputHookAttr : WireAttr := zeroPadded 0x8004 (encodeAttrs inputHook) (by decide)

/-- The policy first, a priority beside the hook number, and a handle at the end. -/
def inputChainAttrs : List WireAttr :=
  [zeroPadded 5 [0, 0, 0, 0] (by decide), zeroPadded 1 (utf8 "filter" ++ [0]) (by decide),
    inputHookAttr, zeroPadded 3 (utf8 "input" ++ [0]) (by decide),
    zeroPadded 2 [0, 0, 0, 0, 0, 0, 0, 7] (by decide)]

def inputChainMessage (family : UInt8) : WireMessage where
  msgType := newchainMsgType
  rest := [2, 0, 0, 0, 0, 0, 0, 0, 0, 0]
  payload := [family, 0, 0, 0] ++ encodeAttrs inputChainAttrs
  padding := []
  rest_length := rfl
  fits := by rw [List.length_append, List.length_cons]; decide
  aligned := by rw [List.length_append, List.length_cons]; decide

def doneMessage : WireMessage := ⟨nlmsgDone, [2, 0, 0, 0, 0, 0, 0, 0, 0, 0], [0, 0, 0, 0], [], rfl, by decide, by decide⟩

theorem inputChainMessage_carries (family : UInt8) : (inputChainMessage family).Carries inputChain where
  newchain := rfl
  payload := ⟨[family, 0, 0, 0], inputChainAttrs, rfl, rfl, by decide, by decide,
    .inr ⟨inputHook, by decide, by decide⟩, by decide⟩
  named := ⟨by decide, by decide⟩

theorem nftDump_decoded_two :
    let first : ByteSlice := ⟨encodeMessages [inputChainMessage 2], by decide⟩
    let second : ByteSlice := ⟨encodeMessages [inputChainMessage 10, doneMessage], by decide⟩
    recvLoop ([first, second].map .ok ++ []) [] = .ok (some (.ok [inputChain, inputChain])) := by
  intro first second
  have hcut : [[inputChainMessage 2], [inputChainMessage 10, doneMessage]].flatten =
      [inputChainMessage 2, inputChainMessage 10] ++ [doneMessage] := rfl
  exact nftDump_decoded (.cons (inputChainMessage_carries 2) (.cons (inputChainMessage_carries 10) .nil)) rfl hcut
    rfl []

end AnneDeBreuil
