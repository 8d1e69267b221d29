import AnneDeBreuil.Framing
import AnneDeBreuil.NftWire

namespace AnneDeBreuil

/-- Attributes: a length and a type of two bytes each, then the value. -/
def nlAttrs : Framing UInt8 where
  headerSize := 4
  align := 4
  total header := ofLeBytes (header.take 2)
  headerSize_pos := by decide

/-- Messages: the header starts with the length and the type. -/
def nlMessages : Framing UInt8 where
  headerSize := 16
  align := 4
  total header := ofLeBytes (header.take 4)
  headerSize_pos := by decide

def attrType (r : Record UInt8) : UInt16 := UInt16.ofNat (ofLeBytes ((r.header.drop 2).take 2))

def messageType (r : Record UInt8) : UInt16 := UInt16.ofNat (ofLeBytes ((r.header.drop 4).take 2))

def attributes (bytes : List UInt8) : List (UInt16 × List UInt8) :=
  (nlAttrs.records bytes).map (fun r => (attrType r, r.body))

def NftChain.apply (chain : NftChain) (attr : UInt16 × List UInt8) : NftChain :=
  if attr.1 &&& nlaTypeMask = nftaChainTable then { chain with table := decodeNlaString attr.2 }
  else if attr.1 &&& nlaTypeMask = nftaChainName then { chain with name := decodeNlaString attr.2 }
  else if attr.1 &&& nlaTypeMask = nftaChainHook then
    { chain with hooknum := readHook chain.hooknum (attributes attr.2) }
  else if attr.1 &&& nlaTypeMask = nftaChainPolicy then { chain with policy := decodeNlaU32Be attr.2 }
  else chain

/-- The chain that a message's payload describes: four bytes that say nothing of
it, then its attributes. -/
def decodeChain (payload : List UInt8) : Option NftChain :=
  if 4 ≤ payload.length then some ((attributes (payload.drop 4)).foldl NftChain.apply NftChain.default) else none

def chainOf (r : Record UInt8) : Option NftChain :=
  if messageType r = newchainMsgType then decodeChain r.body else none

def Terminal (r : Record UInt8) : Prop := messageType r = nlmsgDone ∨ messageType r = nlmsgError

instance (r : Record UInt8) : Decidable (Terminal r) := inferInstanceAs (Decidable (_ ∨ _))

def errnoOf (payload : List UInt8) : Int :=
  if 4 ≤ payload.length then (BitVec.ofNat 32 (ofLeBytes (payload.take 4))).toInt else 0

/-- The outcome once the terminal message is met, or nothing complete is left. -/
def BufferOutcome.close (outcome : BufferOutcome) : Option (Record UInt8) → BufferOutcome
  | none => outcome
  | some r =>
    if messageType r = nlmsgDone then { outcome with done := true }
    else { outcome with error := some (classifyErrno (errnoOf r.body)), done := true }

section

variable {buf : ByteSlice} {offset : Nat}

theorem usizeAdd_of_lt {a b : Nat} (h : a + b < 2 ^ 64) : usizeAdd a b = .ok (a + b) := if_pos h

theorem nextMultipleOf_of_lt {n k : Nat} (h : n + k < 2 ^ 64) : nextMultipleOf n k = .ok (roundUp n k) := by
  unfold nextMultipleOf roundUp
  split
  next => rfl
  next => rw [usizeAdd_of_lt (by omega)]

theorem ByteSlice.get_of_le {start stop : Nat} (h : start ≤ stop) (h' : stop ≤ buf.length) :
    ∃ part, buf.get start stop = some part ∧ part.bytes = (buf.bytes.drop start).take (stop - start) :=
  ⟨_, if_pos ⟨h, h'⟩, rfl⟩

theorem ByteSlice.get_of_lt {start stop : Nat} (h : buf.length < stop) : buf.get start stop = none :=
  if_neg (by omega)

theorem readLe_eq {width : Nat} (h : offset + width < 2 ^ 64) :
    readLe width buf offset = .ok (if offset + width ≤ buf.length then
      some (ofLeBytes ((buf.bytes.drop offset).take width)) else none) := by
  unfold readLe
  rw [usizeAdd_of_lt h]
  split
  next hle =>
    obtain ⟨part, hget, hpart⟩ := ByteSlice.get_of_le (Nat.le_add_right offset width) hle
    change Except.ok ((buf.get offset (offset + width)).map _) = _
    rw [hget, Option.map_some, hpart, Nat.add_sub_cancel_left]
  next hgt =>
    change Except.ok ((buf.get offset (offset + width)).map _) = _
    rw [ByteSlice.get_of_lt (by omega), Option.map_none]

theorem readU16Le_eq (h : offset + 2 ≤ buf.length) :
    readU16Le buf offset = .ok (some (UInt16.ofNat (ofLeBytes ((buf.bytes.drop offset).take 2)))) := by
  have fits : buf.length < 2 ^ 63 := buf.fits
  unfold readU16Le
  rw [readLe_eq (by omega), if_pos h]
  rfl

theorem readU32Le_eq (h : offset + 4 ≤ buf.length) :
    readU32Le buf offset = .ok (some (UInt32.ofNat (ofLeBytes ((buf.bytes.drop offset).take 4)))) := by
  have fits : buf.length < 2 ^ 63 := buf.fits
  unfold readU32Le
  rw [readLe_eq (by omega), if_pos h]
  rfl

theorem readU16Le_none (h : buf.length < offset + 2) (hoff : offset < 2 ^ 63 + 8) :
    readU16Le buf offset = .ok none := by
  unfold readU16Le
  rw [readLe_eq (by omega), if_neg (by omega)]
  rfl

theorem readU32Le_none (h : buf.length < offset + 4) (hoff : offset < 2 ^ 63 + 8) :
    readU32Le buf offset = .ok none := by
  unfold readU32Le
  rw [readLe_eq (by omega), if_neg (by omega)]
  rfl

theorem ofLeBytes_take_lt (width : Nat) (bytes : List UInt8) : ofLeBytes (bytes.take width) < 256 ^ width :=
  Nat.lt_of_lt_of_le (ofLeBytes_lt _) (Nat.pow_le_pow_right (by decide) (List.length_take_le width bytes))

theorem ByteSlice.length_drop (buf : ByteSlice) (offset : Nat) :
    (buf.bytes.drop offset).length = buf.length - offset := List.length_drop

/-- A record that starts at an offset and is all there: its value can be got,
and a two-byte field of its header read. -/
theorem ByteSlice.front_whole {F : Framing UInt8} {len field : Nat} (declared : F.declared (buf.bytes.drop offset) = len)
    (least : F.headerSize ≤ len) (whole : offset + len ≤ buf.length) (inside : field + 2 ≤ F.headerSize) :
    ∃ r part, F.front (buf.bytes.drop offset) = some r ∧ r.size = len ∧
      buf.get (offset + F.headerSize) (offset + len) = some part ∧ part.bytes = r.body ∧
      (buf.bytes.drop (offset + field)).take 2 = (r.header.drop field).take 2 := by
  obtain ⟨part, hget, hpart⟩ := buf.get_of_le (Nat.add_le_add_left least offset) whole
  have suffix := buf.length_drop offset
  have front : F.front (buf.bytes.drop offset) = some _ := Framing.front_complete (by omega) (by omega) (by omega)
  refine ⟨_, part, front, (Framing.front_size front).trans declared, hget, ?_, ?_⟩
  · rw [hpart, declared, List.drop_take, List.drop_drop]
    congr 1
    omega
  · rw [List.drop_take, List.take_take, List.drop_drop, Nat.min_eq_left (by omega)]

theorem readNlattr_eq (hoff : offset ≤ buf.length + 3) :
    ∃ found, readNlattr buf offset = .ok found ∧
      found.map (fun attr => (attr.1, attr.2.1, attr.2.2.bytes)) =
        (nlAttrs.front (buf.bytes.drop offset)).map (fun r => (attrType r, r.size, r.body)) := by
  have fits : buf.length < 2 ^ 63 := buf.fits
  have suffix := buf.length_drop offset
  unfold readNlattr
  rw [usizeAdd_of_lt (by omega), ok_bind]
  split
  next hheader =>
    rw [readU16Le_eq (by omega), usizeAdd_of_lt (by omega)]
    simp only [ok_bind]
    rw [readU16Le_eq (by omega)]
    have small := ofLeBytes_take_lt 2 (buf.bytes.drop offset)
    have declared : nlAttrs.declared (buf.bytes.drop offset) = ofLeBytes ((buf.bytes.drop offset).take 2) := by
      simp [Framing.declared, nlAttrs, List.take_take]
    generalize ofLeBytes ((buf.bytes.drop offset).take 2) = len at *
    have toNat : (UInt16.ofNat len).toNat = len := by simp; omega
    have short : UInt16.ofNat len < 4 ↔ len < 4 := by rw [UInt16.lt_iff_toNat_lt, toNat]; rfl
    simp only [ok_bind, toNat, short, usizeAdd_of_lt (show offset + len < 2 ^ 64 by omega)]
    by_cases hmin : len < 4
    · refine ⟨none, if_pos hmin, ?_⟩
      rw [Framing.front_incomplete (.inr (.inl (declared ▸ hmin)))]
      rfl
    · rw [if_neg hmin]
      by_cases hmax : offset + len ≤ buf.length
      · obtain ⟨r, value, front, size, hget, hvalue, field⟩ :=
          buf.front_whole declared (Nat.le_of_not_lt hmin) hmax (show 2 + 2 ≤ 4 by decide)
        change buf.get (offset + 4) (offset + len) = some value at hget
        rw [hget, front, field]
        exact ⟨_, rfl, by rw [Option.map_some, Option.map_some, size, hvalue, attrType]⟩
      · rw [ByteSlice.get_of_lt (by omega), Framing.front_incomplete (.inr (.inr (by omega)))]
        exact ⟨none, rfl, rfl⟩
  next hheader =>
    refine ⟨none, rfl, ?_⟩
    rw [Framing.front_incomplete (.inl (by change _ < 4; omega))]
    rfl

theorem attributes_none {xs : List UInt8} (h : nlAttrs.front xs = none) : attributes xs = [] := by
  rw [attributes, Framing.records_none h, List.map_nil]

theorem attributes_some {xs : List UInt8} {r : Record UInt8} (h : nlAttrs.front xs = some r) :
    attributes xs = (attrType r, r.body) :: attributes (xs.drop (nlAttrs.advance r)) := by
  rw [attributes, Framing.records_some h, List.map_cons]
  rfl

/-- The loops move on, and never further than three bytes of padding past the end. -/
theorem advance_le {F : Framing UInt8} {r : Record UInt8} (halign : F.align = 4)
    (h : F.front (buf.bytes.drop offset) = some r) :
    0 < roundUp r.size 4 ∧ offset + roundUp r.size 4 ≤ buf.length + 3 := by
  have size := Framing.front_length h
  have pos := Framing.advance_pos h
  have padded := roundUp_lt (show 0 < 4 by decide) r.size
  have suffix := buf.length_drop offset
  rw [Framing.advance, halign] at pos
  have hsize : 0 < r.size := by
    by_contra hzero
    rw [show r.size = 0 by omega] at pos
    exact absurd pos (by decide)
  omega

theorem iterNlattrsLoop_eq {rounds : Nat} (out : List (UInt16 × ByteSlice)) (hoff : offset ≤ buf.length + 3)
    (hrounds : buf.length + 4 ≤ rounds + offset) :
    ∃ attrs, iterNlattrsLoop buf rounds offset out = .ok (out ++ attrs) ∧
      attrs.map (fun attr => (attr.1, attr.2.bytes)) = attributes (buf.bytes.drop offset) := by
  induction rounds generalizing offset out with
  | zero => omega
  | succ rounds ih =>
    have fits : buf.length < 2 ^ 63 := buf.fits
    obtain ⟨found, hread, hfound⟩ := readNlattr_eq hoff
    unfold iterNlattrsLoop
    rw [hread]
    cases hfront : nlAttrs.front (buf.bytes.drop offset) with
    | none =>
      rw [hfront, Option.map_none, Option.map_eq_none_iff] at hfound
      rw [hfound, attributes_none hfront]
      exact ⟨[], by simp; rfl, rfl⟩
    | some r =>
      rw [hfront, Option.map_some, Option.map_eq_some_iff] at hfound
      obtain ⟨⟨nlaType, nlaLen, value⟩, rfl, hattr⟩ := hfound
      simp only [Prod.mk.injEq] at hattr
      obtain ⟨rfl, rfl, hvalue⟩ := hattr
      obtain ⟨pos, le⟩ := advance_le rfl hfront
      have padded := roundUp_lt (show 0 < 4 by decide) r.size
      have size := Framing.front_length hfront
      have suffix := buf.length_drop offset
      obtain ⟨attrs, hloop, hattrs⟩ := ih (out ++ [(attrType r, value)]) le (by omega)
      refine ⟨(attrType r, value) :: attrs, ?_, ?_⟩
      · simp only [ok_bind]
        rw [nextMultipleOf_of_lt (by omega), ok_bind, usizeAdd_of_lt (by omega), ok_bind, hloop, List.append_assoc]
        rfl
      · rw [attributes_some hfront, List.map_cons, hattrs, List.drop_drop, hvalue]
        rfl

theorem iterNlattrs_eq (buf : ByteSlice) :
    ∃ attrs, iterNlattrs buf = .ok attrs ∧
      attrs.map (fun attr => (attr.1, attr.2.bytes)) = attributes buf.bytes :=
  iterNlattrsLoop_eq [] (Nat.zero_le _) (Nat.le_refl _)

theorem applyNlattr_eq (chain : NftChain) (attr : UInt16 × ByteSlice) :
    applyNlattr chain attr = .ok (chain.apply (attr.1, attr.2.bytes)) := by
  obtain ⟨hooks, hiter, hhooks⟩ := iterNlattrs_eq attr.2
  unfold applyNlattr NftChain.apply
  rw [hiter, ok_bind, hhooks]
  simp only [apply_ite Except.ok]
  rfl

theorem foldlM_applyNlattr (attrs : List (UInt16 × ByteSlice)) (chain : NftChain) :
    attrs.foldlM applyNlattr chain =
      .ok ((attrs.map (fun attr => (attr.1, attr.2.bytes))).foldl NftChain.apply chain) := by
  induction attrs generalizing chain with
  | nil => rfl
  | cons attr attrs ih => rw [List.foldlM_cons, applyNlattr_eq, ok_bind, ih, List.map_cons, List.foldl_cons]

theorem parseChainPayload_eq (payload : ByteSlice) : parseChainPayload payload = .ok (decodeChain payload.bytes) := by
  unfold parseChainPayload decodeChain
  split
  next hget =>
    rw [if_neg]
    intro hle
    obtain ⟨part, hpart, -⟩ := payload.get_of_le hle (Nat.le_refl _)
    cases hget.symm.trans hpart
  next attrs hget =>
    by_cases hle : 4 ≤ payload.length
    · obtain ⟨part, hpart, hbytes⟩ := payload.get_of_le hle (Nat.le_refl _)
      rw [hget] at hpart
      cases hpart
      have whole : (payload.bytes.drop 4).take (payload.length - 4) = payload.bytes.drop 4 :=
        List.take_of_length_le (by rw [List.length_drop]; exact Nat.le_refl _)
      obtain ⟨items, hiter, hitems⟩ := iterNlattrs_eq attrs
      rw [if_pos (show 4 ≤ payload.bytes.length from hle), hiter, ok_bind, foldlM_applyNlattr, hitems, hbytes, whole]
      rfl
    · have short : payload.get 4 payload.length = none := if_neg (by omega)
      cases hget.symm.trans short

theorem readNlMessage_eq (hoff : offset ≤ buf.length + 3) :
    ∃ found, readNlMessage buf offset = .ok found ∧
      found.map (fun message => (message.1, message.2.1, message.2.2.bytes)) =
        (nlMessages.front (buf.bytes.drop offset)).map (fun r => (messageType r, r.size, r.body)) := by
  have fits : buf.length < 2 ^ 63 := buf.fits
  have suffix := buf.length_drop offset
  unfold readNlMessage
  by_cases hheader : offset + 6 ≤ buf.length
  · rw [readU32Le_eq (by omega), usizeAdd_of_lt (by omega)]
    simp only [ok_bind]
    rw [readU16Le_eq (by omega), usizeAdd_of_lt (by omega)]
    have small := ofLeBytes_take_lt 4 (buf.bytes.drop offset)
    have declared : nlMessages.declared (buf.bytes.drop offset) = ofLeBytes ((buf.bytes.drop offset).take 4) := by
      simp [Framing.declared, nlMessages, List.take_take]
    generalize ofLeBytes ((buf.bytes.drop offset).take 4) = len at *
    have toNat : (UInt32.ofNat len).toNat = len := by simp; omega
    have short : UInt32.ofNat len < 16 ↔ len < 16 := by rw [UInt32.lt_iff_toNat_lt, toNat]; rfl
    simp only [ok_bind, toNat, short, usizeAdd_of_lt (show offset + len < 2 ^ 64 by omega)]
    by_cases hmin : len < 16
    · refine ⟨none, if_pos hmin, ?_⟩
      rw [Framing.front_incomplete (.inr (.inl (declared ▸ hmin)))]
      rfl
    · rw [if_neg hmin]
      by_cases hmax : offset + len ≤ buf.length
      · obtain ⟨r, payload, front, size, hget, hpayload, field⟩ :=
          buf.front_whole declared (Nat.le_of_not_lt hmin) hmax (show 4 + 2 ≤ 16 by decide)
        change buf.get (offset + 16) (offset + len) = some payload at hget
        rw [hget, front, field]
        exact ⟨_, rfl, by rw [Option.map_some, Option.map_some, size, hpayload, messageType]⟩
      · rw [ByteSlice.get_of_lt (by omega), Framing.front_incomplete (.inr (.inr (by omega)))]
        exact ⟨none, rfl, rfl⟩
  · refine ⟨none, ?_, ?_⟩
    · by_cases hlen : offset + 4 ≤ buf.length
      · rw [readU32Le_eq hlen, usizeAdd_of_lt (by omega)]
        simp only [ok_bind]
        rw [readU16Le_none (by omega) (by omega)]
        rfl
      · rw [readU32Le_none (by omega) (by omega)]
        rfl
    · rw [Framing.front_incomplete (.inl (by change _ < 16; omega))]
      rfl

theorem readI32Le_eq (payload : ByteSlice) :
    ∃ errno, readI32Le payload 0 = .ok errno ∧ errno.getD 0 = errnoOf payload.bytes := by
  unfold readI32Le errnoOf
  rw [readLe_eq (by decide), ok_bind, Nat.zero_add, List.drop_zero]
  refine ⟨_, rfl, ?_⟩
  change (Option.map _ (if 4 ≤ payload.bytes.length then _ else _)).getD 0 = _
  split
  next => rfl
  next => rfl

theorem parseMessage_eq {r : Record UInt8} {payload : ByteSlice} (h : payload.bytes = r.body) :
    parseMessage (messageType r) payload = .ok (chainOf r) := by
  unfold parseMessage chainOf
  split
  next => rw [parseChainPayload_eq, h]
  next => rfl

/-- A round that meets a message which ends the dump is the last. -/
theorem parseNlBufferLoop_terminal {rounds : Nat} {outcome : BufferOutcome} {r : Record UInt8} {payload : ByteSlice}
    (hread : readNlMessage buf offset = .ok (some (messageType r, r.size, payload))) (hpayload : payload.bytes = r.body)
    (hterminal : Terminal r) : parseNlBufferLoop buf (rounds + 1) offset outcome = .ok (outcome.close (some r)) := by
  unfold parseNlBufferLoop BufferOutcome.close
  rw [hread, ok_bind]
  dsimp only
  by_cases hdone : messageType r = nlmsgDone
  · rw [if_pos hdone, if_pos hdone]
    rfl
  · obtain ⟨errno, hreadErrno, herrno⟩ := readI32Le_eq payload
    rw [if_neg hdone, if_neg hdone, if_pos (hterminal.resolve_left hdone), hreadErrno, ok_bind, herrno, hpayload]
    rfl

/-- The rounds read the messages from the offset on, up to the first that ends
the dump or is not all there. -/
theorem parseNlBufferLoop_eq {rounds : Nat} (outcome : BufferOutcome) (hoff : offset ≤ buf.length + 3)
    (hrounds : buf.length + 4 ≤ rounds + offset) :
    ∃ messages rest, nlMessages.Walk (buf.bytes.drop offset) messages rest ∧
      (∀ r ∈ messages, ¬Terminal r) ∧ (∀ r, nlMessages.front rest = some r → Terminal r) ∧
      parseNlBufferLoop buf rounds offset outcome =
        .ok (BufferOutcome.close { outcome with chains := outcome.chains ++ messages.filterMap chainOf }
          (nlMessages.front rest)) := by
  induction rounds generalizing offset outcome with
  | zero => omega
  | succ rounds ih =>
    have fits : buf.length < 2 ^ 63 := buf.fits
    obtain ⟨found, hread, hfound⟩ := readNlMessage_eq hoff
    cases hfront : nlMessages.front (buf.bytes.drop offset) with
    | none =>
      rw [hfront, Option.map_none, Option.map_eq_none_iff] at hfound
      refine ⟨[], _, .nil _, by simp, by simp [hfront], ?_⟩
      rw [parseNlBufferLoop, hread, hfound, hfront, List.filterMap_nil, List.append_nil]
      rfl
    | some r =>
      rw [hfront, Option.map_some, Option.map_eq_some_iff] at hfound
      obtain ⟨⟨msgType, msgLen, payload⟩, rfl, hmessage⟩ := hfound
      simp only [Prod.mk.injEq] at hmessage
      obtain ⟨rfl, rfl, hpayload⟩ := hmessage
      by_cases hterminal : Terminal r
      · refine ⟨[], _, .nil _, by simp, ?_, ?_⟩
        · intro r' hr'
          cases Option.some.inj (hfront.symm.trans hr')
          exact hterminal
        · rw [parseNlBufferLoop_terminal hread hpayload hterminal, hfront, List.filterMap_nil, List.append_nil]
      · obtain ⟨pos, le⟩ := advance_le rfl hfront
        have padded := roundUp_lt (show 0 < 4 by decide) r.size
        have size := Framing.front_length hfront
        have suffix := buf.length_drop offset
        obtain ⟨messages, rest, walk, going, stop, hloop⟩ :=
          ih { outcome with chains := outcome.chains ++ (chainOf r).toList } le (by omega)
        refine ⟨r :: messages, rest, .cons hfront ?_, ?_, stop, ?_⟩
        · rw [List.drop_drop]
          exact walk
        · exact List.forall_mem_cons.mpr ⟨hterminal, going⟩
        · have chains : (chainOf r).toList ++ messages.filterMap chainOf = (r :: messages).filterMap chainOf := by
            rw [List.filterMap_cons]
            cases chainOf r <;> rfl
          rw [parseNlBufferLoop, hread, ok_bind]
          dsimp only
          rw [if_neg (fun h => hterminal (.inl h)), if_neg (fun h => hterminal (.inr h)), parseMessage_eq hpayload,
            ok_bind, nextMultipleOf_of_lt (by omega), ok_bind, usizeAdd_of_lt (by omega), ok_bind, hloop,
            List.append_assoc, chains]

theorem parseNlBuffer_eq (buf : ByteSlice) :
    ∃ messages rest, nlMessages.Walk buf.bytes messages rest ∧
      (∀ r ∈ messages, ¬Terminal r) ∧ (∀ r, nlMessages.front rest = some r → Terminal r) ∧
      parseNlBuffer buf =
        .ok (BufferOutcome.close ⟨messages.filterMap chainOf, false, none⟩ (nlMessages.front rest)) :=
  parseNlBufferLoop_eq BufferOutcome.default (Nat.zero_le _) (Nat.le_refl _)

end

end AnneDeBreuil
