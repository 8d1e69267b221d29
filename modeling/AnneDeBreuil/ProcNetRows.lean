import AnneDeBreuil.ProcNet

namespace AnneDeBreuil

/-- How a row writes its numbers and the state of a listener. -/
structure RowSyntax where
  numeral : Nat → List Char → Nat → Prop
  listens : List Char → Prop

/-- Digits alone, and `0A` as the kernel prints it. -/
def RowSyntax.plain : RowSyntax := ⟨Numeral, (· = ['0', 'A'])⟩

/-- Digits after a plus sign too, and the state in either letter case. -/
def RowSyntax.accepted : RowSyntax := ⟨PlusNumeral, fun state => state.map Char.toLower = ['0', 'a']⟩

/-- One word for an IPv4 address or four for an IPv6 address, each of eight
characters and holding its octets with the lowest byte first. -/
inductive KernelAddr (numeral : List Char → Nat → Prop) : List Char → IpAddr → Prop
  | v4 {word : List Char} {n : Nat} (length : word.length = 8) (hword : numeral word n) :
      KernelAddr numeral word (.v4 (BitVec.ofNat 32 (ofBeBytes (toLeBytes 4 n))))
  | v6 (words : List (List Char × Nat)) (four : words.length = 4)
      (each : ∀ word ∈ words, word.1.length = 8 ∧ numeral word.1 word.2) :
      KernelAddr numeral (words.flatMap Prod.fst)
        (.v6 (BitVec.ofNat 128 (ofBeBytes (words.flatMap fun word => toLeBytes 4 word.2))))

/-- A line is a row of an endpoint: it has ten fields, the second an address and
a port, the fourth the state and the tenth the inode. -/
structure RowReads (syn : RowSyntax) (inodeToPid : Nat → Option UInt32) (protocol : String) (listening : Bool)
    (line : List Char) (raw : RawEndpoint) : Prop where
  fields : 10 ≤ (splitWhitespace line).length
  address : ∃ addr port ip number, (splitWhitespace line)[1]? = some (addr ++ ':' :: port) ∧
    KernelAddr (syn.numeral 16) addr ip ∧ syn.numeral 16 port number ∧ number < 65536 ∧
    raw.localAddress = ip.display ∧ raw.localPort = UInt16.ofNat number
  state : listening = true → ∃ state, (splitWhitespace line)[3]? = some state ∧ syn.listens state
  inode : ∃ inodeField inode, (splitWhitespace line)[9]? = some inodeField ∧ syn.numeral 10 inodeField inode ∧
    inode < 18446744073709551616 ∧ raw.owningPid = inodeToPid inode
  protocol : raw.protocol = protocol

/-- The words of an address as the kernel prints them, of octets in network order. -/
def kernelWords : Nat → List UInt8 → List Char
  | 0, _ => []
  | words + 1, octets => hexDigits 8 (ofLeBytes (octets.take 4)) ++ kernelWords words (octets.drop 4)

def kernelAddr : IpAddr → List Char
  | .v4 bits => kernelWords 1 (toBeBytes 4 bits.toNat)
  | .v6 bits => kernelWords 4 (toBeBytes 16 bits.toNat)

theorem encode_length {cs : List Char} (h : ∀ c ∈ cs, c.toNat < 128) : (cs.flatMap String.utf8EncodeChar).length = cs.length := by
  induction cs with
  | nil => rfl
  | cons c cs ih =>
    rw [List.forall_mem_cons] at h
    have one : (String.utf8EncodeChar c).length = 1 := by
      rw [String.length_utf8EncodeChar, Char.utf8Size_eq_one_iff]
      exact UInt32.le_iff_toNat_le.mpr (Nat.le_of_lt_succ h.1)
    rw [List.flatMap_cons, List.length_append, one, ih h.2, List.length_cons, Nat.add_comm]

theorem encode_injective {as bs : List Char} (h : as.flatMap String.utf8EncodeChar = bs.flatMap String.utf8EncodeChar) :
    as = bs := by
  have same : utf8 (String.ofList as) = utf8 (String.ofList bs) := by simpa [utf8] using h
  have text := congrArg fromUtf8 same
  rw [fromUtf8_utf8, fromUtf8_utf8] at text
  exact String.ofList_injective (Option.some.inj text)

theorem PlusNumeral.ascii {cs : List Char} {n : Nat} (h : PlusNumeral 16 cs n) : ∀ c ∈ cs, c.toNat < 128 := by
  intro c hc
  rcases h.mem c hc with rfl | hdigit
  · decide
  · by_contra hbig
    have high : ∀ hi : Char, hi.toNat < 128 → ¬c ≤ hi := by
      intro hi hlow hle
      have : c.toNat ≤ hi.toNat := UInt32.le_iff_toNat_le.mp hle
      omega
    simp [toDigit, high '9' (by decide), high 'f' (by decide), high 'F' (by decide)] at hdigit

theorem decodeWords_iff {words : Nat} {bytes : Utf8} {octets : List UInt8} (hlen : bytes.length = 8 * words) :
    decodeWords words bytes = some octets ↔
      ∃ ws : List (List Char × Nat), ws.length = words ∧ (∀ w ∈ ws, w.1.length = 8 ∧ PlusNumeral 16 w.1 w.2) ∧
        bytes = (ws.flatMap Prod.fst).flatMap String.utf8EncodeChar ∧ octets = ws.flatMap fun w => toLeBytes 4 w.2 := by
  induction words generalizing bytes octets with
  | zero =>
    have hnil : bytes = [] := List.eq_nil_of_length_eq_zero (by omega)
    subst hnil
    constructor
    · intro h
      cases h
      exact ⟨[], rfl, nofun, rfl, rfl⟩
    · rintro ⟨ws, hws, -, -, rfl⟩
      rw [List.eq_nil_of_length_eq_zero hws]
      rfl
  | succ words ih =>
    have later : (bytes.drop 8).length = 8 * words := by
      rw [List.length_drop]
      omega
    rw [decodeWords]
    simp only [Option.bind_eq_bind, Option.bind_eq_some_iff, Option.pure_def, Option.some.injEq]
    constructor
    · rintro ⟨chunk, hchunk, n, hn, rest, hrest, rfl⟩
      obtain ⟨hnumeral, -⟩ := fromStrRadix_iff.mp hn
      obtain ⟨ws, hws, each, hbytes, rfl⟩ := (ih later).mp hrest
      have own : chunk.toList.flatMap String.utf8EncodeChar = bytes.take 8 := utf8_of_fromUtf8 hchunk
      have eight : chunk.toList.length = 8 := by
        rw [← encode_length hnumeral.ascii, own, List.length_take]
        omega
      refine ⟨(chunk.toList, n) :: ws, by simp [hws], ?_, ?_, rfl⟩
      · rw [List.forall_mem_cons]
        exact ⟨⟨eight, hnumeral⟩, each⟩
      · rw [List.flatMap_cons, List.flatMap_append, own, ← hbytes, List.take_append_drop]
    · rintro ⟨ws, hws, each, rfl, rfl⟩
      match ws with
      | w :: ws =>
        rw [List.forall_mem_cons] at each
        obtain ⟨⟨eight, hnumeral⟩, each⟩ := each
        have width : (w.1.flatMap String.utf8EncodeChar).length = 8 := by rw [encode_length hnumeral.ascii, eight]
        have split : ((w :: ws).flatMap Prod.fst).flatMap String.utf8EncodeChar =
            w.1.flatMap String.utf8EncodeChar ++ (ws.flatMap Prod.fst).flatMap String.utf8EncodeChar := by
          rw [List.flatMap_cons, List.flatMap_append]
        rw [split, List.drop_left' width] at later
        rw [split, List.take_left' width, List.drop_left' width]
        refine ⟨String.ofList w.1, ?_, w.2, ?_, _, (ih later).mpr ⟨ws, by simpa using hws, each, rfl, rfl⟩, rfl⟩
        · rw [show w.1.flatMap String.utf8EncodeChar = utf8 (String.ofList w.1) by simp [utf8]]
          exact fromUtf8_utf8 _
        · rw [String.toList_ofList, fromStrRadix_iff]
          have below := hnumeral.lt (by decide)
          rw [eight] at below
          exact ⟨hnumeral, below⟩

/-- A text is decoded exactly where it is an address, to the text of that address. -/
theorem decodeHexAddr_iff {hex : List Char} {text : String} :
    decodeHexAddr (String.ofList hex) = some text ↔ ∃ ip, KernelAddr (PlusNumeral 16) hex ip ∧ text = ip.display := by
  have bytes : utf8 (String.ofList hex) = hex.flatMap String.utf8EncodeChar := by simp [utf8]
  unfold decodeHexAddr
  rw [bytes]
  constructor
  · intro h
    dsimp only at h
    split at h
    next => cases h
    next hwords =>
      simp only [Bool.or_eq_true, decide_eq_true_eq, not_or, not_not] at hwords
      obtain ⟨octets, hoctets, written⟩ := Option.bind_eq_some_iff.mp h
      obtain ⟨ws, hlen, each, same, rfl⟩ := (decodeWords_iff (by omega)).mp hoctets
      have hsplit := encode_injective same
      subst hsplit
      have width : (ws.flatMap fun w => toLeBytes 4 w.2).length = ws.length * 4 := by simp [List.length_flatMap]
      split at written
      next four =>
        cases written
        obtain ⟨w, rfl⟩ := List.length_eq_one_iff.mp (show ws.length = 1 by omega)
        rw [List.flatMap_singleton, List.flatMap_singleton]
        have own := each w (by simp)
        exact ⟨_, .v4 own.1 own.2, rfl⟩
      next =>
        split at written
        next sixteen =>
          cases written
          exact ⟨_, .v6 ws (by omega) each, rfl⟩
        next => cases written
  · rintro ⟨ip, haddr, rfl⟩
    cases haddr with
    | @v4 _ n eight hnumeral =>
      have len : (hex.flatMap String.utf8EncodeChar).length = 8 := by rw [encode_length hnumeral.ascii, eight]
      have octets : decodeWords 1 (hex.flatMap String.utf8EncodeChar) = some (toLeBytes 4 n) :=
        (decodeWords_iff len).mpr ⟨[(hex, n)], rfl, by simpa using ⟨eight, hnumeral⟩, by simp, by simp⟩
      simp [len, octets]
    | v6 ws four each =>
      have ascii : ∀ c ∈ ws.flatMap Prod.fst, c.toNat < 128 := by
        intro c hc
        obtain ⟨w, hw, hc⟩ := List.mem_flatMap.mp hc
        exact (each w hw).2.ascii c hc
      have width : (ws.flatMap Prod.fst).length = 32 := by
        rw [List.length_flatMap, List.map_congr_left fun w hw => (each w hw).1]
        simp [four]
      have len : ((ws.flatMap Prod.fst).flatMap String.utf8EncodeChar).length = 32 := by rw [encode_length ascii, width]
      have octets : decodeWords 4 ((ws.flatMap Prod.fst).flatMap String.utf8EncodeChar) = some _ :=
        (decodeWords_iff len).mpr ⟨ws, four, each, rfl, rfl⟩
      have sixteen : (ws.flatMap fun w => toLeBytes 4 w.2).length = 16 := by simp [List.length_flatMap, four]
      simp [len, octets, sixteen]

theorem nth_eq_some {α : Type} {n : Nat} {fields rest : List α} {field : α} :
    nth n fields = some (field, rest) ↔ fields[n]? = some field ∧ rest = fields.drop (n + 1) := by
  unfold nth
  constructor
  · intro h
    split at h
    next => cases h
    next found later hdrop =>
      cases h
      refine ⟨?_, ?_⟩
      · rw [← List.head?_drop, hdrop]
        rfl
      · rw [← List.drop_drop, hdrop]
        rfl
  · rintro ⟨hfield, rfl⟩
    have hdrop : fields.drop n = field :: fields.drop (n + 1) := by
      obtain ⟨hlt, rfl⟩ := List.getElem?_eq_some_iff.mp hfield
      exact List.drop_eq_getElem_cons hlt
    rw [hdrop]

theorem KernelAddr.chars {cs : List Char} {ip : IpAddr} (h : KernelAddr (PlusNumeral 16) cs ip) :
    ∀ c ∈ cs, c = '+' ∨ toDigit 16 c ≠ none := by
  cases h with
  | v4 _ hword => exact hword.mem
  | v6 words _ each =>
    intro c hc
    obtain ⟨word, hword, hc⟩ := List.mem_flatMap.mp hc
    exact (each word hword).2.mem c hc

/-- The state test of a TCP row, and no test for UDP. -/
theorem state_passes {wantState : Option String} {state : List Char} (h : wantState = none ∨ wantState = some tcpListen) :
    (wantState.any fun want => !eqIgnoreAsciiCase (String.ofList state) want) = false ↔
      (wantState.isSome = true → state.map Char.toLower = ['0', 'a']) := by
  rcases h with rfl | rfl
  · simp
  · have listen : tcpListen.toList.map Char.toLower = ['0', 'a'] := by decide
    simp [eqIgnoreAsciiCase, listen]

/-- A line yields an endpoint exactly where it is a row of it. -/
theorem parseFields_iff {inodeToPid : Nat → Option UInt32} {line : List Char} {protocol : String}
    {wantState : Option String} {raw : RawEndpoint} (hwant : wantState = none ∨ wantState = some tcpListen) :
    parseFields inodeToPid line protocol wantState = some raw ↔
      RowReads .accepted inodeToPid protocol wantState.isSome line raw := by
  constructor
  · intro h
    obtain ⟨⟨localField, fields⟩, firstNth, h⟩ := Option.bind_eq_some_iff.mp h
    obtain ⟨⟨state, later⟩, secondNth, h⟩ := Option.bind_eq_some_iff.mp h
    obtain ⟨hlocal, rfl⟩ := nth_eq_some.mp firstNth
    obtain ⟨hstate, rfl⟩ := nth_eq_some.mp secondNth
    dsimp only at h
    split at h
    next => cases h
    next hlisten =>
      obtain ⟨⟨inodeField, rest⟩, thirdNth, h⟩ := Option.bind_eq_some_iff.mp h
      obtain ⟨inode, readInode, h⟩ := Option.bind_eq_some_iff.mp h
      obtain ⟨⟨addr, port⟩, hsplit, h⟩ := Option.bind_eq_some_iff.mp h
      obtain ⟨localAddress, haddr, h⟩ := Option.bind_eq_some_iff.mp h
      obtain ⟨localPort, readPort, h⟩ := Option.bind_eq_some_iff.mp h
      cases h
      obtain ⟨hinodeField, -⟩ := nth_eq_some.mp thirdNth
      obtain ⟨ip, hip, rfl⟩ := decodeHexAddr_iff.mp haddr
      obtain ⟨hinode, hinodeFits⟩ := fromStrRadix_iff.mp readInode
      obtain ⟨hport, hportFits⟩ := fromStrRadix_iff.mp readPort
      simp only [List.getElem?_drop] at hstate hinodeField
      refine ⟨?_, ⟨addr, port, ip, localPort, ?_, hip, hport, hportFits, rfl, rfl⟩, fun listening => ⟨state, hstate, ?_⟩,
        ⟨inodeField, inode, hinodeField, hinode, hinodeFits, rfl⟩, rfl⟩
      · have := (List.getElem?_eq_some_iff.mp hinodeField).1
        omega
      · rw [hlocal, (splitOnce_eq_some.mp hsplit).1]
      · exact (state_passes hwant).mp (by simpa using hlisten) listening
  · intro row
    obtain ⟨addr, port, ip, number, hlocal, hip, hport, hportFits, haddress, hnumber⟩ := row.address
    obtain ⟨inodeField, inode, hinodeField, hinode, hinodeFits, hpid⟩ := row.inode
    have bound := row.fields
    have hstateField : (splitWhitespace line)[3]? = some (splitWhitespace line)[3] := List.getElem?_eq_getElem _
    have noColon : ':' ∉ addr := by
      intro hmem
      rcases hip.chars ':' hmem with h | h
      · cases h
      · exact h (by decide)
    have listens : (wantState.any fun want => !eqIgnoreAsciiCase (String.ofList (splitWhitespace line)[3]) want) = false := by
      rw [state_passes hwant]
      intro listening
      obtain ⟨state, hstate, hlistens⟩ := row.state listening
      rw [hstateField] at hstate
      cases hstate
      exact hlistens
    have first : nth 1 (splitWhitespace line) = some (addr ++ ':' :: port, (splitWhitespace line).drop 2) :=
      nth_eq_some.mpr ⟨hlocal, rfl⟩
    have second : nth 1 ((splitWhitespace line).drop 2) = some ((splitWhitespace line)[3], (splitWhitespace line).drop 4) := by
      rw [nth_eq_some, List.getElem?_drop, List.drop_drop]
      exact ⟨hstateField, rfl⟩
    have third : nth 5 ((splitWhitespace line).drop 4) = some (inodeField, (splitWhitespace line).drop 10) := by
      rw [nth_eq_some, List.getElem?_drop, List.drop_drop]
      exact ⟨hinodeField, rfl⟩
    have text := decodeHexAddr_iff.mpr ⟨ip, hip, rfl⟩
    unfold parseFields
    simp only [first, second, third, Option.bind_eq_bind, Option.bind_some, listens, splitOnce_eq_some.mpr ⟨rfl, noColon⟩,
      fromStrRadix_iff.mpr ⟨hinode, hinodeFits⟩, fromStrRadix_iff.mpr ⟨hport, hportFits⟩, text, ← haddress, ← hnumber,
      ← hpid, ← row.protocol]
    rfl

theorem KernelAddr.mono {numeral numeral' : List Char → Nat → Prop} {cs : List Char} {ip : IpAddr}
    (hle : ∀ cs n, numeral cs n → numeral' cs n) (h : KernelAddr numeral cs ip) : KernelAddr numeral' cs ip := by
  cases h with
  | v4 eight hword => exact .v4 eight (hle _ _ hword)
  | v6 words four each => exact .v6 words four fun word hword => ⟨(each word hword).1, hle _ _ (each word hword).2⟩

theorem hexDigits_length (width n : Nat) : (hexDigits width n).length = width := by
  rw [hexDigits, List.length_map, beDigits_length]

/-- Printed words are numerals of eight digits, and hold the octets. -/
theorem kernelWords_words {words : Nat} {octets : List UInt8} (h : octets.length = 4 * words) :
    ∃ ws : List (List Char × Nat), ws.length = words ∧ (∀ w ∈ ws, w.1.length = 8 ∧ Numeral 16 w.1 w.2) ∧
      kernelWords words octets = ws.flatMap Prod.fst ∧ octets = ws.flatMap fun w => toLeBytes 4 w.2 := by
  induction words generalizing octets with
  | zero => exact ⟨[], rfl, nofun, rfl, List.eq_nil_of_length_eq_zero (by omega)⟩
  | succ words ih =>
    obtain ⟨ws, hlen, each, hwords, hoctets⟩ := ih (show (octets.drop 4).length = 4 * words by rw [List.length_drop]; omega)
    have four : (octets.take 4).length = 4 := by
      rw [List.length_take]
      omega
    have below := ofLeBytes_lt (octets.take 4)
    have own := toLeBytes_ofLeBytes (octets.take 4)
    rw [four] at below own
    refine ⟨(hexDigits 8 (ofLeBytes (octets.take 4)), ofLeBytes (octets.take 4)) :: ws, by simp [hlen], ?_, ?_, ?_⟩
    · rw [List.forall_mem_cons]
      exact ⟨⟨hexDigits_length 8 _, numeral_hexDigits (by decide) below⟩, each⟩
    · rw [kernelWords, hwords, List.flatMap_cons]
    · rw [List.flatMap_cons, own, ← hoctets, List.take_append_drop]

/-- What the kernel prints for an address reads as that address. -/
theorem kernelAddr_reads (ip : IpAddr) : KernelAddr (Numeral 16) (kernelAddr ip) ip := by
  cases ip with
  | v4 bits =>
    obtain ⟨ws, hlen, each, hwords, hoctets⟩ := kernelWords_words (show _ = 4 * 1 from toBeBytes_length 4 bits.toNat)
    obtain ⟨w, rfl⟩ := List.length_eq_one_iff.mp hlen
    rw [List.flatMap_singleton] at hwords hoctets
    have own := each w (by simp)
    have whole : bits = BitVec.ofNat 32 (ofBeBytes (toLeBytes 4 w.2)) := by
      rw [← hoctets, ofBeBytes_toBeBytes bits.isLt, BitVec.ofNat_toNat, BitVec.setWidth_eq]
    rw [kernelAddr, hwords, whole]
    exact .v4 own.1 own.2
  | v6 bits =>
    obtain ⟨ws, hlen, each, hwords, hoctets⟩ := kernelWords_words (show _ = 4 * 4 from toBeBytes_length 16 bits.toNat)
    have whole : bits = BitVec.ofNat 128 (ofBeBytes (ws.flatMap fun w => toLeBytes 4 w.2)) := by
      rw [← hoctets, ofBeBytes_toBeBytes bits.isLt, BitVec.ofNat_toNat, BitVec.setWidth_eq]
    rw [kernelAddr, hwords, whole]
    exact .v6 ws hlen each

theorem decodeHexAddr_kernelAddr (ip : IpAddr) : decodeHexAddr (String.ofList (kernelAddr ip)) = some ip.display :=
  decodeHexAddr_iff.mpr ⟨ip, (kernelAddr_reads ip).mono fun _ _ => .inl, rfl⟩

/-- The parsers yield one endpoint for each row, in the order of the lines, and
read back the address and the port of the kernel's encoding. -/
theorem parseProcNet_rows (inodeToPid : Nat → Option UInt32) :
    (∀ contents, ∃ outcomes, List.Forall₂ (fun line outcome =>
        ∀ raw, outcome = some raw ↔ RowReads .accepted inodeToPid "tcp" true line raw)
        ((lines contents.toList).drop 1) outcomes ∧
      parseProcNetTcp inodeToPid contents = outcomes.reduceOption) ∧
    (∀ contents, ∃ outcomes, List.Forall₂ (fun line outcome =>
        ∀ raw, outcome = some raw ↔ RowReads .accepted inodeToPid "udp" false line raw)
        ((lines contents.toList).drop 1) outcomes ∧
      parseProcNetUdp inodeToPid contents = outcomes.reduceOption) ∧
    (∀ ip port, decodeHexAddr (String.ofList (kernelAddr ip)) = some (IpAddr.display ip) ∧
      IpAddr.fromStr ip.display = some ip ∧
      (fromStrRadix 16 65536 (hexDigits 4 port.toNat)).map UInt16.ofNat = some port) := by
  have mapped : ∀ {row : List Char → Option RawEndpoint} {R : List Char → RawEndpoint → Prop}
      (_ : ∀ line raw, row line = some raw ↔ R line raw) (rows : List (List Char)),
      List.Forall₂ (fun line outcome => ∀ raw, outcome = some raw ↔ R line raw) rows (rows.map row) ∧
        rows.filterMap row = (rows.map row).reduceOption := by
    intro row R hrow rows
    refine ⟨?_, ?_⟩
    · rw [List.forall₂_map_right_iff]
      exact List.forall₂_same.mpr fun line _ => hrow line
    · show rows.filterMap row = (rows.map row).filterMap id
      rw [List.filterMap_map]
      rfl
  refine ⟨fun contents => ⟨_, mapped (fun line raw => parseFields_iff (.inr rfl)) _⟩,
    fun contents => ⟨_, mapped (fun line raw => parseFields_iff (.inl rfl)) _⟩, fun ip port => ⟨decodeHexAddr_kernelAddr ip,
    IpAddr.fromStr_display ip, ?_⟩⟩
  have below := port.toNat_lt
  rw [fromStrRadix_iff.mpr ⟨.inl (numeral_hexDigits (by decide) below), below⟩, Option.map_some, UInt16.ofNat_toNat]

/-- A state in a small letter and an inode with a plus sign are read too. -/
theorem parseProcNet_rows_counterexample :
    ¬∀ (inodeToPid : Nat → Option UInt32) (contents : String), ∃ outcomes, List.Forall₂ (fun line outcome =>
        ∀ raw, outcome = some raw ↔ RowReads .plain inodeToPid "tcp" true line raw)
        ((lines contents.toList).drop 1) outcomes ∧
      parseProcNetTcp inodeToPid contents = outcomes.reduceOption := by
  intro h
  obtain ⟨outcomes, each, hparse⟩ :=
    h (fun _ => none) "sl\n0: 0100007F:1F90 00000000:0000 0a 0:0 0:0 0 0 0 +7\n"
  have rows : (lines "sl\n0: 0100007F:1F90 00000000:0000 0a 0:0 0:0 0 0 0 +7\n".toList).drop 1 =
      ["0: 0100007F:1F90 00000000:0000 0a 0:0 0:0 0 0 0 +7".toList] := by decide +kernel
  have read : parseProcNetTcp (fun _ => none) "sl\n0: 0100007F:1F90 00000000:0000 0a 0:0 0:0 0 0 0 +7\n" =
      [⟨"tcp", "127.0.0.1", 8080, none⟩] := by decide +kernel
  rw [rows] at each
  obtain ⟨outcome, hrow, rfl⟩ : ∃ outcome, (∀ raw, outcome = some raw ↔ RowReads .plain (fun _ => none) "tcp" true
      "0: 0100007F:1F90 00000000:0000 0a 0:0 0:0 0 0 0 +7".toList raw) ∧ outcomes = [outcome] := by
    cases each with
    | cons hrow rest =>
      cases rest
      exact ⟨_, hrow, rfl⟩
  have found : outcome = some ⟨"tcp", "127.0.0.1", 8080, none⟩ := by
    rw [read] at hparse
    cases outcome with
    | none => cases hparse
    | some raw =>
      cases hparse
      rfl
  obtain ⟨state, hstate, hlistens⟩ := ((hrow _).mp found).state rfl
  have small : (splitWhitespace "0: 0100007F:1F90 00000000:0000 0a 0:0 0:0 0 0 0 +7".toList)[3]? = some ['0', 'a'] := by
    decide +kernel
  rw [small] at hstate
  cases hstate
  exact absurd hlistens (by simp [RowSyntax.plain])

end AnneDeBreuil
