import AnneDeBreuil.IpText

namespace AnneDeBreuil

/-- The digits of a number in a base, so many of them, the highest first. -/
def beDigits (base : Nat) : Nat → Nat → List Nat
  | 0, _ => []
  | width + 1, n => beDigits base width (n / base) ++ [n % base]

/-- `Display` of an IPv4 address. -/
def displayIpv4 (bits : BitVec 32) : List Char :=
  ['.'].intercalate ((beDigits 256 4 bits.toNat).map (Nat.toDigits 10))

/-- The first longest run of zeros, as its start and its length; `current` is the run that is open. -/
def longestZeros : List Nat → Nat → Nat × Nat → Nat × Nat → Nat × Nat
  | [], _, longest, _ => longest
  | segment :: segments, i, longest, current =>
    if segment = 0 then
      let current := if current.2 = 0 then (i, 1) else (current.1, current.2 + 1)
      longestZeros segments (i + 1) (if longest.2 < current.2 then current else longest) current
    else longestZeros segments (i + 1) longest (0, 0)

def fmtSubslice (segments : List Nat) : List Char := [':'].intercalate (segments.map (Nat.toDigits 16))

/-- `Display` of an IPv6 address: one that maps an IPv4 address shows it, and
else the longest run of zero segments is left out. -/
def displayIpv6 (bits : BitVec 128) : List Char :=
  if bits.toNat / 2 ^ 32 = 0xffff then "::ffff:".toList ++ displayIpv4 (BitVec.ofNat 32 bits.toNat)
  else
    let segments := beDigits 65536 8 bits.toNat
    let (start, length) := longestZeros segments 0 (0, 0) (0, 0)
    if 1 < length then fmtSubslice (segments.take start) ++ ':' :: ':' :: fmtSubslice (segments.drop (start + length))
    else fmtSubslice segments

def IpAddr.display : IpAddr → String
  | .v4 bits => String.ofList (displayIpv4 bits)
  | .v6 bits => String.ofList (displayIpv6 bits)

section

variable {radix maxDigits max n r count c : Nat} {cs rest : List Char}

theorem toDigit_digitChar : ∀ radix ≤ 16, ∀ d < radix, toDigit radix (Nat.digitChar d) = some d := by decide

/-- Digits that are read to their end are read the same in front of a text. -/
theorem readDigits_append (h : readDigits radix maxDigits max r count cs = some (n, c, [])) :
    readDigits radix maxDigits max r count (cs ++ rest) = readDigits radix maxDigits max n c rest := by
  induction cs generalizing r count with
  | nil =>
    cases h
    rfl
  | cons d cs ih =>
    rw [readDigits] at h
    rw [List.cons_append, readDigits]
    cases hdigit : toDigit radix d with
    | none => simp [hdigit] at h
    | some digit =>
      rw [hdigit] at h
      dsimp only at h ⊢
      split at h
      next => cases h
      next hfits =>
        rw [if_neg hfits]
        exact ih h

theorem readDigits_toDigits (hradix : 1 < radix) (hsmall : radix ≤ 16) (hmax : n ≤ max)
    (hdigits : (Nat.toDigits radix n).length ≤ maxDigits) :
    readDigits radix maxDigits max 0 0 (Nat.toDigits radix n) = some (n, (Nat.toDigits radix n).length, []) := by
  have single : ∀ {r count d : Nat}, d < radix → r * radix + d ≤ max → count + 1 ≤ maxDigits →
      readDigits radix maxDigits max r count [Nat.digitChar d] = some (r * radix + d, count + 1, []) := by
    intro r count d hd hle hcount
    simp only [readDigits, toDigit_digitChar radix hsmall d hd]
    rw [if_neg (by omega)]
  induction n using Nat.strongRecOn with
  | ind n ih =>
    rw [Nat.toDigits_eq_if hradix] at hdigits ⊢
    split
    next hlt =>
      rw [if_pos hlt] at hdigits
      have read : readDigits radix maxDigits max 0 0 [Nat.digitChar n] = some (0 * radix + n, 0 + 1, []) :=
        single hlt (by omega) (by simpa using hdigits)
      rwa [Nat.zero_mul, Nat.zero_add] at read
    next hge =>
      rw [if_neg hge] at hdigits
      simp only [List.length_append, List.length_singleton] at hdigits ⊢
      have smaller : n / radix < n := Nat.div_lt_self (by omega) hradix
      rw [readDigits_append (ih (n / radix) smaller (by omega) (by omega))]
      have whole : n / radix * radix + n % radix = n := by rw [Nat.mul_comm]; exact Nat.div_add_mod n radix
      rw [single (Nat.mod_lt n (by omega)) (by omega) (by omega), whole]

/-- No digit of the radix stands at the front. -/
def EndsDigits (radix : Nat) (rest : List Char) : Prop := ∀ c ∈ rest.head?, toDigit radix c = none

theorem readDigits_ends (h : EndsDigits radix rest) :
    readDigits radix maxDigits max r count rest = some (r, count, rest) := by
  cases rest with
  | nil => rfl
  | cons c rest => rw [readDigits, h c rfl]

theorem toDigits_head (hradix : 1 < radix) (hsmall : radix ≤ 16) (h : (Nat.toDigits radix n).head? = some '0') :
    (Nat.toDigits radix n).length = 1 := by
  have positive : ∀ n, 0 < n → (Nat.toDigits radix n).head? ≠ some '0' := by
    intro n
    induction n using Nat.strongRecOn with
    | ind n ih =>
      intro hn
      rw [Nat.toDigits_eq_if hradix]
      split
      next hlt =>
        simp only [List.head?_cons, ne_eq, Option.some.injEq, Nat.digitChar_eq_zero]
        omega
      next hge =>
        rw [List.head?_append_of_ne_nil _ Nat.toDigits_ne_nil]
        exact ih (n / radix) (Nat.div_lt_self hn hradix) (Nat.div_pos (by omega) (by omega))
  rcases Nat.eq_zero_or_pos n with rfl | hn
  · rw [Nat.toDigits_zero]
    rfl
  · exact absurd h (positive n hn)

theorem readNumber_toDigits {allowZeroPrefix : Bool} (hradix : 1 < radix) (hsmall : radix ≤ 16) (hmax : n ≤ max)
    (hdigits : (Nat.toDigits radix n).length ≤ maxDigits) (ends : EndsDigits radix rest) :
    readNumber radix maxDigits max allowZeroPrefix (Nat.toDigits radix n ++ rest) = some (n, rest) := by
  have read : readDigits radix maxDigits max 0 0 (Nat.toDigits radix n ++ rest) = _ :=
    readDigits_append (readDigits_toDigits hradix hsmall hmax hdigits)
  have nonempty : (Nat.toDigits radix n).length ≠ 0 := by
    simp [Nat.toDigits_ne_nil]
  have prefixOk : ¬((!allowZeroPrefix && decide ((Nat.toDigits radix n ++ rest).head? = some '0') &&
      decide (1 < (Nat.toDigits radix n).length)) = true) := by
    simp only [Bool.and_eq_true, decide_eq_true_eq, not_and, Nat.not_lt, and_imp]
    intro _ hhead
    rw [List.head?_append_of_ne_nil _ Nat.toDigits_ne_nil] at hhead
    exact (toDigits_head hradix hsmall hhead).le
  rw [readDigits_ends ends] at read
  simp only [readNumber, read, Option.bind_eq_bind, Option.bind_some, nonempty, if_false]
  rw [if_neg]
  simpa using prefixOk

theorem endsDigits_cons {sep : Char} (h : toDigit radix sep = none) : EndsDigits radix (sep :: rest) := by
  intro c hc
  cases hc
  exact h

theorem endsDigits_nil (radix : Nat) : EndsDigits radix [] := nofun

/-- The digits of a number that fits stand for it. -/
theorem foldl_beDigits (base width n : Nat) :
    (beDigits base width n).foldl (fun acc d => acc * base + d) 0 = n % base ^ width := by
  induction width generalizing n with
  | zero => simp [beDigits, Nat.mod_one]
  | succ width ih =>
    rw [beDigits, List.foldl_append, ih, List.foldl_cons, List.foldl_nil, pow_succ', Nat.mod_mul, Nat.add_comm, Nat.mul_comm]

theorem beDigits_length (base width n : Nat) : (beDigits base width n).length = width := by
  induction width generalizing n with
  | zero => rfl
  | succ width ih => simp [beDigits, ih]

theorem beDigits_lt {base : Nat} (hbase : 0 < base) (width n : Nat) : ∀ d ∈ beDigits base width n, d < base := by
  induction width generalizing n with
  | zero => exact nofun
  | succ width ih =>
    intro d hd
    rcases List.mem_append.mp hd with hd | hd
    · exact ih _ d hd
    · cases List.mem_singleton.mp hd
      exact Nat.mod_lt n hbase

theorem readOctet (h : n < 256) (ends : EndsDigits 10 rest) :
    readNumber 10 3 255 false (Nat.toDigits 10 n ++ rest) = some (n, rest) :=
  readNumber_toDigits (by decide) (by decide) (by omega)
    ((Nat.length_toDigits_le_iff (by decide) (by decide)).mpr (by omega)) ends

theorem readIpv4Addr_display (bits : BitVec 32) (ends : EndsDigits 10 rest) :
    readIpv4Addr (displayIpv4 bits ++ rest) = some (bits, rest) := by
  have octets := foldl_beDigits 256 4 bits.toNat
  have small := beDigits_lt (show 0 < 256 by decide) 4 bits.toNat
  unfold displayIpv4
  generalize hds : beDigits 256 4 bits.toNat = ds at octets small
  match ds, beDigits_length 256 4 bits.toNat ▸ congrArg List.length hds with
  | [a, b, c, d], _ =>
    have dot : ∀ rest, EndsDigits 10 ('.' :: rest) := fun rest => endsDigits_cons (by decide)
    have ha := readOctet (small a (by simp)) (dot (Nat.toDigits 10 b ++ '.' :: (Nat.toDigits 10 c ++ '.' :: (Nat.toDigits 10 d ++ rest))))
    have hb := readOctet (small b (by simp)) (dot (Nat.toDigits 10 c ++ '.' :: (Nat.toDigits 10 d ++ rest)))
    have hc := readOctet (small c (by simp)) (dot (Nat.toDigits 10 d ++ rest))
    have hd := readOctet (small d (by simp)) ends
    have whole : ((a * 256 + b) * 256 + c) * 256 + d = bits.toNat := by
      have below := bits.isLt
      simpa [Nat.mod_eq_of_lt below] using octets
    simp [readIpv4Addr, readSeparator, List.intercalate, ha, hb, hc, hd, whole]

theorem mem_toDigits (hradix : 1 < radix) {d : Char} (h : d ∈ Nat.toDigits radix n) : ∃ k < radix, d = Nat.digitChar k := by
  induction n using Nat.strongRecOn with
  | ind n ih =>
    rw [Nat.toDigits_eq_if hradix] at h
    split at h
    next hlt => exact ⟨n, hlt, List.mem_singleton.mp h⟩
    next hge =>
      rcases List.mem_append.mp h with h | h
      · exact ih (n / radix) (Nat.div_lt_self (by omega) hradix) h
      · exact ⟨n % radix, Nat.mod_lt n (by omega), List.mem_singleton.mp h⟩

theorem mem_displayIpv4 {bits : BitVec 32} {d : Char} (h : d ∈ displayIpv4 bits) :
    d = '.' ∨ ∃ k < 10, d = Nat.digitChar k := by
  rcases mem_intercalate _ h with rfl | ⟨part, hpart, hd⟩
  · exact .inl rfl
  · obtain ⟨octet, -, rfl⟩ := List.mem_map.mp hpart
    exact .inr (mem_toDigits (by decide) hd)

theorem readDigits_split (h : readDigits radix maxDigits max r count cs = some (n, c, rest)) :
    ∃ ds, cs = ds ++ rest ∧ ∀ d ∈ ds, toDigit radix d ≠ none := by
  induction cs generalizing r count with
  | nil =>
    cases h
    exact ⟨[], rfl, nofun⟩
  | cons d cs ih =>
    rw [readDigits] at h
    cases hdigit : toDigit radix d with
    | none =>
      simp only [hdigit, Option.some.injEq, Prod.mk.injEq] at h
      exact ⟨[], by rw [h.2.2]; rfl, nofun⟩
    | some digit =>
      rw [hdigit] at h
      dsimp only at h
      split at h
      next => cases h
      next =>
        obtain ⟨ds, rfl, hds⟩ := ih h
        refine ⟨d :: ds, rfl, ?_⟩
        simp only [List.forall_mem_cons]
        exact ⟨by simp [hdigit], hds⟩

/-- An IPv4 address starts with digits and a dot. -/
theorem readIpv4Addr_dot {read : BitVec 32 × List Char} (h : readIpv4Addr cs = some read) :
    ∃ ds rest, cs = ds ++ '.' :: rest ∧ ∀ d ∈ ds, toDigit 10 d ≠ none := by
  unfold readIpv4Addr at h
  obtain ⟨⟨a, afterA⟩, ha, h⟩ := Option.bind_eq_some_iff.mp h
  obtain ⟨⟨b, afterB⟩, hb, -⟩ := Option.bind_eq_some_iff.mp h
  obtain ⟨⟨n, count, rest⟩, hdigits, ha⟩ := Option.bind_eq_some_iff.mp (show readNumber 10 3 255 false cs = _ from ha)
  obtain ⟨ds, rfl, hds⟩ := readDigits_split hdigits
  have after : rest = afterA := by
    dsimp only at ha
    split at ha
    next => cases ha
    next =>
      split at ha
      next => cases ha
      next => cases ha; rfl
  subst after
  cases rest with
  | nil => simp [readSeparator] at hb
  | cons dot rest =>
    simp only [readSeparator, Nat.one_ne_zero, if_false] at hb
    split at hb
    next hdot => exact ⟨ds, rest, by rw [hdot], hds⟩
    next => cases hb

/-- A group is followed by a colon, or by nothing. -/
def GroupEnd (rest : List Char) : Prop := ∀ c ∈ rest.head?, c = ':'

theorem GroupEnd.endsDigits (h : GroupEnd rest) (hradix : radix = 10 ∨ radix = 16) : EndsDigits radix rest := by
  intro c hc
  rw [h c hc]
  rcases hradix with rfl | rfl
  · decide
  · decide

theorem readIpv4Addr_group (ends : GroupEnd rest) : readIpv4Addr (Nat.toDigits 16 n ++ rest) = none := by
  rw [Option.eq_none_iff_forall_ne_some]
  intro read hread
  obtain ⟨ds, after, hsplit, hds⟩ := readIpv4Addr_dot hread
  have noDot : '.' ∉ Nat.toDigits 16 n := by
    intro hdot
    obtain ⟨k, hk, hchar⟩ := mem_toDigits (by decide) hdot
    have every : ∀ k < 16, '.' ≠ Nat.digitChar k := by decide
    exact every k hk hchar
  rcases List.append_eq_append_iff.mp hsplit with ⟨between, rfl, hrest⟩ | ⟨between, hdigits, hafter⟩
  · cases between with
    | nil =>
      rw [List.nil_append] at hrest
      have dot : '.' = ':' := ends '.' (by rw [hrest]; rfl)
      cases dot
    | cons c between =>
      have colon : c = ':' := ends c (by rw [hrest]; rfl)
      exact hds c (by simp) (by rw [colon]; decide)
  · cases between with
    | nil =>
      have dot : '.' = ':' := ends '.' (by rw [← List.nil_append rest, ← hafter]; rfl)
      cases dot
    | cons c between =>
      cases (List.cons.inj hafter).1
      exact noDot (by rw [hdigits]; simp)

/-- The groups as they stand from an index on, each but the first behind a colon. -/
def groupsText : Nat → List Nat → List Char
  | _, [] => []
  | index, segment :: segments =>
    (if index = 0 then [] else [':']) ++ (Nat.toDigits 16 segment ++ groupsText (index + 1) segments)

theorem groupsText_groupEnd {index : Nat} (segments : List Nat) (h : index ≠ 0) (ends : GroupEnd rest) :
    GroupEnd (groupsText index segments ++ rest) := by
  cases segments with
  | nil => exact ends
  | cons segment segments =>
    intro c hc
    simp only [groupsText, if_neg h, List.cons_append, List.head?_cons] at hc
    exact (Option.some.inj hc).symm

/-- No further group can be read: the text is over, or two colons follow. -/
def Stops (rest : List Char) : Prop := rest = [] ∨ ∃ after, rest = ':' :: ':' :: after

theorem Stops.groupEnd (h : Stops rest) : GroupEnd rest := by
  rcases h with rfl | ⟨after, rfl⟩
  · exact nofun
  · intro c hc
    exact (Option.some.inj hc).symm

theorem readColon : readIpv4Addr (':' :: rest) = none ∧ readNumber 16 4 65535 true (':' :: rest) = none := by
  constructor
  · rw [Option.eq_none_iff_forall_ne_some]
    intro read hread
    obtain ⟨ds, after, hsplit, hds⟩ := readIpv4Addr_dot hread
    cases ds with
    | nil => cases (List.cons.inj hsplit).1
    | cons d ds =>
      cases (List.cons.inj hsplit).1
      exact hds ':' (by simp) (by decide)
  · have none : toDigit 16 ':' = none := by decide
    simp [readNumber, readDigits, none]

theorem readSeparator_stops {α : Type} (inner : List Char → Option (α × List Char)) (index : Nat) (h : Stops rest)
    (empty : inner [] = none) (colon : ∀ after, inner (':' :: after) = none) : readSeparator ':' index inner rest = none := by
  unfold readSeparator
  rcases h with rfl | ⟨after, rfl⟩
  · split
    next => exact empty
    next => rfl
  · split
    next => exact colon _
    next => simp [colon]

theorem readSeparator_group {α : Type} (inner : List Char → Option (α × List Char)) (index segment : Nat)
    (segments : List Nat) : readSeparator ':' index inner (groupsText index (segment :: segments) ++ rest) =
      inner (Nat.toDigits 16 segment ++ (groupsText (index + 1) segments ++ rest)) := by
  by_cases h : index = 0
  · simp [readSeparator, groupsText, h]
  · simp [readSeparator, groupsText, h]

theorem readGroups_stops {index remaining : Nat} (h : Stops rest) : readGroups index rest remaining = ([], false, rest) := by
  cases remaining with
  | zero => rfl
  | succ remaining =>
    have ipv4 := readSeparator_stops readIpv4Addr index h rfl fun _ => readColon.1
    have group := readSeparator_stops (readNumber 16 4 65535 true) index h rfl fun _ => readColon.2
    simp only [readGroups, ipv4, group, ite_self]

theorem readGroup (h : n < 65536) (ends : EndsDigits 16 rest) :
    readNumber 16 4 65535 true (Nat.toDigits 16 n ++ rest) = some (n, rest) :=
  readNumber_toDigits (by decide) (by decide) (Nat.le_of_lt_succ h)
    ((Nat.length_toDigits_le_iff (by decide) (by decide)).mpr h) ends

theorem readGroups_text (index remaining : Nat) {segments : List Nat} (small : ∀ segment ∈ segments, segment < 65536)
    (room : segments.length ≤ remaining) (stops : Stops rest) :
    readGroups index (groupsText index segments ++ rest) remaining = (segments, false, rest) := by
  induction segments generalizing index remaining with
  | nil => exact readGroups_stops stops
  | cons segment segments ih =>
    obtain ⟨remaining, rfl⟩ : ∃ r, remaining = r + 1 := Nat.exists_eq_succ_of_ne_zero (by
      simp only [List.length_cons] at room
      omega)
    have ends := groupsText_groupEnd segments (Nat.succ_ne_zero index) stops.groupEnd
    have group := readGroup (small segment List.mem_cons_self) (ends.endsDigits (.inr rfl))
    have later := ih (index + 1) remaining (fun s hs => small s (List.mem_cons_of_mem _ hs)) (Nat.le_of_succ_le_succ room)
    simp only [readGroups, readSeparator_group, readIpv4Addr_group ends, ite_self, group, later]

theorem fmtSubslice_eq (segments : List Nat) : fmtSubslice segments = groupsText 0 segments := by
  have later : ∀ {index : Nat} (segments : List Nat), index ≠ 0 →
      groupsText index segments = segments.flatMap fun segment => ':' :: Nat.toDigits 16 segment := by
    intro index segments
    induction segments generalizing index with
    | nil => exact fun _ => rfl
    | cons segment segments ih =>
      intro h
      rw [groupsText, ih (Nat.succ_ne_zero index), if_neg h]
      rfl
  cases segments with
  | nil => rfl
  | cons segment segments =>
    rw [fmtSubslice, groupsText, later segments (by decide)]
    induction segments generalizing segment with
    | nil => simp
    | cons next segments ih =>
      have tail := ih next
      simp only [List.map_cons, List.intercalate_cons_cons, if_true, List.nil_append, List.flatMap_cons] at tail ⊢
      rw [tail]
      simp

end

/-- The segments of the run are all zero. -/
def ZeroRun (segments : List Nat) (run : Nat × Nat) : Prop :=
  ∀ j, run.1 ≤ j → j < run.1 + run.2 → segments[j]? = some 0

theorem longestZeros_zeroRun {segments seen : List Nat} {longest current : Nat × Nat}
    (hlongest : ZeroRun (seen ++ segments) longest) (hcurrent : ZeroRun (seen ++ segments) current)
    (open_ : current.2 = 0 ∨ current.1 + current.2 = seen.length) :
    ZeroRun (seen ++ segments) (longestZeros segments seen.length longest current) := by
  induction segments generalizing seen longest current with
  | nil => exact hlongest
  | cons segment segments ih =>
    have shift : seen ++ segment :: segments = (seen ++ [segment]) ++ segments := by simp
    have next : (seen ++ [segment]).length = seen.length + 1 := by simp
    rw [longestZeros]
    split
    next hzero =>
      have here : (seen ++ segment :: segments)[seen.length]? = some 0 := by simp [hzero]
      obtain ⟨opened, hopened⟩ : ∃ opened, (if current.2 = 0 then (seen.length, 1) else (current.1, current.2 + 1)) = opened :=
        ⟨_, rfl⟩
      have ends : opened.1 + opened.2 = seen.length + 1 := by
        rw [← hopened]
        split
        next => rfl
        next hsome =>
          have := open_.resolve_left hsome
          simp only
          omega
      have grown : ZeroRun (seen ++ segment :: segments) opened := by
        rw [← hopened]
        intro j hlow hhigh
        split at hlow
        next hnone =>
          rw [if_pos hnone] at hhigh
          cases (show j = seen.length by omega)
          exact here
        next hsome =>
          rw [if_neg hsome] at hhigh
          by_cases hlast : j = seen.length
          · rw [hlast, here]
          · exact hcurrent j hlow (by omega)
      rw [hopened, shift, ← next]
      refine ih ?_ (shift ▸ grown) (.inr (ends.trans next.symm))
      rw [← shift]
      split
      next => exact grown
      next => exact hlongest
    next =>
      rw [shift, ← next]
      exact ih (shift ▸ hlongest) (fun j hlow hhigh => by omega) (.inl rfl)

theorem ZeroRun.split {segments : List Nat} {start length : Nat} (h : ZeroRun segments (start, length)) (hpos : 0 < length) :
    start + length ≤ segments.length ∧
      segments = segments.take start ++ (List.replicate length 0 ++ segments.drop (start + length)) := by
  have last := h (start + length - 1) (by simp only; omega) (by simp only; omega)
  obtain ⟨inside, -⟩ := List.getElem?_eq_some_iff.mp last
  have zeros : (segments.drop start).take length = List.replicate length 0 := by
    apply List.ext_getElem?
    intro j
    rw [List.getElem?_take, List.getElem?_drop, List.getElem?_replicate]
    split
    next hj => exact h (start + j) (by simp only; omega) (by simp only; omega)
    next => rfl
  refine ⟨by omega, ?_⟩
  rw [← zeros, ← List.drop_drop, List.take_append_drop, List.take_append_drop]

theorem ofGroups_beDigits (bits : BitVec 128) : ofGroups (beDigits 65536 8 bits.toNat) = bits := by
  rw [ofGroups, foldl_beDigits, Nat.mod_eq_of_lt (show bits.toNat < 65536 ^ 8 from bits.isLt), BitVec.ofNat_toNat,
    BitVec.setWidth_eq]

/-- The groups before and after two colons, and zeros for those left out. -/
theorem readIpv6Addr_compressed {before after : List Nat} (small : ∀ segment ∈ before ++ after, segment < 65536)
    (room : before.length + after.length < 8) :
    readIpv6Addr (fmtSubslice before ++ ':' :: ':' :: fmtSubslice after) =
      some (ofGroups (before ++ List.replicate (8 - before.length - after.length) 0 ++ after), []) := by
  have colons : Stops (':' :: ':' :: fmtSubslice after) := .inr ⟨_, rfl⟩
  have ended : Stops [] := .inl rfl
  have head := readGroups_text 0 8 (fun s hs => small s (List.mem_append_left _ hs)) (by omega) colons
  have tail := readGroups_text 0 (8 - (before.length + 1)) (fun s hs => small s (List.mem_append_right before hs))
    (by omega) ended
  rw [List.append_nil] at tail
  rw [fmtSubslice_eq before, readIpv6Addr, head]
  simp only [if_neg (show before.length ≠ 8 by omega), Bool.false_eq_true, if_false]
  rw [fmtSubslice_eq after, tail]

theorem readIpv6Addr_whole {segments : List Nat} (small : ∀ segment ∈ segments, segment < 65536)
    (eight : segments.length = 8) : readIpv6Addr (fmtSubslice segments) = some (ofGroups segments, []) := by
  have ended : Stops [] := .inl rfl
  have head := readGroups_text 0 8 small eight.le ended
  rw [List.append_nil] at head
  rw [fmtSubslice_eq, readIpv6Addr, head]
  simp only [if_pos eight]

theorem readIpv6Addr_mapped (ipv4 : BitVec 32) :
    readIpv6Addr ("::ffff:".toList ++ displayIpv4 ipv4) =
      some (ofGroups [0, 0, 0, 0, 0, 65535, ipv4.toNat / 65536, ipv4.toNat % 65536], []) := by
  have text : "::ffff:".toList ++ displayIpv4 ipv4 =
      ':' :: ':' :: (Nat.toDigits 16 65535 ++ ':' :: displayIpv4 ipv4) := rfl
  have ends : GroupEnd (':' :: displayIpv4 ipv4) := fun c hc => (Option.some.inj hc).symm
  have ffff := readGroup (show 65535 < 65536 by decide) (ends.endsDigits (.inr rfl))
  have ipv4Read := readIpv4Addr_display ipv4 (endsDigits_nil 10)
  rw [List.append_nil] at ipv4Read
  rw [text, readIpv6Addr, readGroups_stops (.inr ⟨_, rfl⟩)]
  simp [readGroups, readSeparator, readIpv4Addr_group ends, ffff, ipv4Read]

/-- A text of groups is no IPv4 address. -/
theorem readIpv4Addr_groups {rest : List Char} (segments : List Nat) (h : Stops rest) :
    readIpv4Addr (fmtSubslice segments ++ rest) = none := by
  rw [fmtSubslice_eq]
  cases segments with
  | nil =>
    rcases h with rfl | ⟨after, rfl⟩
    · rfl
    · exact readColon.1
  | cons segment segments =>
    rw [groupsText, if_pos rfl, List.nil_append, List.append_assoc]
    exact readIpv4Addr_group (groupsText_groupEnd segments (by decide) h.groupEnd)

/-- The text of an IPv6 address that maps none. -/
theorem read_segments {segments : List Nat} (small : ∀ segment ∈ segments, segment < 65536) (eight : segments.length = 8)
    {start length : Nat} (run : ZeroRun segments (start, length)) :
    let text :=
      if 1 < length then fmtSubslice (segments.take start) ++ ':' :: ':' :: fmtSubslice (segments.drop (start + length))
      else fmtSubslice segments
    readIpv4Addr text = none ∧ readIpv6Addr text = some (ofGroups segments, []) := by
  intro text
  by_cases long : 1 < length
  · obtain ⟨inside, hsplit⟩ := run.split (by omega)
    have room : (segments.take start).length = start ∧ (segments.drop (start + length)).length = 8 - (start + length) := by
      rw [List.length_take, List.length_drop, eight]
      exact ⟨by omega, rfl⟩
    have own : ∀ segment ∈ segments.take start ++ segments.drop (start + length), segment < 65536 := by
      intro segment hsegment
      rcases List.mem_append.mp hsegment with h | h
      · exact small segment (List.mem_of_mem_take h)
      · exact small segment (List.mem_of_mem_drop h)
    have read := readIpv6Addr_compressed own (by rw [room.1, room.2]; omega)
    have zeros : 8 - start - (8 - (start + length)) = length := by omega
    rw [room.1, room.2, zeros, List.append_assoc, ← hsplit] at read
    simp only [text, if_pos long]
    exact ⟨readIpv4Addr_groups _ (.inr ⟨_, rfl⟩), read⟩
  · simp only [text, if_neg long]
    have ended : Stops [] := .inl rfl
    have ipv4 := readIpv4Addr_groups segments ended
    rw [List.append_nil] at ipv4
    exact ⟨ipv4, readIpv6Addr_whole small eight⟩

theorem read_displayIpv6 (bits : BitVec 128) :
    readIpv4Addr (displayIpv6 bits) = none ∧ readIpv6Addr (displayIpv6 bits) = some (bits, []) := by
  unfold displayIpv6
  split
  next mapped =>
    refine ⟨readColon.1, ?_⟩
    have below := bits.isLt
    rw [readIpv6Addr_mapped]
    congr 2
    apply BitVec.eq_of_toNat_eq
    simp only [ofGroups, List.foldl_cons, List.foldl_nil, BitVec.toNat_ofNat]
    omega
  next =>
    have run : ZeroRun ([] ++ beDigits 65536 8 bits.toNat) (longestZeros (beDigits 65536 8 bits.toNat) 0 (0, 0) (0, 0)) :=
      longestZeros_zeroRun (fun j hlow hhigh => by omega) (fun j hlow hhigh => by omega) (.inl rfl)
    have read := read_segments (beDigits_lt (by decide) _ _) (beDigits_length ..) run
    rw [ofGroups_beDigits] at read
    exact read

/-- The text of an address is read as that address. -/
theorem IpAddr.fromStr_display (ip : IpAddr) : IpAddr.fromStr ip.display = some ip := by
  cases ip with
  | v4 bits =>
    have read := readIpv4Addr_display bits (endsDigits_nil 10)
    rw [List.append_nil] at read
    simp only [IpAddr.fromStr, IpAddr.display, String.toList_ofList, read]
  | v6 bits =>
    obtain ⟨ipv4, read⟩ := read_displayIpv6 bits
    simp only [IpAddr.fromStr, IpAddr.display, String.toList_ofList, ipv4, read, Option.map_some]

example : (IpAddr.v6 0x20010db8000000000001000000000001).display = "2001:db8::1:0:0:1" := by decide +kernel

end AnneDeBreuil
