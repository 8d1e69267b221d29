import AnneDeBreuil.PortalAuth

namespace AnneDeBreuil

/-- The bytes of a header value that `http` shows as text: visible ASCII and tabs. -/
def VisibleByte (b : UInt8) : Prop := (32 ≤ b ∧ b < 127) ∨ b = 9

/-- The characters such bytes are. -/
def VisibleChar (c : Char) : Prop := (32 ≤ c.toNat ∧ c.toNat < 127) ∨ c = '\t'

/-- Which bytes `http` makes a header value of, and which of those it shows. -/
structure PortalCrates.Http {ν : Type} (crates : PortalCrates ν) : Prop where
  headerValue : ∀ bytes, (∃ value, crates.headerValue bytes = some value) ↔ ∀ b ∈ bytes, (32 ≤ b ∧ b ≠ 127) ∨ b = 9
  toStr : ∀ bytes value text, crates.headerValue bytes = some value →
    (crates.toStr value = some text ↔ (∀ b ∈ bytes, VisibleByte b) ∧ utf8 text = bytes)

/-- The digests of these texts do not collide. -/
def PortalCrates.CollisionFree {ν : Type} (crates : PortalCrates ν) (texts : List String) : Prop :=
  ∀ x ∈ texts, ∀ y ∈ texts, crates.sha256 (utf8 x) = crates.sha256 (utf8 y) → x = y

def secretsOf (env : String → Option String) (configs : List PortalTokenConfig) : List String :=
  configs.filterMap fun config => env config.secretEnv

section

variable {ν : Type} (crates : PortalCrates ν) (env : String → Option String) (configs : List PortalTokenConfig)

/-- Each configured secret can be sent as a bearer token and authenticates as its
own entry, and no two entries share one. -/
structure TokensHonoured (tokens : PortalTokens) : Prop where
  authenticates : ∀ config ∈ configs, ∀ secret, env config.secretEnv = some secret →
    ∃ value, crates.headerValue (utf8 ("Bearer " ++ secret)) = some value ∧
      ∀ headers : HeaderMap ν, headers "authorization" = some value →
        ∃ ctx, fromRequestParts crates tokens headers = .ok ctx ∧ ctx.tokenId = config.id ∧
          ∀ host, host ∈ ctx.hostScopes ↔ host ∈ config.hosts
  unshared : configs.Pairwise fun a b => env a.secretEnv ≠ env b.secretEnv

/-- No two entries share a secret, each is visible ASCII, and one with blanks
around it is some entry's without them, of the same id and scopes. -/
structure SecretsUsable : Prop where
  unshared : configs.Pairwise fun a b => env a.secretEnv ≠ env b.secretEnv
  visible : ∀ config ∈ configs, ∀ secret, env config.secretEnv = some secret → ∀ c ∈ secret.toList, VisibleChar c
  trimmed : ∀ config ∈ configs, ∀ secret, env config.secretEnv = some secret →
    ∃ same ∈ configs, env same.secretEnv = some (trim secret) ∧ same.id = config.id ∧
      ∀ host, host ∈ same.hosts ↔ host ∈ config.hosts

end

theorem visibleByte_ofNat {n : Nat} (h : n < 256) : VisibleByte (UInt8.ofNat n) ↔ (32 ≤ n ∧ n < 127) ∨ n = 9 := by
  have own : (UInt8.ofNat n).toNat = n := UInt8.toNat_ofNat_of_lt' h
  rw [VisibleByte, UInt8.le_iff_toNat_le, UInt8.lt_iff_toNat_lt, ← UInt8.toNat_inj, own]
  rfl

theorem visibleChar_iff {c : Char} : VisibleChar c ↔ (32 ≤ c.toNat ∧ c.toNat < 127) ∨ c.toNat = 9 := by
  rw [VisibleChar, ← Char.toNat_inj]
  rfl

/-- A character beyond ASCII starts with a byte that is not shown. -/
theorem visible_encode (c : Char) : (∀ b ∈ String.utf8EncodeChar c, VisibleByte b) ↔ VisibleChar c := by
  have high : ∀ {n : Nat} {rest : List UInt8}, 127 < c.toNat → 127 < n → n < 256 →
      ((∀ b ∈ UInt8.ofNat n :: rest, VisibleByte b) ↔ VisibleChar c) := by
    intro n rest hc hlow hhigh
    rw [List.forall_mem_cons, visibleByte_ofNat hhigh, visibleChar_iff]
    omega
  have value : c.val.toNat = c.toNat := rfl
  unfold String.utf8EncodeChar
  dsimp only
  rw [value]
  split
  next ascii =>
    rw [List.forall_mem_cons, visibleByte_ofNat (by omega), visibleChar_iff]
    exact and_iff_left nofun
  next =>
    split
    next => exact high (by omega) (by omega) (by omega)
    next =>
      split
      next => exact high (by omega) (by omega) (by omega)
      next => exact high (by omega) (by omega) (by omega)

theorem visible_utf8 (s : String) : (∀ b ∈ utf8 s, VisibleByte b) ↔ ∀ c ∈ s.toList, VisibleChar c := by
  simp only [utf8, List.mem_flatMap, forall_exists_index, and_imp, ← visible_encode]
  exact ⟨fun h c hc b hb => h b c hc hb, fun h b c hc hb => h c hc b hb⟩

section

variable {ν : Type} {crates : PortalCrates ν} {env : String → Option String} {configs : List PortalTokenConfig}
  {tokens : PortalTokens}

/-- A header that holds a secret behind the scheme shows the secret trimmed. -/
theorem bearerToken_iff (http : crates.Http) {secret token : String} {value : ν} {headers : HeaderMap ν}
    (sent : crates.headerValue (utf8 ("Bearer " ++ secret)) = some value) (here : headers "authorization" = some value) :
    bearerToken crates headers = some token ↔
      (∀ c ∈ secret.toList, VisibleChar c) ∧ token = trim secret ∧ token ≠ "" := by
  have scheme : ∀ c ∈ "Bearer ".toList, VisibleChar c := by simp [VisibleChar]
  have shown : ∀ text, crates.toStr value = some text ↔
      (∀ c ∈ secret.toList, VisibleChar c) ∧ text = "Bearer " ++ secret := by
    intro text
    rw [http.toStr _ value text sent, visible_utf8, String.toList_append, List.forall_mem_append]
    constructor
    · rintro ⟨⟨-, visible⟩, bytes⟩
      have read := fromUtf8_utf8 text
      rw [bytes, fromUtf8_utf8] at read
      exact ⟨visible, (Option.some.inj read).symm⟩
    · rintro ⟨visible, rfl⟩
      exact ⟨⟨scheme, visible⟩, rfl⟩
  unfold bearerToken
  rw [here]
  simp only [Option.bind_eq_bind, Option.bind_some, Option.bind_eq_some_iff, shown]
  constructor
  · rintro ⟨text, ⟨visible, rfl⟩, rest, hrest, h⟩
    rw [String.toList_append, stripPrefix_append] at hrest
    cases hrest
    rw [String.ofList_toList] at h
    split at h
    next => cases h
    next hne =>
      cases h
      exact ⟨visible, rfl, hne⟩
  · rintro ⟨visible, rfl, hne⟩
    refine ⟨_, ⟨visible, rfl⟩, secret.toList, by rw [String.toList_append, stripPrefix_append], ?_⟩
    rw [String.ofList_toList, if_neg hne]

theorem mem_secretsOf {config : PortalTokenConfig} {secret : String} (hconfig : config ∈ configs)
    (hsecret : env config.secretEnv = some secret) : secret ∈ secretsOf env configs :=
  List.mem_filterMap.mpr ⟨config, hconfig, hsecret⟩

/-- What a configured secret's trimmed text authenticates as is an entry of that
text, where the digests tell the texts apart. -/
theorem authenticate_secret (load : PortalTokens.load crates env configs = .ok tokens)
    (free : crates.CollisionFree (secretsOf env configs ++ (secretsOf env configs).map trim)) {secret : String}
    (hsecret : secret ∈ secretsOf env configs) {ctx : AuthContext}
    (h : tokens.authenticate crates (trim secret) = some ctx) :
    ∃ config ∈ configs, env config.secretEnv = some (trim secret) ∧ ctx = ⟨config.id, config.hosts.dedup⟩ := by
  rw [authenticate_loaded load, Option.map_eq_some_iff] at h
  obtain ⟨config, hfound, rfl⟩ := h
  have hconfig : config ∈ configs := List.mem_reverse.mp (List.mem_of_find?_eq_some hfound)
  obtain ⟨own, hown, -⟩ := (load_ok load).1 config hconfig
  have digests : crates.sha256 (utf8 ((env config.secretEnv).getD "")) = crates.sha256 (utf8 (trim secret)) := by
    simpa using List.find?_some hfound
  rw [hown, Option.getD_some] at digests
  have same := free own (List.mem_append_left _ (mem_secretsOf hconfig hown)) (trim secret)
    (List.mem_append_right _ (List.mem_map_of_mem hsecret)) digests
  exact ⟨config, hconfig, by rw [hown, same], rfl⟩

theorem fromRequestParts_ok_iff {headers : HeaderMap ν} {ctx : AuthContext} :
    fromRequestParts crates tokens headers = .ok ctx ↔
      ∃ token, bearerToken crates headers = some token ∧ tokens.authenticate crates token = some ctx := by
  rw [fromRequestParts, ← Option.bind_eq_some_iff]
  cases (bearerToken crates headers).bind (tokens.authenticate crates) with
  | some found => simp
  | none => simp

/-- The accepted secrets all work, as their own entries, exactly where they are
distinct, can be shown in a header and survive the trimming. -/
theorem tokensHonoured_iff (http : crates.Http) (load : PortalTokens.load crates env configs = .ok tokens)
    (free : crates.CollisionFree (secretsOf env configs ++ (secretsOf env configs).map trim)) :
    TokensHonoured crates env configs tokens ↔ SecretsUsable env configs := by
  constructor
  · intro honoured
    have used : ∀ config ∈ configs, ∀ secret, env config.secretEnv = some secret →
        (∀ c ∈ secret.toList, VisibleChar c) ∧ ∃ same ∈ configs, env same.secretEnv = some (trim secret) ∧
          same.id = config.id ∧ ∀ host, host ∈ same.hosts ↔ host ∈ config.hosts := by
      intro config hconfig secret hsecret
      obtain ⟨value, sent, answered⟩ := honoured.authenticates config hconfig secret hsecret
      obtain ⟨ctx, hctx, hid, hscopes⟩ := answered (fun _ => some value) rfl
      obtain ⟨token, htoken, hauth⟩ := fromRequestParts_ok_iff.mp hctx
      obtain ⟨visible, rfl, -⟩ := (bearerToken_iff http sent rfl).mp htoken
      obtain ⟨same, hsame, henv, rfl⟩ := authenticate_secret load free (mem_secretsOf hconfig hsecret) hauth
      exact ⟨visible, same, hsame, henv, hid, fun host => by rw [← hscopes host, List.mem_dedup]⟩
    exact ⟨honoured.unshared, fun config hconfig secret hsecret => (used config hconfig secret hsecret).1,
      fun config hconfig secret hsecret => (used config hconfig secret hsecret).2⟩
  · intro usable
    refine ⟨?_, usable.unshared⟩
    intro config hconfig secret hsecret
    have visible := usable.visible config hconfig secret hsecret
    obtain ⟨same, hsame, henv, hid, hscopes⟩ := usable.trimmed config hconfig secret hsecret
    have legal : ∀ b ∈ utf8 ("Bearer " ++ secret), (32 ≤ b ∧ b ≠ 127) ∨ b = 9 := by
      have shown : ∀ b ∈ utf8 ("Bearer " ++ secret), VisibleByte b := by
        rw [visible_utf8, String.toList_append, List.forall_mem_append]
        exact ⟨by simp [VisibleChar], visible⟩
      intro b hb
      rcases shown b hb with ⟨hlow, hhigh⟩ | htab
      · refine .inl ⟨hlow, ?_⟩
        rintro rfl
        exact absurd hhigh (by decide)
      · exact .inr htab
    obtain ⟨value, sent⟩ := (http.headerValue _).mpr legal
    refine ⟨value, sent, fun headers here => ?_⟩
    have nonempty : trim secret ≠ "" := by
      obtain ⟨own, hown, hne⟩ := (load_ok load).1 same hsame
      rw [henv] at hown
      cases hown
      exact hne
    have token := (bearerToken_iff http sent here).mpr ⟨visible, rfl, nonempty⟩
    obtain ⟨ctx, hauth⟩ : ∃ ctx, tokens.authenticate crates (trim secret) = some ctx := by
      rw [authenticate_loaded load]
      have found : (configs.reverse.find? fun config =>
          decide (crates.sha256 (utf8 ((env config.secretEnv).getD "")) = crates.sha256 (utf8 (trim secret)))).isSome = true := by
        rw [List.find?_isSome]
        exact ⟨same, List.mem_reverse.mpr hsame, by rw [henv]; exact decide_eq_true rfl⟩
      obtain ⟨found, hfound⟩ := Option.isSome_iff_exists.mp found
      rw [hfound]
      exact ⟨_, rfl⟩
    obtain ⟨found, hfound, hfoundEnv, rfl⟩ := authenticate_secret load free (mem_secretsOf hconfig hsecret) hauth
    have one : found = same := by
      have distinct : (configs.map fun config => env config.secretEnv).Nodup := List.pairwise_map.mpr usable.unshared
      exact List.inj_on_of_nodup_map distinct hfound hsame (hfoundEnv.trans henv.symm)
    subst one
    exact ⟨_, fromRequestParts_ok_iff.mpr ⟨_, token, hauth⟩, hid, fun host => by rw [List.mem_dedup, hscopes host]⟩

end

/-- The digests of three texts, and the header values of `http` as their bytes. -/
def tabledPortal : PortalCrates Utf8 where
  sha256 bytes :=
    if bytes = utf8 "alpha" then
      ⟨[0x8e, 0xd3, 0xf6, 0xad, 0x68, 0x5b, 0x95, 0x9e, 0xad, 0x70, 0x22, 0x51, 0x8e, 0x1a, 0xf7, 0x6c,
      0xd8, 0x16, 0xf8, 0xe8, 0xec, 0x7c, 0xcd, 0xda, 0x1e, 0xd4, 0x01, 0x8e, 0x8f, 0x22, 0x23, 0xf8], rfl⟩
    else if bytes = utf8 "beta" then
      ⟨[0xf4, 0x4e, 0x64, 0xe7, 0x5f, 0x39, 0x48, 0xe9, 0xf7, 0x3f, 0x8d, 0xfa, 0x94, 0x72, 0x1c, 0x4c,
      0xe8, 0xcb, 0xb4, 0xf2, 0x65, 0xc4, 0x79, 0x0c, 0x70, 0x2b, 0x2d, 0x41, 0xcf, 0xbf, 0x27, 0x53], rfl⟩
    else if bytes = utf8 "alpha " then
      ⟨[0x0b, 0xd0, 0x50, 0x9b, 0xaf, 0xa4, 0x22, 0x3a, 0x02, 0xad, 0x82, 0xa9, 0x03, 0xd7, 0x3a, 0xb4,
      0x7b, 0x6e, 0x54, 0x07, 0xb0, 0x67, 0x43, 0x36, 0x53, 0x4a, 0x9f, 0x5f, 0xc6, 0x83, 0x7d, 0x03], rfl⟩
    else ⟨List.replicate 32 0, rfl⟩
  headerValue bytes := if bytes.all (fun b => (32 ≤ b && b ≠ 127) || b = 9) then some bytes else none
  toStr bytes := if bytes.all (fun b => (32 ≤ b && b < 127) || b = 9) then fromUtf8 bytes else none

theorem tabledPortal_http : tabledPortal.Http where
  headerValue bytes := by
    simp [tabledPortal, or_iff_not_imp_left]
  toStr bytes value text h := by
    simp only [tabledPortal, Option.ite_none_right_eq_some, Option.some.injEq] at h
    obtain ⟨-, rfl⟩ := h
    simp only [tabledPortal, Option.ite_none_right_eq_some]
    have shown : bytes.all (fun b => (32 ≤ b && b < 127) || b = 9) = true ↔ ∀ b ∈ bytes, VisibleByte b := by
      simp [VisibleByte]
    rw [shown]
    constructor
    · rintro ⟨visible, read⟩
      exact ⟨visible, utf8_of_fromUtf8 read⟩
    · rintro ⟨visible, rfl⟩
      exact ⟨visible, fromUtf8_utf8 text⟩

def opsTokens : List PortalTokenConfig := [⟨"ops", "ANNE_PORTAL_OPS", [⟨1⟩]⟩, ⟨"audit", "ANNE_PORTAL_AUDIT", [⟨2⟩]⟩]

def twoSecrets (name : String) : Option String :=
  if name = "ANNE_PORTAL_OPS" then some "alpha" else if name = "ANNE_PORTAL_AUDIT" then some "beta" else none

theorem tokensHonoured_iff_two_secrets : ∃ tokens, PortalTokens.load tabledPortal twoSecrets opsTokens = .ok tokens ∧
    (TokensHonoured tabledPortal twoSecrets opsTokens tokens ↔ SecretsUsable twoSecrets opsTokens) := by
  have free : tabledPortal.CollisionFree
      (secretsOf twoSecrets opsTokens ++ (secretsOf twoSecrets opsTokens).map trim) := by
    unfold PortalCrates.CollisionFree
    decide +kernel
  exact ⟨_, rfl, tokensHonoured_iff tabledPortal_http rfl free⟩

/-- One secret for two entries, and a secret with a blank behind it, are loaded. -/
theorem tokensHonoured_counterexample :
    (∃ tokens, PortalTokens.load tabledPortal (fun _ => some "alpha") opsTokens = .ok tokens ∧
      ¬TokensHonoured tabledPortal (fun _ => some "alpha") opsTokens tokens) ∧
    ∃ tokens, PortalTokens.load tabledPortal (fun _ => some "alpha ") [⟨"ops", "ANNE_PORTAL_OPS", [⟨1⟩]⟩] = .ok tokens ∧
      ¬TokensHonoured tabledPortal (fun _ => some "alpha ") [⟨"ops", "ANNE_PORTAL_OPS", [⟨1⟩]⟩] tokens := by
  refine ⟨⟨_, rfl, ?_⟩, ⟨_, rfl, ?_⟩⟩
  · intro honoured
    exact absurd honoured.unshared (by decide)
  · intro honoured
    obtain ⟨value, sent, answered⟩ := honoured.authenticates _ (List.mem_singleton.mpr rfl) "alpha " rfl
    have refused : fromRequestParts tabledPortal ⟨[⟨"ops", tabledPortal.sha256 (utf8 "alpha "), [⟨1⟩]⟩]⟩
        (fun _ => some (utf8 ("Bearer " ++ "alpha "))) = .error 401 := by decide +kernel
    cases sent
    obtain ⟨ctx, hctx, -⟩ := answered (fun _ => some (utf8 ("Bearer " ++ "alpha "))) rfl
    cases refused.symm.trans hctx

end AnneDeBreuil
