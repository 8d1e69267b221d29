import AnneDeBreuil.PortalRepository
import Mathlib.Data.List.Dedup

namespace AnneDeBreuil

/-- `[u8; 32]`. -/
abbrev Digest := { bytes : List UInt8 // bytes.length = 32 }

/-- What `sha2` digests bytes to, and the header values of `http`: the bytes that
may be one, and the text of one that is visible. -/
structure PortalCrates (ν : Type) where
  sha256 : Utf8 → Digest
  headerValue : Utf8 → Option ν
  toStr : ν → Option String

structure PortalTokenConfig where
  id : String
  secretEnv : String
  hosts : List HostId
deriving DecidableEq, Repr

inductive PortalAuthConfigError
  | missingSecret (tokenId secretEnv : String)
deriving DecidableEq, Repr

structure TokenEntry where
  tokenId : String
  secretHash : Digest
  hostScopes : List HostId

structure PortalTokens where
  entries : List TokenEntry

/-- The value under each header's name. -/
abbrev HeaderMap (ν : Type) := String → Option ν

def constantTimeEq (a b : Digest) : Bool :=
  (a.val.zip b.val).foldl (fun diff (x, y) => diff ||| (x ^^^ y)) 0 == 0

/-- `str::strip_prefix`. -/
def stripPrefix (lead cs : List Char) : Option (List Char) :=
  if lead.isPrefixOf cs then some (cs.drop lead.length) else none

section

variable {ν : Type} (crates : PortalCrates ν)

def TokenEntry.load (env : String → Option String) (config : PortalTokenConfig) :
    Except PortalAuthConfigError TokenEntry :=
  match (env config.secretEnv).filter (· ≠ "") with
  | some secret => .ok ⟨config.id, crates.sha256 (utf8 secret), config.hosts.dedup⟩
  | none => .error (.missingSecret config.id config.secretEnv)

def PortalTokens.load (env : String → Option String) (configs : List PortalTokenConfig) :
    Except PortalAuthConfigError PortalTokens :=
  (configs.mapM (TokenEntry.load crates env)).map PortalTokens.mk

/-- Every entry is compared, and the last that matches counts. -/
def PortalTokens.authenticate (tokens : PortalTokens) (presented : String) : Option AuthContext :=
  let presentedHash := crates.sha256 (utf8 presented)
  let matched := tokens.entries.foldl
    (fun matched entry => if constantTimeEq entry.secretHash presentedHash then some entry else matched) none
  matched.map fun entry => ⟨entry.tokenId, entry.hostScopes⟩

def bearerToken (headers : HeaderMap ν) : Option String := do
  let header ← headers "authorization"
  let value ← crates.toStr header
  let token := trim (String.ofList (← stripPrefix "Bearer ".toList value.toList))
  if token = "" then none else some token

def statusUnauthorized : Nat := 401

/-- The extractor of an `AuthContext`. -/
def fromRequestParts (tokens : PortalTokens) (headers : HeaderMap ν) : Except Nat AuthContext :=
  match (bearerToken crates headers).bind (tokens.authenticate crates) with
  | some ctx => .ok ctx
  | none => .error statusUnauthorized

end

/-- No byte differs where none of the differences has a bit. -/
theorem constantTimeEq_iff {a b : Digest} : constantTimeEq a b = true ↔ a = b := by
  have loop : ∀ (xs ys : List UInt8) (diff : UInt8), xs.length = ys.length →
      ((xs.zip ys).foldl (fun diff (x, y) => diff ||| (x ^^^ y)) diff = 0 ↔ diff = 0 ∧ xs = ys) := by
    intro xs
    induction xs with
    | nil =>
      intro ys diff hlen
      rw [List.eq_nil_of_length_eq_zero hlen.symm]
      simp
    | cons x xs ih =>
      intro ys diff hlen
      cases ys with
      | nil => cases hlen
      | cons y ys =>
        rw [List.zip_cons_cons, List.foldl_cons, ih ys _ (Nat.succ.inj hlen), UInt8.or_eq_zero_iff, UInt8.xor_eq_zero_iff,
          List.cons.injEq, and_assoc]
  rw [constantTimeEq, beq_iff_eq, loop a.val b.val 0 (a.property.trans b.property.symm), Subtype.ext_iff]
  exact and_iff_right rfl

theorem lastMatch_eq {α : Type} (p : α → Bool) (l : List α) (before : Option α) :
    l.foldl (fun matched x => if p x then some x else matched) before = (l.reverse.find? p).or before := by
  induction l generalizing before with
  | nil => rfl
  | cons x l ih =>
    rw [List.foldl_cons, ih, List.reverse_cons, List.find?_append]
    cases hfound : l.reverse.find? p with
    | some y => rfl
    | none =>
      cases hx : p x with
      | true => simp [hx]
      | false => simp [hx]

theorem stripPrefix_append (lead cs : List Char) : stripPrefix lead (lead ++ cs) = some cs := by
  simp [stripPrefix]

section

variable {ν : Type} {crates : PortalCrates ν} {env : String → Option String} {configs : List PortalTokenConfig}
  {tokens : PortalTokens}

theorem TokenEntry.load_ok_iff {config : PortalTokenConfig} {entry : TokenEntry} :
    TokenEntry.load crates env config = .ok entry ↔
      (∃ secret, env config.secretEnv = some secret ∧ secret ≠ "") ∧
        entry = ⟨config.id, crates.sha256 (utf8 ((env config.secretEnv).getD "")), config.hosts.dedup⟩ := by
  unfold TokenEntry.load
  cases hsecret : env config.secretEnv with
  | none => simp
  | some secret =>
    by_cases hne : secret = ""
    · simp [Option.filter, hne]
    · simp [Option.filter, hne, eq_comm]

/-- A loaded configuration holds one entry for each of its own, with its secret's digest. -/
theorem load_ok (load : PortalTokens.load crates env configs = .ok tokens) :
    (∀ config ∈ configs, ∃ secret, env config.secretEnv = some secret ∧ secret ≠ "") ∧
      tokens.entries = configs.map fun config =>
        ⟨config.id, crates.sha256 (utf8 ((env config.secretEnv).getD "")), config.hosts.dedup⟩ := by
  unfold PortalTokens.load at load
  cases hentries : configs.mapM (TokenEntry.load crates env) with
  | error e =>
    rw [hentries] at load
    cases load
  | ok entries =>
    rw [hentries] at load
    cases load
    have each := mapM_eq_ok_iff.mp hentries
    simp only [TokenEntry.load_ok_iff] at each
    clear hentries
    induction each with
    | nil => exact ⟨nofun, rfl⟩
    | cons head _ ih => exact ⟨List.forall_mem_cons.mpr ⟨head.1, ih.1⟩, congrArg₂ List.cons head.2 ih.2⟩

/-- An authenticated text is the digest's of a configured entry, the last of them. -/
theorem authenticate_loaded (load : PortalTokens.load crates env configs = .ok tokens) (presented : String) :
    tokens.authenticate crates presented =
      (configs.reverse.find? fun config =>
        crates.sha256 (utf8 ((env config.secretEnv).getD "")) = crates.sha256 (utf8 presented)).map fun config =>
          ⟨config.id, config.hosts.dedup⟩ := by
  obtain ⟨-, hentries⟩ := load_ok load
  have same : ∀ a b : Digest, constantTimeEq a b = decide (a = b) := by
    intro a b
    rw [Bool.eq_iff_iff, constantTimeEq_iff, decide_eq_true_iff]
  unfold PortalTokens.authenticate
  simp only [same]
  rw [lastMatch_eq (fun entry : TokenEntry => decide (entry.secretHash = crates.sha256 (utf8 presented))), Option.or_none,
    hentries, ← List.map_reverse, List.find?_map, Option.map_map]
  rfl

end

end AnneDeBreuil
