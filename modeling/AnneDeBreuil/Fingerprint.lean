import AnneDeBreuil.FirstHits
import AnneDeBreuil.PatternComplexity
import AnneDeBreuil.Text
import AnneDeBreuil.Values

namespace AnneDeBreuil

/-- A match of the regex crate: a part of the text that was searched. -/
structure RegexMatch (text : String) where
  before : List Char
  asStr : String
  after : List Char
  split : before ++ asStr.toList ++ after = text.toList

/-- A compiled pattern, by what the crate answers about a text. -/
structure Regex where
  isMatch : String → Bool
  captures : (text : String) → Option (Nat → Option (RegexMatch text))

inductive Confidence
  | assigned
  | heuristic
  | probable
  | confirmed
deriving DecidableEq, Repr

inductive ServiceCategory
  | webServer
  | database
  | remoteAccess
  | fileSharing
  | messaging
  | monitoring
  | dns
  | mail
  | other
deriving DecidableEq, Repr

/-- One observed fact that supports an identification. -/
inductive Evidence
  | portAssignment (registryName : String)
  | bannerMatch (pattern : String)
  | httpHeader (name value : String)
  | httpBodyPattern (snippet : String)
  | tlsCertificateSubject (subject : String)
  | alpnProtocol (protocol : String)
  | processName (name : String)
deriving DecidableEq, Repr

def Evidence.isPortAssignmentOnly : Evidence → Bool
  | .portAssignment _ => true
  | _ => false

/-- What is believed to run on a port. The constructor's two refusals are fields. -/
structure ServiceIdentity where
  name : String
  category : ServiceCategory
  version : Option String
  confidence : Confidence
  evidence : List Evidence
  supported : evidence ≠ []
  justified : Confidence.assigned.ctorIdx < confidence.ctorIdx →
    evidence.all Evidence.isPortAssignmentOnly = false

/-- The two domain errors that are about an identity. -/
inductive IdentityError
  | missingEvidence
  | overconfidentFromPortAlone
deriving DecidableEq, Repr

def ServiceIdentity.new (name : String) (category : ServiceCategory) (confidence : Confidence)
    (evidence : List Evidence) : Except IdentityError ServiceIdentity :=
  if supported : evidence = [] then .error .missingEvidence
  else if justified : Confidence.assigned.ctorIdx < confidence.ctorIdx ∧
      evidence.all Evidence.isPortAssignmentOnly = true then .error .overconfidentFromPortAlone
  else .ok
    { name, category, version := none, confidence, evidence, supported
      justified := fun h => Bool.not_eq_true _ ▸ fun all => justified ⟨h, all⟩ }

def ServiceIdentity.withVersion (identity : ServiceIdentity) (version : String) : ServiceIdentity :=
  { identity with version := some version }

structure HeaderMatcherRaw where
  name : String
  pattern : String
deriving DecidableEq, Repr

structure MatchersRaw where
  httpHeader : Option HeaderMatcherRaw
  bodyPrefix : Option String
  bodyPattern : Option String
  tlsSubjectPattern : Option String
  bannerPattern : Option String
  alpn : Option (List String)
  versionCapture : Option String
deriving DecidableEq, Repr

structure FingerprintEntryRaw where
  name : String
  category : ServiceCategory
  confidence : Confidence
  matchers : MatchersRaw
deriving DecidableEq, Repr

structure CompiledFingerprint where
  name : String
  category : ServiceCategory
  confidence : Confidence
  httpHeader : Option (String × Regex)
  bodyPrefix : Option String
  bodyPattern : Option Regex
  tlsSubjectPattern : Option Regex
  bannerPattern : Option Regex
  alpn : Option (List String)
  versionCapture : Option Regex

section

variable {ε : Type} (regexNew : String → Except ε Regex)

def compilePattern (pattern : String) : Except (CatalogueError ε) Regex := do
  checkComplexity pattern
  (regexNew pattern).mapError (.invalidRegex pattern)

def CompiledFingerprint.compile (entry : FingerprintEntryRaw) : Except (CatalogueError ε) CompiledFingerprint := do
  let httpHeader ← entry.matchers.httpHeader.mapM fun header => do
    let pattern ← compilePattern regexNew header.pattern
    pure (toAsciiLowercase header.name, pattern)
  let bodyPattern ← entry.matchers.bodyPattern.mapM (compilePattern regexNew)
  let tlsSubjectPattern ← entry.matchers.tlsSubjectPattern.mapM (compilePattern regexNew)
  let bannerPattern ← entry.matchers.bannerPattern.mapM (compilePattern regexNew)
  let versionCapture ← entry.matchers.versionCapture.mapM (compilePattern regexNew)
  let bodyPrefix := entry.matchers.bodyPrefix
  let alpn := entry.matchers.alpn
  if httpHeader.isNone && bodyPrefix.isNone && bodyPattern.isNone && tlsSubjectPattern.isNone &&
      bannerPattern.isNone && alpn.isNone then
    .error (.noMatchers entry.name)
  else
    .ok { name := entry.name, category := entry.category, confidence := entry.confidence, httpHeader, bodyPrefix,
          bodyPattern, tlsSubjectPattern, bannerPattern, alpn, versionCapture }

/-- The catalogue: the entries of the shipped table that compile. -/
def buildCatalogue (entries : List FingerprintEntryRaw) : List CompiledFingerprint :=
  entries.filterMap fun entry => (CompiledFingerprint.compile regexNew entry).toOption

end

def pushUnique (matched : List Evidence) (item : Evidence) : List Evidence :=
  if item ∈ matched then matched else matched ++ [item]

def bodyHasPrefixedLine (body linePrefix : String) : Bool :=
  (lines body.toList).any fun line => linePrefix.toList.isPrefixOf line

/-- A matcher's loop over the evidence, where the entry defines the matcher. -/
def collectHits {μ : Type} (matcher : Option μ) (hit : μ → Evidence → Bool) (evidence matched : List Evidence) :
    List Evidence :=
  match matcher with
  | some matcher =>
    evidence.foldl (fun matched item => if hit matcher item then pushUnique matched item else matched) matched
  | none => matched

def headerHit (header : String × Regex) : Evidence → Bool
  | .httpHeader name value => eqIgnoreAsciiCase name header.1 && header.2.isMatch value
  | _ => false

def bodyPrefixHit (linePrefix : String) : Evidence → Bool
  | .httpBodyPattern snippet => bodyHasPrefixedLine snippet linePrefix
  | _ => false

def bodyPatternHit (pattern : Regex) : Evidence → Bool
  | .httpBodyPattern snippet => pattern.isMatch snippet
  | _ => false

def tlsSubjectHit (pattern : Regex) : Evidence → Bool
  | .tlsCertificateSubject subject => pattern.isMatch subject
  | _ => false

def bannerHit (pattern : Regex) : Evidence → Bool
  | .bannerMatch banner => pattern.isMatch banner
  | _ => false

def alpnHit (protocols : List String) : Evidence → Bool
  | .alpnProtocol protocol => protocols.any fun candidate => eqIgnoreAsciiCase candidate protocol
  | _ => false

/-- The text of an item that a version is looked for in. -/
def Evidence.versionText : Evidence → Option String
  | .httpHeader _ value => some value
  | .httpBodyPattern snippet => some snippet
  | .bannerMatch banner => some banner
  | .tlsCertificateSubject subject => some subject
  | .alpnProtocol _ | .portAssignment _ | .processName _ => none

def extractVersion (pattern : Regex) (evidence : List Evidence) : Option String :=
  evidence.findSome? fun item =>
    item.versionText.bind fun text =>
      (pattern.captures text).bind fun captures => (captures 1).map RegexMatch.asStr

namespace CompiledFingerprint

def tryMatch (self : CompiledFingerprint) (evidence : List Evidence) : Option ServiceIdentity :=
  let matched := []
  let matched := collectHits self.httpHeader headerHit evidence matched
  let matched := collectHits self.bodyPrefix bodyPrefixHit evidence matched
  let matched := collectHits self.bodyPattern bodyPatternHit evidence matched
  let matched := collectHits self.tlsSubjectPattern tlsSubjectHit evidence matched
  let matched := collectHits self.bannerPattern bannerHit evidence matched
  let matched := collectHits self.alpn alpnHit evidence matched
  if matched.isEmpty then none
  else
    let version := self.versionCapture.bind fun pattern => extractVersion pattern matched
    match ServiceIdentity.new self.name self.category self.confidence matched with
    | .error _ => none
    | .ok identity =>
      match version with
      | some version => some (identity.withVersion version)
      | none => some identity

/-- The matchers that the entry defines, in the order of their loops. -/
def matchers (self : CompiledFingerprint) : List (Evidence → Bool) :=
  (self.httpHeader.map headerHit).toList ++ (self.bodyPrefix.map bodyPrefixHit).toList ++
    (self.bodyPattern.map bodyPatternHit).toList ++ (self.tlsSubjectPattern.map tlsSubjectHit).toList ++
    (self.bannerPattern.map bannerHit).toList ++ (self.alpn.map alpnHit).toList

/-- Some matcher of the entry hits the item. -/
def hits (self : CompiledFingerprint) (item : Evidence) : Bool := self.matchers.any fun hit => hit item

end CompiledFingerprint

/-- Identifies services by the catalogue. -/
def fingerprint (catalogue : List CompiledFingerprint) (evidence : List Evidence) : List ServiceIdentity :=
  catalogue.filterMap fun entry => entry.tryMatch evidence

/-- A compiled entry defines a matcher. -/
theorem CompiledFingerprint.matchers_ne_nil {ε : Type} {regexNew : String → Except ε Regex} {entry : FingerprintEntryRaw}
    {compiled : CompiledFingerprint} (h : CompiledFingerprint.compile regexNew entry = .ok compiled) :
    compiled.matchers ≠ [] := by
  obtain ⟨httpHeader, -, h⟩ := bind_eq_ok h
  obtain ⟨bodyPattern, -, h⟩ := bind_eq_ok h
  obtain ⟨tlsSubjectPattern, -, h⟩ := bind_eq_ok h
  obtain ⟨bannerPattern, -, h⟩ := bind_eq_ok h
  obtain ⟨versionCapture, -, h⟩ := bind_eq_ok h
  simp only at h
  split at h
  next => cases h
  next defined =>
    cases h
    intro none
    refine defined ?_
    simpa [matchers, and_assoc] using none

theorem matchers_ne_nil_of_mem_buildCatalogue {ε : Type} {regexNew : String → Except ε Regex}
    {entries : List FingerprintEntryRaw} {compiled : CompiledFingerprint} (h : compiled ∈ buildCatalogue regexNew entries) :
    compiled.matchers ≠ [] := by
  obtain ⟨entry, -, hcompile⟩ := List.mem_filterMap.mp h
  cases hresult : CompiledFingerprint.compile regexNew entry with
  | error e => simp [hresult, Except.toOption] at hcompile
  | ok result =>
    obtain rfl : result = compiled := by simpa [hresult, Except.toOption] using hcompile
    exact CompiledFingerprint.matchers_ne_nil hresult

theorem ServiceIdentity.new_eq_ok (name : String) (category : ServiceCategory) (confidence : Confidence)
    {evidence : List Evidence} {item : Evidence} (hmem : item ∈ evidence) (observed : item.isPortAssignmentOnly = false) :
    ∃ identity, ServiceIdentity.new name category confidence evidence = .ok identity ∧ identity.name = name ∧
      identity.category = category ∧ identity.confidence = confidence ∧ identity.version = none ∧
      identity.evidence = evidence := by
  have supported : evidence ≠ [] := List.ne_nil_of_mem hmem
  have justified : ¬(Confidence.assigned.ctorIdx < confidence.ctorIdx ∧
      evidence.all Evidence.isPortAssignmentOnly = true) := by
    rintro ⟨-, all⟩
    rw [List.all_eq_true.mp all item hmem] at observed
    cases observed
  rw [ServiceIdentity.new, dif_neg supported, dif_neg justified]
  exact ⟨_, rfl, rfl, rfl, rfl, rfl, rfl⟩

theorem collectHits_eq {μ : Type} (matcher : Option μ) (hit : μ → Evidence → Bool) (evidence matched : List Evidence) :
    collectHits matcher hit evidence matched =
      ((matcher.map hit).toList.flatMap evidence.filter).foldl pushUnique matched := by
  cases matcher with
  | none => rfl
  | some matcher =>
    rw [collectHits, Option.map_some, Option.toList_some, List.flatMap_singleton, List.foldl_filter]

section

variable {entry : CompiledFingerprint} {evidence : List Evidence}

/-- No matcher is for the evidence of a port number or of a process name. -/
theorem observed_of_hits {item : Evidence} (h : entry.hits item = true) : item.isPortAssignmentOnly = false := by
  obtain ⟨hit, hmatcher, found⟩ := List.any_eq_true.mp h
  cases item with
  | portAssignment name =>
    simp only [CompiledFingerprint.matchers, List.mem_append, Option.mem_toList, Option.map_eq_some_iff] at hmatcher
    rcases hmatcher with ((((⟨_, -, rfl⟩ | ⟨_, -, rfl⟩) | ⟨_, -, rfl⟩) | ⟨_, -, rfl⟩) | ⟨_, -, rfl⟩) | ⟨_, -, rfl⟩ <;>
      cases found
  | _ => rfl

/-- The loops together take the first hits of the matchers. -/
theorem tryMatch_eq (entry : CompiledFingerprint) (evidence : List Evidence) : entry.tryMatch evidence =
    if (firstHits entry.matchers evidence).isEmpty then none
    else
      match ServiceIdentity.new entry.name entry.category entry.confidence (firstHits entry.matchers evidence) with
      | .error _ => none
      | .ok identity =>
        match entry.versionCapture.bind fun pattern => extractVersion pattern (firstHits entry.matchers evidence) with
        | some version => some (identity.withVersion version)
        | none => some identity := by
  have taken : ∀ items : List Evidence, items.foldl pushUnique [] = items.eraseDups := foldl_insertNew
  simp only [CompiledFingerprint.tryMatch, collectHits_eq, ← List.foldl_append, ← List.flatMap_append]
  simp only [taken]
  rfl

/-- What an identity owes to the evidence. -/
structure BackedBy (entry : CompiledFingerprint) (evidence : List Evidence) (identity : ServiceIdentity) : Prop where
  name : identity.name = entry.name
  category : identity.category = entry.category
  confidence : identity.confidence = entry.confidence
  exact : ∀ item, item ∈ identity.evidence ↔ item ∈ evidence ∧ entry.hits item = true
  once : identity.evidence.Nodup
  ordered : identity.evidence.Pairwise fun a b =>
    hitRank entry.matchers evidence a < hitRank entry.matchers evidence b
  version : ∀ version, identity.version = some version → ∃ pattern ∈ entry.versionCapture, ∃ item ∈ identity.evidence,
    ∃ text ∈ item.versionText, ∃ captures ∈ pattern.captures text, ∃ group ∈ captures 1,
      group.asStr = version ∧ version.toList <:+: text.toList

theorem extractVersion_eq_some {pattern : Regex} {items : List Evidence} {version : String}
    (h : extractVersion pattern items = some version) : ∃ item ∈ items, ∃ text ∈ item.versionText,
      ∃ captures ∈ pattern.captures text, ∃ group ∈ captures 1,
        group.asStr = version ∧ version.toList <:+: text.toList := by
  obtain ⟨item, hitem, h⟩ := List.exists_of_findSome?_eq_some h
  obtain ⟨text, htext, h⟩ := Option.bind_eq_some_iff.mp h
  obtain ⟨captures, hcaptures, h⟩ := Option.bind_eq_some_iff.mp h
  obtain ⟨group, hgroup, rfl⟩ := Option.map_eq_some_iff.mp h
  exact ⟨item, hitem, text, htext, captures, hcaptures, group, hgroup, rfl, group.before, group.after, group.split⟩

/-- Where something is hit the constructor does not refuse. -/
theorem tryMatch_eq_some {item : Evidence} (hmem : item ∈ evidence) (hit : entry.hits item = true) :
    ∃ identity, entry.tryMatch evidence = some identity ∧ BackedBy entry evidence identity := by
  have taken : item ∈ firstHits entry.matchers evidence := mem_firstHits.mpr ⟨hmem, hit⟩
  obtain ⟨identity, built, name, category, confidence, plain, collected⟩ :=
    ServiceIdentity.new_eq_ok entry.name entry.category entry.confidence taken (observed_of_hits hit)
  have ordered := firstHits_pairwise entry.matchers evidence
  have backed : ∀ version, (∀ found, version = some found → ∃ pattern ∈ entry.versionCapture,
      extractVersion pattern (firstHits entry.matchers evidence) = some found) →
      BackedBy entry evidence { identity with version := version } := by
    intro version hversion
    refine ⟨name, category, confidence, ?_, ?_, ?_, ?_⟩
    · simp only [collected, mem_firstHits, CompiledFingerprint.hits, implies_true]
    · rw [collected]
      exact ordered.imp fun before => ne_of_apply_ne (hitRank entry.matchers evidence) before.ne
    · rwa [collected]
    · intro found hfound
      obtain ⟨pattern, hpattern, extracted⟩ := hversion found hfound
      rw [collected]
      exact ⟨pattern, hpattern, extractVersion_eq_some extracted⟩
  rw [tryMatch_eq, if_neg (by simpa using List.ne_nil_of_mem taken), built]
  cases extracted : entry.versionCapture.bind fun pattern => extractVersion pattern (firstHits entry.matchers evidence) with
  | none =>
    have same : { identity with version := none } = identity := by rw [← plain]
    exact ⟨identity, rfl, same ▸ backed none nofun⟩
  | some version =>
    obtain ⟨pattern, hpattern, found⟩ := Option.bind_eq_some_iff.mp extracted
    refine ⟨identity.withVersion version, rfl, backed (some version) ?_⟩
    rintro _ ⟨⟩
    exact ⟨pattern, hpattern, found⟩

theorem tryMatch_eq_none (missed : ∀ item ∈ evidence, entry.hits item = false) : entry.tryMatch evidence = none := by
  have empty : firstHits entry.matchers evidence = [] := firstHits_eq_nil.mpr missed
  rw [tryMatch_eq, empty]
  rfl

theorem backedBy_of_tryMatch {identity : ServiceIdentity} (hidentity : entry.tryMatch evidence = some identity) :
    BackedBy entry evidence identity := by
  by_cases found : ∃ item ∈ evidence, entry.hits item = true
  · obtain ⟨item, hitem, hit⟩ := found
    obtain ⟨other, hother, backed⟩ := tryMatch_eq_some hitem hit
    rwa [Option.some.inj (hother.symm.trans hidentity)] at backed
  · have missed : ∀ item ∈ evidence, entry.hits item = false := by simpa using found
    rw [tryMatch_eq_none missed] at hidentity
    cases hidentity

/-- Each service that is identified is backed by the entry that names it. -/
theorem mem_fingerprint {catalogue : List CompiledFingerprint} {identity : ServiceIdentity}
    (h : identity ∈ fingerprint catalogue evidence) : ∃ entry ∈ catalogue, BackedBy entry evidence identity := by
  obtain ⟨entry, hentry, hidentity⟩ := List.mem_filterMap.mp h
  exact ⟨entry, hentry, backedBy_of_tryMatch hidentity⟩

theorem tryMatch_backed (entry : CompiledFingerprint) (evidence : List Evidence) :
    ((∃ identity, entry.tryMatch evidence = some identity) ↔
      ∃ hit ∈ entry.matchers, ∃ item ∈ evidence, hit item = true) ∧
    (∀ identity, entry.tryMatch evidence = some identity → BackedBy entry evidence identity) ∧
    ∀ evidence' : List Evidence, evidence'.filter entry.hits = evidence.filter entry.hits →
      entry.tryMatch evidence' = entry.tryMatch evidence := by
  refine ⟨⟨?_, ?_⟩, fun _ => backedBy_of_tryMatch, ?_⟩
  · rintro ⟨identity, hidentity⟩
    by_contra none
    have missed : ∀ item ∈ evidence, entry.hits item = false := by
      intro item hitem
      refine List.any_eq_false.mpr fun hit hmatcher found => none ⟨hit, hmatcher, item, hitem, found⟩
    rw [tryMatch_eq_none missed] at hidentity
    cases hidentity
  · rintro ⟨hit, hmatcher, item, hitem, found⟩
    obtain ⟨identity, hidentity, -⟩ := tryMatch_eq_some hitem (List.any_eq_true.mpr ⟨hit, hmatcher, found⟩)
    exact ⟨identity, hidentity⟩
  · intro evidence' same
    rw [tryMatch_eq, tryMatch_eq, firstHits_congr same]

end

end AnneDeBreuil
