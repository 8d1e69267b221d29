import AnneDeBreuil.Fingerprint
import AnneDeBreuil.Substring

namespace AnneDeBreuil

def requiredSecurityHeaders : List String :=
  ["strict-transport-security", "content-security-policy", "x-content-type-options", "x-frame-options", "referrer-policy"]

def versionDisclosureHeaders : List String := ["server", "x-powered-by", "x-aspnet-version"]

def redactedHeaders : List String := ["set-cookie", "authorization"]

/-- A `HeaderMap` has its names in lower case; a value that is not visible ASCII has
no text. -/
structure ProbeResponse where
  headers : List (String × Option String)
  body : String

def weakMaxAgeThresholdSeconds : Nat := 15768000

def hstsIsWeak (value : String) : Bool :=
  if !strContains (toAsciiLowercase value).toList "includesubdomains".toList then true
  else
    match (value.toList.splitOn ';').findSome? fun part => (trimChars part).dropPrefix? "max-age=".toList with
    | none => true
    | some maxAge =>
      match parseUnsigned UInt64.size (trimChars maxAge) with
      | some age => age < weakMaxAgeThresholdSeconds
      | none => false

def headerEvidence (name : String) (value : Option String) : List Evidence :=
  let lower := toAsciiLowercase name
  if redactedHeaders.contains lower then []
  else
    match value with
    | none => []
    | some text =>
      .httpHeader name text ::
        if versionDisclosureHeaders.contains lower then [.bannerMatch ("version-disclosure:" ++ lower ++ "=" ++ text)] else []

def missingEvidence (headers : List (String × Option String)) : List Evidence :=
  requiredSecurityHeaders.flatMap fun header =>
    if headers.any fun present => eqIgnoreAsciiCase present.1 header then []
    else [.bannerMatch ("missing-security-header:" ++ header)]

def weakHstsEvidence (headers : List (String × Option String)) : List Evidence :=
  match headers.find? fun header => header.1 == "strict-transport-security" with
  | some (_, some value) =>
    if hstsIsWeak value then [.bannerMatch "weak-security-header:strict-transport-security"] else []
  | _ => []

/-- What a response adds to the evidence. -/
def evidenceFromResponse (response : ProbeResponse) (evidence : List Evidence) : List Evidence :=
  evidence ++ response.headers.flatMap (fun header => headerEvidence header.1 header.2) ++
    missingEvidence response.headers ++ weakHstsEvidence response.headers ++
    if response.body = "" then [] else [.httpBodyPattern response.body]

theorem not_weak_headerEvidence (name : String) (value : Option String) :
    .bannerMatch "weak-security-header:strict-transport-security" ∉ headerEvidence name value := by
  intro h
  unfold headerEvidence at h
  dsimp only at h
  split at h
  next => cases h
  next =>
    cases value with
    | none => cases h
    | some text =>
      simp only [List.mem_cons, reduceCtorEq, false_or] at h
      split at h
      next =>
        have same := Evidence.bannerMatch.inj (List.mem_singleton.mp h)
        have chars := congrArg String.toList same
        simp at chars
      next => cases h

theorem not_weak_missingEvidence (headers : List (String × Option String)) :
    .bannerMatch "weak-security-header:strict-transport-security" ∉ missingEvidence headers := by
  intro h
  obtain ⟨header, -, h⟩ := List.mem_flatMap.mp h
  split at h
  next => cases h
  next =>
    have same := Evidence.bannerMatch.inj (List.mem_singleton.mp h)
    have chars := congrArg String.toList same
    simp at chars

/-- The finding is made of the first such header, if that has a text which is weak. -/
theorem weakHsts_mem_evidence (response : ProbeResponse) :
    .bannerMatch "weak-security-header:strict-transport-security" ∈ evidenceFromResponse response [] ↔
      ∃ name value, response.headers.find? (fun header => header.1 == "strict-transport-security") = some (name, some value) ∧
        hstsIsWeak value = true := by
  have named : .bannerMatch "weak-security-header:strict-transport-security" ∉
      response.headers.flatMap (fun header => headerEvidence header.1 header.2) := by
    intro h
    obtain ⟨header, -, h⟩ := List.mem_flatMap.mp h
    exact not_weak_headerEvidence _ _ h
  have body : .bannerMatch "weak-security-header:strict-transport-security" ∉
      if response.body = "" then [] else [Evidence.httpBodyPattern response.body] := by
    split
    next => exact List.not_mem_nil
    next => simp
  rw [evidenceFromResponse, List.nil_append]
  simp only [List.mem_append, named, not_weak_missingEvidence, body, false_or, or_false, weakHstsEvidence]
  cases response.headers.find? fun header => header.1 == "strict-transport-security" with
  | none => simp
  | some header =>
    obtain ⟨name, value⟩ := header
    cases value with
    | none => simp
    | some value => cases hweak : hstsIsWeak value <;> simp [hweak]

end AnneDeBreuil
