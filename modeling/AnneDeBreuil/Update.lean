import AnneDeBreuil.Checksum
import AnneDeBreuil.DiffCommand
import AnneDeBreuil.ExeReplace

namespace AnneDeBreuil

structure UpdateArgs where
  yes : Bool
  check : Bool
  version : Option String
deriving DecidableEq, Repr

structure ReleaseAsset where
  name : String
  downloadUrl : String
deriving DecidableEq, Repr

structure ReleaseInfo where
  tagName : String
  assets : List ReleaseAsset
deriving DecidableEq, Repr

/-- Where releases come from, with the texts of its failures. -/
structure ReleaseSource where
  release : Option String → Except String ReleaseInfo
  downloadAsset : String → Except String (List UInt8)

/-- The standard input, and the line that is read from it. -/
structure Stdin where
  isTerminal : Bool
  readLine : Except String String

/-- What an update fails with, by the contexts that it gives. -/
inductive UpdateError
  | fetchingRelease (source : String)
  | parsingReleaseTag (tagName : String)
  | parsingPackageVersion
  | readingConfirmation (source : String)
  | noAsset (tagName assetName : String)
  | downloadingUpdate (source : String)
  | downloadingSums (source : String)
  | sumsNotUtf8
  | noEntry (assetName : String)
  | replacing (source : ReplaceError)
deriving DecidableEq, Repr

inductive Confirmation
  | proceed
  | aborted
  | nonInteractiveWithoutYes
deriving DecidableEq, Repr

/-- Of the letters of the two answers only the ASCII capitals have these as their
lower case. -/
def decideConfirmation (yes isTerminal : Bool) (answer : Option String) : Confirmation :=
  if yes then .proceed
  else if !isTerminal then .nonInteractiveWithoutYes
  else
    match answer.map fun answer => toAsciiLowercase (trim answer) with
    | some "y" | some "yes" => .proceed
    | _ => .aborted

def confirm (args : UpdateArgs) (stdin : Stdin) : Except UpdateError Confirmation :=
  if args.yes then .ok .proceed
  else if !stdin.isTerminal then .ok .nonInteractiveWithoutYes
  else do
    let answer ← stdin.readLine.mapError .readingConfirmation
    .ok (decideConfirmation false true (some answer))

def targetAssetName (os arch : String) : Except String String :=
  match os, arch with
  | "windows", "x86_64" => .ok "anne-x86_64-pc-windows-msvc.exe"
  | "windows", "aarch64" => .ok "anne-x86_64-pc-windows-msvc.exe"
  | "linux", "x86_64" => .ok "anne-x86_64-unknown-linux-musl"
  | "linux", "aarch64" => .ok "anne-aarch64-unknown-linux-musl"
  | os, arch => .error ("no release artifact is published for " ++ os ++ "/" ++ arch ++
      "; build from source instead (see README.md)")

/-- The loop over the lines of `SHA256SUMS.txt`. -/
def digestInLines (assetName : String) : List (List Char) → Except UpdateError String
  | [] => .error (.noEntry assetName)
  | line :: rest =>
    match splitOnceText [' ', ' '] line with
    | some (digest, name) =>
      if name = assetName.toList then .ok (String.ofList digest) else digestInLines assetName rest
    | none => digestInLines assetName rest

def expectedDigestFor (sumsText assetName : String) : Except UpdateError String :=
  digestInLines assetName (lines sumsText.toList)

/-- What is left to do after the questions are asked and the downloads compared. -/
inductive UpdateStep
  | exit (code : ExitCode)
  | replace (bytes : List UInt8)
deriving DecidableEq, Repr

section

variable {Version : Type} [LE Version] [DecidableLE Version]
  (parseVersion : String → Option Version) (sha256 : List UInt8 → Digest)

/-- `binary_hash::hash_bytes`, which is written as `sha256_hex` is. -/
def hashBytes (bytes : List UInt8) : String := sha256Hex sha256 bytes

def parseReleaseVersion (tagName : String) : Except UpdateError Version :=
  let stripped := ((stripPrefix ['v'] tagName.toList).map String.ofList).getD tagName
  match parseVersion stripped with
  | some version => .ok version
  | none => .error (.parsingReleaseTag tagName)

def currentVersion (pkgVersion : String) : Except UpdateError Version :=
  match parseVersion pkgVersion with
  | some version => .ok version
  | none => .error .parsingPackageVersion

def findAsset (release : ReleaseInfo) (name : String) : Except UpdateError ReleaseAsset :=
  match release.assets.find? fun asset => asset.name = name with
  | some asset => .ok asset
  | none => .error (.noAsset release.tagName name)

/-- `String::from_utf8` with its context. -/
def sumsFromUtf8 (bytes : List UInt8) : Except UpdateError String :=
  match fromUtf8 bytes with
  | some text => .ok text
  | none => .error .sumsNotUtf8

/-- The downloads of `run_with_source`, and the comparison of their digests. -/
def downloadVerified (source : ReleaseSource) (release : ReleaseInfo) (assetName : String) :
    Except UpdateError UpdateStep := do
  let asset ← findAsset release assetName
  let sumsAsset ← findAsset release "SHA256SUMS.txt"
  let bytes ← (source.downloadAsset asset.downloadUrl).mapError .downloadingUpdate
  let sumsBytes ← (source.downloadAsset sumsAsset.downloadUrl).mapError .downloadingSums
  let sumsText ← sumsFromUtf8 sumsBytes
  let expectedDigest ← expectedDigestFor sumsText assetName
  if hashBytes sha256 bytes ≠ expectedDigest then .ok (.exit .operationalError)
  else .ok (.replace bytes)

/-- `run_with_source` up to the replacement. -/
def planUpdate (pkgVersion : String) (source : ReleaseSource) (args : UpdateArgs) (stdin : Stdin) (os arch : String) :
    Except UpdateError UpdateStep := do
  let requestedTag := args.version.map fun v => if v.toList.head? = some 'v' then v else "v" ++ v
  let release ← (source.release requestedTag).mapError .fetchingRelease
  let current ← currentVersion parseVersion pkgVersion
  let target ← parseReleaseVersion parseVersion release.tagName
  if args.check then .ok (.exit .clean)
  else if target ≤ current ∧ args.version = none then .ok (.exit .clean)
  else
    match targetAssetName os arch with
    | .error _ => .ok (.exit .operationalError)
    | .ok assetName =>
      match ← confirm args stdin with
      | .nonInteractiveWithoutYes => .ok (.exit .configOrArgError)
      | .aborted => .ok (.exit .clean)
      | .proceed => downloadVerified sha256 source release assetName

/-- `run_with_source`. -/
def runWithSource (platform : Target) (faults : ReplaceFaults) (pkgVersion : String) (source : ReleaseSource)
    (args : UpdateArgs) (stdin : Stdin) (targetExe : FilePath) (os arch : String) (fs : FileSystem) :
    Except UpdateError ExitCode × FileSystem :=
  match planUpdate parseVersion sha256 pkgVersion source args stdin os arch with
  | .error error => (.error error, fs)
  | .ok (.exit code) => (.ok code, fs)
  | .ok (.replace bytes) =>
    match replaceRunningExecutable platform faults targetExe bytes fs with
    | (.error error, fs) => (.error (.replacing error), fs)
    | (.ok (), fs) => (.ok .clean, fs)

end

/-- The digest of a name is that of its own line, if the names are distinct. -/
theorem digestInLines_eq_ok_iff {entries : List (String × String)} (legible : ∀ entry ∈ entries, LegibleEntry entry)
    (distinct : (entries.map Prod.snd).Nodup) (digest name : String) :
    digestInLines name (entries.map fun entry => (entryLine entry).toList) = .ok digest ↔ (digest, name) ∈ entries := by
  induction entries with
  | nil => exact iff_of_false nofun (by simp)
  | cons entry entries ih =>
    rw [List.map_cons, List.nodup_cons] at distinct
    have rest := ih (fun other hother => legible other (List.mem_cons_of_mem _ hother)) distinct.2
    simp only [List.map_cons, digestInLines, splitOnceText_entryLine (legible _ List.mem_cons_self).digest]
    by_cases same : entry.2 = name
    · have once : (digest, name) ∉ entries := fun hmem => distinct.1 (same ▸ List.mem_map_of_mem hmem)
      simp only [same, if_true, String.ofList_toList, Except.ok.injEq, List.mem_cons, once, or_false, Prod.ext_iff, and_true]
      exact eq_comm
    · rw [if_neg fun h => same (String.toList_inj.mp h), rest, List.mem_cons]
      exact (or_iff_right fun h => same (congrArg Prod.snd h).symm).symm

theorem digestInLines_unlisted {entries : List (String × String)} (legible : ∀ entry ∈ entries, LegibleEntry entry)
    {name : String} (unlisted : name ∉ entries.map Prod.snd) :
    digestInLines name (entries.map fun entry => (entryLine entry).toList) = .error (.noEntry name) := by
  induction entries with
  | nil => rfl
  | cons entry entries ih =>
    rw [List.map_cons, List.mem_cons, not_or] at unlisted
    simp only [List.map_cons, digestInLines, splitOnceText_entryLine (legible _ List.mem_cons_self).digest]
    rw [if_neg fun h => unlisted.1 (String.toList_inj.mp h).symm]
    exact ih (fun other hother => legible other (List.mem_cons_of_mem _ hother)) unlisted.2

section

variable {sha256 : List UInt8 → Digest}

/-- The bytes of the platform's asset, with their digest as it is listed for its name. -/
structure ListedBytes (sha256 : List UInt8 → Digest) (source : ReleaseSource) (os arch assetName sumsText : String)
    (bytes : List UInt8) : Prop where
  chosen : targetAssetName os arch = .ok assetName
  released : ∃ (tag : Option String) (release : ReleaseInfo), source.release tag = .ok release ∧
    (∃ asset ∈ release.assets, asset.name = assetName ∧ source.downloadAsset asset.downloadUrl = .ok bytes) ∧
    ∃ asset ∈ release.assets, asset.name = "SHA256SUMS.txt" ∧
      source.downloadAsset asset.downloadUrl = .ok (utf8 sumsText)
  listed : expectedDigestFor sumsText assetName = .ok (hashBytes sha256 bytes)
  line : ∃ line ∈ lines sumsText.toList,
    splitOnceText [' ', ' '] line = some ((hashBytes sha256 bytes).toList, assetName.toList)

/-- What is found is in a line for the exact name. -/
theorem digestInLines_eq_ok {assetName digest : String} {ls : List (List Char)}
    (h : digestInLines assetName ls = .ok digest) :
    ∃ line ∈ ls, splitOnceText [' ', ' '] line = some (digest.toList, assetName.toList) := by
  induction ls with
  | nil => cases h
  | cons line rest ih =>
    have later : digestInLines assetName rest = .ok digest →
        ∃ found ∈ line :: rest, splitOnceText [' ', ' '] found = some (digest.toList, assetName.toList) := by
      intro hrest
      obtain ⟨found, hfound, hsplit⟩ := ih hrest
      exact ⟨found, List.mem_cons_of_mem _ hfound, hsplit⟩
    rw [digestInLines] at h
    split at h
    next found name hsplit =>
      split at h
      next same =>
        cases h
        exact ⟨line, List.mem_cons_self, by rw [hsplit, same, String.toList_ofList]⟩
      next => exact later h
    next => exact later h

theorem findAsset_eq_ok {release : ReleaseInfo} {name : String} {asset : ReleaseAsset}
    (h : findAsset release name = .ok asset) : asset ∈ release.assets ∧ asset.name = name := by
  rw [findAsset] at h
  split at h
  next found =>
    cases h
    exact ⟨List.mem_of_find?_eq_some found, by simpa using List.find?_some found⟩
  next => cases h

theorem mapError_eq_ok {ε ε' α : Type} {x : Except ε α} {f : ε → ε'} {a : α} (h : x.mapError f = .ok a) : x = .ok a := by
  cases x with
  | error e => cases h
  | ok b =>
    cases h
    rfl

theorem downloadVerified_replace {source : ReleaseSource} {release : ReleaseInfo} {assetName : String}
    {bytes : List UInt8} (h : downloadVerified sha256 source release assetName = .ok (.replace bytes)) :
    ∃ sumsText, (∃ asset ∈ release.assets, asset.name = assetName ∧ source.downloadAsset asset.downloadUrl = .ok bytes) ∧
      (∃ asset ∈ release.assets, asset.name = "SHA256SUMS.txt" ∧
        source.downloadAsset asset.downloadUrl = .ok (utf8 sumsText)) ∧
      expectedDigestFor sumsText assetName = .ok (hashBytes sha256 bytes) := by
  obtain ⟨asset, hasset, h⟩ := bind_eq_ok h
  obtain ⟨sumsAsset, hsumsAsset, h⟩ := bind_eq_ok h
  obtain ⟨downloaded, hbytes, h⟩ := bind_eq_ok h
  obtain ⟨sumsBytes, hsums, h⟩ := bind_eq_ok h
  obtain ⟨sumsText, htext, h⟩ := bind_eq_ok h
  obtain ⟨expectedDigest, hexpected, h⟩ := bind_eq_ok h
  split at h
  next => cases h
  next same =>
    cases h
    rw [not_not] at same
    obtain ⟨asset_mem, asset_name⟩ := findAsset_eq_ok hasset
    obtain ⟨sums_mem, sums_name⟩ := findAsset_eq_ok hsumsAsset
    have text : utf8 sumsText = sumsBytes := by
      rw [sumsFromUtf8] at htext
      split at htext
      next decoded =>
        cases htext
        exact utf8_of_fromUtf8 decoded
      next => cases htext
    exact ⟨sumsText, ⟨asset, asset_mem, asset_name, mapError_eq_ok hbytes⟩,
      ⟨sumsAsset, sums_mem, sums_name, text ▸ mapError_eq_ok hsums⟩, same ▸ hexpected⟩

variable {Version : Type} [LE Version] [DecidableLE Version] {parseVersion : String → Option Version}

/-- Only listed bytes are planned to replace the executable. -/
theorem planUpdate_replace {pkgVersion : String} {source : ReleaseSource} {args : UpdateArgs} {stdin : Stdin}
    {os arch : String} {bytes : List UInt8}
    (h : planUpdate parseVersion sha256 pkgVersion source args stdin os arch = .ok (.replace bytes)) :
    ∃ assetName sumsText, ListedBytes sha256 source os arch assetName sumsText bytes := by
  obtain ⟨release, hrelease, h⟩ := bind_eq_ok h
  obtain ⟨current, -, h⟩ := bind_eq_ok h
  obtain ⟨target, -, h⟩ := bind_eq_ok h
  split at h
  next => cases h
  next =>
    split at h
    next => cases h
    next =>
      split at h
      next => cases h
      next assetName chosen =>
        obtain ⟨confirmation, -, h⟩ := bind_eq_ok h
        cases confirmation with
        | nonInteractiveWithoutYes => cases h
        | aborted => cases h
        | proceed =>
          obtain ⟨sumsText, asset, sums, listed⟩ := downloadVerified_replace h
          exact ⟨assetName, sumsText, chosen, ⟨_, release, mapError_eq_ok hrelease, asset, sums⟩, listed,
            digestInLines_eq_ok listed⟩

end

end AnneDeBreuil
