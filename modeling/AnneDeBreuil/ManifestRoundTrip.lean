import AnneDeBreuil.Update

namespace AnneDeBreuil

section

variable {sha256 : List UInt8 → Digest} {fs : FileSystem} {dir : FilePath} {names : List String}

/-- The text of the manifest of artifacts in one directory. -/
def manifestOf (sha256 : List UInt8 → Digest) (fs : FileSystem) (dir : FilePath) (names : List String) : String :=
  manifestContents ((names.map (entryOf sha256 fs dir)).map entryLine)

/-- The update looks up a name among the sorted lines that the release wrote. -/
theorem expectedDigestFor_manifestOf (nonempty : names ≠ [])
    (plain : ∀ name ∈ names, '\n' ∉ name.toList ∧ '\r' ∉ name.toList) (name : String) :
    expectedDigestFor (manifestOf sha256 fs dir names) name =
      digestInLines name ((sortByKey entryLine (names.map (entryOf sha256 fs dir))).map fun entry =>
        (entryLine entry).toList) := by
  have legible : ∀ entry ∈ names.map (entryOf sha256 fs dir), LegibleEntry entry := by
    intro entry hentry
    obtain ⟨name, hname, rfl⟩ := List.mem_map.mp hentry
    exact legible_entryOf (plain name hname)
  rw [expectedDigestFor, manifestOf, lines_manifestContents (by simpa using nonempty) legible]

theorem names_entryOf (names : List String) : (names.map (entryOf sha256 fs dir)).map Prod.snd = names := by
  rw [List.map_map]
  exact List.map_id names

/-- A listed name has the digest of its own artifact. -/
theorem expectedDigestFor_eq_ok_iff (nonempty : names ≠ []) (distinct : names.Nodup)
    (plain : ∀ name ∈ names, '\n' ∉ name.toList ∧ '\r' ∉ name.toList)
    (present : ∀ name ∈ names, (digestOf sha256 fs (dir.join name)).isSome = true) (name digest : String) :
    expectedDigestFor (manifestOf sha256 fs dir names) name = .ok digest ↔
      name ∈ names ∧ digestOf sha256 fs (dir.join name) = some digest := by
  have sorted := sortByKey_perm entryLine (names.map (entryOf sha256 fs dir))
  rw [expectedDigestFor_manifestOf nonempty plain, digestInLines_eq_ok_iff, mem_sortByKey, List.mem_map]
  · constructor
    · rintro ⟨other, hother, hentry⟩
      obtain ⟨found, hfound⟩ := Option.isSome_iff_exists.mp (present other hother)
      rw [entryOf, hfound] at hentry
      obtain ⟨rfl, rfl⟩ := Prod.mk.inj hentry
      exact ⟨hother, hfound⟩
    · rintro ⟨hname, hdigest⟩
      exact ⟨name, hname, by rw [entryOf, hdigest]; rfl⟩
  · intro entry hentry
    obtain ⟨other, hother, rfl⟩ := List.mem_map.mp (mem_sortByKey.mp hentry)
    exact legible_entryOf (plain other hother)
  · rw [(sorted.map Prod.snd).nodup_iff, names_entryOf]
    exact distinct

theorem expectedDigestFor_unlisted (nonempty : names ≠ [])
    (plain : ∀ name ∈ names, '\n' ∉ name.toList ∧ '\r' ∉ name.toList) {name : String} (unlisted : name ∉ names) :
    expectedDigestFor (manifestOf sha256 fs dir names) name = .error (.noEntry name) := by
  have sorted := sortByKey_perm entryLine (names.map (entryOf sha256 fs dir))
  rw [expectedDigestFor_manifestOf nonempty plain]
  refine digestInLines_unlisted (fun entry hentry => ?_) ?_
  · obtain ⟨other, hother, rfl⟩ := List.mem_map.mp (mem_sortByKey.mp hentry)
    exact legible_entryOf (plain other hother)
  · rwa [(sorted.map Prod.snd).mem_iff, names_entryOf]

end

/-- What `run_with_source` may do to the disk: nothing, or replace the executable
with bytes whose digest is listed for the name of the platform's asset. -/
def OnlyListedBytes (sha256 : List UInt8 → Digest) (platform : Target) (faults : ReplaceFaults) (source : ReleaseSource)
    (targetExe : FilePath) (os arch : String) (before after : FileSystem) : Prop :=
  after = before ∨ ∃ assetName sumsText bytes, ListedBytes sha256 source os arch assetName sumsText bytes ∧
    after = (replaceRunningExecutable platform faults targetExe bytes before).2

theorem runWithSource_onlyListedBytes {Version : Type} [LE Version] [DecidableLE Version]
    (parseVersion : String → Option Version) (sha256 : List UInt8 → Digest) (platform : Target) (faults : ReplaceFaults)
    (pkgVersion : String) (source : ReleaseSource) (args : UpdateArgs) (stdin : Stdin) (targetExe : FilePath)
    (os arch : String) (disk : FileSystem) :
    OnlyListedBytes sha256 platform faults source targetExe os arch disk
      (runWithSource parseVersion sha256 platform faults pkgVersion source args stdin targetExe os arch disk).2 := by
  rw [runWithSource]
  split
  next => exact .inl rfl
  next => exact .inl rfl
  next bytes planned =>
    obtain ⟨assetName, sumsText, listed⟩ := planUpdate_replace planned
    refine .inr ⟨assetName, sumsText, bytes, listed, ?_⟩
    split
    next hreplace => rw [hreplace]
    next hreplace => rw [hreplace]

/-- The manifest of a release is read back by its verification and by the update. -/
theorem manifest_roundTrip (sha256 : List UInt8 → Digest) (fs : FileSystem) (dir manifestPath : FilePath)
    (names : List String) (nonempty : names ≠ []) (distinct : names.Nodup)
    (plain : ∀ name ∈ names, '\n' ∉ name.toList ∧ '\r' ∉ name.toList)
    (present : ∀ name ∈ names, (digestOf sha256 fs (dir.join name)).isSome = true) :
    (∀ names' : List String, names'.Perm names → writeManifest sha256 none (names'.map dir.join) manifestPath fs =
      (.ok (), fs.put manifestPath (utf8 (manifestOf sha256 fs dir names)))) ∧
    (∀ later : FileSystem, later.read manifestPath = some (utf8 (manifestOf sha256 fs dir names)) →
      (verifyManifest sha256 later manifestPath dir = .ok () ↔
        ∀ name ∈ names, digestOf sha256 later (dir.join name) = digestOf sha256 fs (dir.join name))) ∧
    (∀ name digest, expectedDigestFor (manifestOf sha256 fs dir names) name = .ok digest ↔
      name ∈ names ∧ digestOf sha256 fs (dir.join name) = some digest) ∧
    (∀ name ∉ names, expectedDigestFor (manifestOf sha256 fs dir names) name = .error (.noEntry name)) ∧
    (∀ (source : ReleaseSource) (os arch assetName : String) (bytes : List UInt8),
      ListedBytes sha256 source os arch assetName (manifestOf sha256 fs dir names) bytes →
        assetName ∈ names ∧ digestOf sha256 fs (dir.join assetName) = some (hashBytes sha256 bytes)) ∧
    ∀ (Version : Type) [LE Version] [DecidableLE Version] (parseVersion : String → Option Version) (platform : Target)
      (faults : ReplaceFaults) (pkgVersion : String) (source : ReleaseSource) (args : UpdateArgs) (stdin : Stdin)
      (targetExe : FilePath) (os arch : String) (disk : FileSystem),
      OnlyListedBytes sha256 platform faults source targetExe os arch disk
        (runWithSource parseVersion sha256 platform faults pkgVersion source args stdin targetExe os arch disk).2 := by
  have looked := expectedDigestFor_eq_ok_iff nonempty distinct plain present
  refine ⟨fun _ same => writeManifest_eq present same manifestPath,
    fun _ held => verifyManifest_eq_ok_iff nonempty plain present held, looked,
    fun _ => expectedDigestFor_unlisted nonempty plain, fun _ _ _ _ _ listed => (looked _ _).mp listed.listed, ?_⟩
  exact fun _ _ _ parseVersion => runWithSource_onlyListedBytes parseVersion sha256

/-- The digests of no bytes and of `abc`. -/
def tabledSha256 (bytes : List UInt8) : Digest :=
  if bytes = [97, 98, 99] then
    ⟨[186, 120, 22, 191, 143, 1, 207, 234, 65, 65, 64, 222, 93, 174, 34, 35, 176, 3, 97, 163, 150, 23, 122, 156, 180, 16,
      255, 97, 242, 0, 21, 173], rfl⟩
  else
    ⟨[227, 176, 196, 66, 152, 252, 28, 20, 154, 251, 244, 200, 153, 111, 185, 36, 39, 174, 65, 228, 100, 155, 147, 76, 164,
      149, 153, 27, 120, 82, 184, 85], rfl⟩

/-- Two artifacts, one name the other's beginning. -/
def releaseDir : FileSystem where
  files path :=
    if path = ["release", "anne"] then some ⟨[], 0o644⟩
    else if path = ["release", "anne  b"] then some ⟨[97, 98, 99], 0o644⟩
    else none
  createMode := 0o644

theorem manifest_roundTrip_release :
    writeManifest tabledSha256 none [["release", "anne  b"], ["release", "anne"]] ["release", "SHA256SUMS.txt"] releaseDir =
      (.ok (), releaseDir.put ["release", "SHA256SUMS.txt"]
        (utf8 (manifestOf tabledSha256 releaseDir ["release"] ["anne", "anne  b"]))) ∧
    expectedDigestFor (manifestOf tabledSha256 releaseDir ["release"] ["anne", "anne  b"]) "anne  b" =
      .ok "ba7816bf8f01cfea414140de5dae2223b00361a396177a9cb410ff61f20015ad" := by
  have tripped := manifest_roundTrip tabledSha256 releaseDir ["release"] ["release", "SHA256SUMS.txt"] ["anne", "anne  b"]
    (by decide) (by decide) (by simp) (by decide)
  exact ⟨tripped.1 ["anne  b", "anne"] (List.Perm.swap _ _ []), (tripped.2.2.1 _ _).mpr ⟨by decide, by decide⟩⟩

end AnneDeBreuil
