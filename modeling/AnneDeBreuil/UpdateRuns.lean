import AnneDeBreuil.ManifestRoundTrip
import AnneDeBreuil.Runs
import Mathlib.Order.Defs.LinearOrder

namespace AnneDeBreuil

/-- A tagged release: its artifacts, in one directory of the machine that built them. -/
structure ReleaseBuild where
  tagName : String
  disk : FileSystem
  dir : FilePath
  names : List String
  nonempty : names ≠ []
  distinct : names.Nodup
  plain : ∀ name ∈ names, '\n' ∉ name.toList ∧ '\r' ∉ name.toList
  present : ∀ name ∈ names, (disk.read (dir.join name)).isSome = true

structure ReleaseBuild.Artifact (build : ReleaseBuild) (name : String) (bytes : List UInt8) : Prop where
  named : name ∈ build.names
  stored : build.disk.read (build.dir.join name) = some bytes

/-- What `checksum write` leaves as the manifest of all the artifacts, named in any order. -/
def ReleaseBuild.Manifest (sha256 : List UInt8 → Digest) (build : ReleaseBuild) (bytes : List UInt8) : Prop :=
  ∃ (names : List String) (manifestPath : FilePath) (after : FileSystem), names.Perm build.names ∧
    writeManifest sha256 none (names.map build.dir.join) manifestPath build.disk = (.ok (), after) ∧
    after.read manifestPath = some bytes

/-- The releases of a source are among the builds, and what it has as the manifest of one is
that of the build. -/
def ReleaseSource.Released (sha256 : List UInt8 → Digest) (builds : List ReleaseBuild) (source : ReleaseSource) : Prop :=
  ∀ tag release, source.release tag = .ok release → ∃ build ∈ builds, build.tagName = release.tagName ∧
    ∀ asset ∈ release.assets, asset.name = "SHA256SUMS.txt" → ∀ bytes,
      source.downloadAsset asset.downloadUrl = .ok bytes → build.Manifest sha256 bytes

/-- No download has an artifact's digest but the artifact itself. -/
def ReleaseSource.Unforged (sha256 : List UInt8 → Digest) (builds : List ReleaseBuild) (source : ReleaseSource) : Prop :=
  ∀ build ∈ builds, ∀ name artifact, build.Artifact name artifact → ∀ url bytes,
    source.downloadAsset url = .ok bytes → sha256Hex sha256 bytes = sha256Hex sha256 artifact → bytes = artifact

/-- The temporary file of a replacement, beside its target. -/
def FilePath.updateTmp (target : FilePath) : Option FilePath := target.parent.map (FilePath.join · updateTmpName)

/-- A Unix machine with the executable on it; the version of an executable is compiled into it. -/
structure UpdateMachine where
  targetExe : FilePath
  os : String
  arch : String
  packageVersion : List UInt8 → String

/-- One `anne update`: what the user asks for, what is answered, and what fails on the disk. -/
structure UpdateCall where
  source : ReleaseSource
  args : UpdateArgs
  stdin : Stdin
  faults : ReplaceFaults

section

variable {Version : Type} [LinearOrder Version] (parseVersion : String → Option Version) (sha256 : List UInt8 → Digest)
  (machine : UpdateMachine)

/-- `update::run` of the executable that is installed. -/
def UpdateMachine.update (fs : FileSystem) (call : UpdateCall) : Option FileSystem :=
  (fs.read machine.targetExe).map fun exe =>
    (runWithSource parseVersion sha256 .other call.faults (machine.packageVersion exe) call.source call.args call.stdin
      machine.targetExe machine.os machine.arch fs).2

def UpdateMachine.installedVersion (fs : FileSystem) : Option Version :=
  (fs.read machine.targetExe).bind fun exe => parseVersion (machine.packageVersion exe)

/-- The executable is the same, or of a later version. -/
def UpdateMachine.Newer (before after : FileSystem) : Prop :=
  after.read machine.targetExe = before.read machine.targetExe ∨
    ∃ old new, machine.installedVersion parseVersion before = some old ∧
      machine.installedVersion parseVersion after = some new ∧ old < new

end

section

variable {sha256 : List UInt8 → Digest} {build : ReleaseBuild}

theorem ReleaseBuild.digest_isSome (build : ReleaseBuild) (sha256 : List UInt8 → Digest) :
    ∀ name ∈ build.names, (digestOf sha256 build.disk (build.dir.join name)).isSome = true := by
  intro name hname
  rw [digestOf, Option.isSome_map]
  exact build.present name hname

/-- The manifest is the sorted one, whatever the order was. -/
theorem ReleaseBuild.Manifest.eq {bytes : List UInt8} (h : build.Manifest sha256 bytes) :
    bytes = utf8 (manifestOf sha256 build.disk build.dir build.names) := by
  obtain ⟨names, manifestPath, after, same, written, held⟩ := h
  rw [writeManifest_eq (build.digest_isSome sha256) same manifestPath, Prod.mk.injEq] at written
  rw [← written.2, FileSystem.read_put_self] at held
  exact (Option.some.inj held).symm

/-- Bytes with a listed digest are the artifact that was released under the name. -/
theorem ReleaseBuild.artifact_of_listed {builds : List ReleaseBuild} {source : ReleaseSource} (hbuild : build ∈ builds)
    (unforged : source.Unforged sha256 builds) {sumsText name url : String} {bytes : List UInt8}
    (manifest : build.Manifest sha256 (utf8 sumsText)) (listed : expectedDigestFor sumsText name = .ok (hashBytes sha256 bytes))
    (downloaded : source.downloadAsset url = .ok bytes) : build.Artifact name bytes := by
  have text : sumsText = manifestOf sha256 build.disk build.dir build.names := utf8_injective manifest.eq
  rw [text, expectedDigestFor_eq_ok_iff build.nonempty build.distinct build.plain (build.digest_isSome sha256)] at listed
  obtain ⟨hname, digest⟩ := listed
  obtain ⟨artifact, stored, same⟩ := Option.map_eq_some_iff.mp digest
  have genuine : bytes = artifact := unforged build hbuild name artifact ⟨hname, stored⟩ url bytes downloaded same.symm
  exact ⟨hname, genuine ▸ stored⟩

variable {Version : Type} [LinearOrder Version] {parseVersion : String → Option Version}

/-- What stands behind a planned replacement. -/
theorem planUpdate_installs {pkgVersion : String} {source : ReleaseSource} {args : UpdateArgs} {stdin : Stdin}
    {os arch : String} {bytes : List UInt8}
    (h : planUpdate parseVersion sha256 pkgVersion source args stdin os arch = .ok (.replace bytes)) :
    ∃ tag release current target assetName, source.release tag = .ok release ∧ parseVersion pkgVersion = some current ∧
      parseReleaseVersion parseVersion release.tagName = .ok target ∧ (args.version = none → current < target) ∧
      targetAssetName os arch = .ok assetName ∧
      downloadVerified sha256 source release assetName = .ok (.replace bytes) := by
  obtain ⟨release, hrelease, h⟩ := bind_eq_ok h
  obtain ⟨current, hcurrent, h⟩ := bind_eq_ok h
  obtain ⟨target, htarget, h⟩ := bind_eq_ok h
  have parsed : parseVersion pkgVersion = some current := by
    rw [currentVersion] at hcurrent
    split at hcurrent
    next version hversion =>
      cases hcurrent
      exact hversion
    next => cases hcurrent
  split at h
  next => cases h
  next =>
    split at h
    next => cases h
    next later =>
      have forward : args.version = none → current < target := fun unasked => not_le.mp fun le => later ⟨le, unasked⟩
      split at h
      next => cases h
      next assetName chosen =>
        obtain ⟨confirmation, -, h⟩ := bind_eq_ok h
        cases confirmation with
        | nonInteractiveWithoutYes => cases h
        | aborted => cases h
        | proceed =>
          exact ⟨_, release, current, target, assetName, mapError_eq_ok hrelease, parsed, htarget, forward, chosen, h⟩

/-- A replacement on Unix leaves alone what is neither the target nor its temporary file. -/
theorem read_replaceOnUnix_of_ne (faults : ReplaceFaults) (target : FilePath) (newBytes : List UInt8) (fs : FileSystem)
    {path : FilePath} (other : path ≠ target) (lasting : target.updateTmp ≠ some path) :
    (replaceOnUnix faults target newBytes fs).2.read path = fs.read path := by
  cases hparent : target.parent with
  | none => simp only [replaceOnUnix, hparent]
  | some dir =>
    have tmp : path ≠ dir.join updateTmpName := by
      rintro rfl
      exact lasting (by rw [FilePath.updateTmp, hparent, Option.map_some])
    have written := fs.read_writeFile_of_ne tmp faults.write newBytes
    simp only [replaceOnUnix, hparent]
    split
    next fs₁ hwrite => rwa [hwrite] at written
    next fs₁ hwrite =>
      rw [hwrite] at written
      have kept := fs₁.read_setPermissions faults.setPermissions (dir.join updateTmpName)
        ((fs₁.metadataMode faults.metadata target).getD 0o755 ||| 0o111) path
      split
      next fs₂ hpermissions =>
        rw [hpermissions] at kept
        exact kept.trans written
      next fs₂ hpermissions =>
        rw [hpermissions] at kept
        have moved := fs₂.read_rename_of_ne tmp other faults.rename
        split
        next fs₃ hrename =>
          rw [hrename] at moved
          exact moved.trans (kept.trans written)
        next fs₃ hrename =>
          rw [hrename] at moved
          exact moved.trans (kept.trans written)

variable {machine : UpdateMachine} {builds : List ReleaseBuild} {call : UpdateCall} {fs after start t : FileSystem}
  {trace : List (FileSystem × UpdateCall)}

/-- An update keeps the executable, or puts an artifact of a release in its place. -/
theorem UpdateMachine.update_cases (named : machine.targetExe.getLast? ≠ some updateTmpName)
    (released : call.source.Released sha256 builds) (unforged : call.source.Unforged sha256 builds)
    (h : machine.update parseVersion sha256 fs call = some after) :
    after.read machine.targetExe = fs.read machine.targetExe ∨
      ∃ build ∈ builds, ∃ name bytes old new, targetAssetName machine.os machine.arch = .ok name ∧
        build.Artifact name bytes ∧ after.read machine.targetExe = some bytes ∧
        machine.installedVersion parseVersion fs = some old ∧ parseReleaseVersion parseVersion build.tagName = .ok new ∧
        (call.args.version = none → old < new) := by
  obtain ⟨exe, hexe, rfl⟩ := Option.map_eq_some_iff.mp h
  rw [runWithSource]
  split
  next => exact .inl rfl
  next => exact .inl rfl
  next bytes planned =>
    have answered : AllOrNothing machine.targetExe bytes fs _ :=
      (atomicReplace_iff .other machine.targetExe bytes fs).mpr (.inl named) call.faults
    split
    next hreplace =>
      rw [hreplace] at answered
      exact .inl answered
    next hreplace =>
      rw [hreplace] at answered
      obtain ⟨tag, release, current, target, name, hrelease, parsed, htarget, forward, chosen, verified⟩ :=
        planUpdate_installs planned
      obtain ⟨sumsText, ⟨asset, -, -, downloaded⟩, ⟨sums, hsums, sumsName, sumsBytes⟩, listed⟩ :=
        downloadVerified_replace verified
      obtain ⟨build, hbuild, hbuildTag, manifest⟩ := released tag release hrelease
      have artifact := build.artifact_of_listed hbuild unforged (manifest sums hsums sumsName _ sumsBytes) listed downloaded
      refine .inr ⟨build, hbuild, name, bytes, current, target, chosen, artifact, answered, ?_, hbuildTag ▸ htarget, forward⟩
      rw [UpdateMachine.installedVersion, hexe, Option.bind_some, parsed]

theorem UpdateMachine.read_update_of_ne (h : machine.update parseVersion sha256 fs call = some after) {path : FilePath}
    (other : path ≠ machine.targetExe) (lasting : machine.targetExe.updateTmp ≠ some path) :
    after.read path = fs.read path := by
  obtain ⟨exe, -, rfl⟩ := Option.map_eq_some_iff.mp h
  rw [runWithSource]
  split
  next => rfl
  next => rfl
  next bytes _ =>
    have kept := read_replaceOnUnix_of_ne call.faults machine.targetExe bytes fs other lasting
    split
    next hreplace =>
      have same : replaceOnUnix call.faults machine.targetExe bytes fs = _ := hreplace
      rwa [same] at kept
    next hreplace =>
      have same : replaceOnUnix call.faults machine.targetExe bytes fs = _ := hreplace
      rwa [same] at kept

/-- Whatever the updates were answered and whatever failed, the executable is the one at the
start or an artifact that was released for the platform, and no file was touched but it and the
temporary file beside it. -/
theorem updates_published (named : machine.targetExe.getLast? ≠ some updateTmpName)
    (run : Run (machine.update parseVersion sha256) start trace t)
    (released : ∀ p ∈ trace, p.2.source.Released sha256 builds ∧ p.2.source.Unforged sha256 builds) :
    (t.read machine.targetExe = start.read machine.targetExe ∨ ∃ build ∈ builds, ∃ name bytes,
      targetAssetName machine.os machine.arch = .ok name ∧ build.Artifact name bytes ∧
        t.read machine.targetExe = some bytes) ∧
    ∀ path, path ≠ machine.targetExe → machine.targetExe.updateTmp ≠ some path → t.read path = start.read path := by
  refine ⟨?_, fun path other lasting => ?_⟩
  · refine run.invariant (fun s => s.read machine.targetExe = start.read machine.targetExe ∨ ∃ build ∈ builds,
      ∃ name bytes, targetAssetName machine.os machine.arch = .ok name ∧ build.Artifact name bytes ∧
        s.read machine.targetExe = some bytes)
      (fun _ call => call.source.Released sha256 builds ∧ call.source.Unforged sha256 builds) (.inl rfl) ?_ released
    intro s call u held ok next
    obtain same | ⟨build, hbuild, name, bytes, -, -, chosen, artifact, stored, -⟩ :=
      UpdateMachine.update_cases named ok.1 ok.2 next
    · rwa [same]
    · exact .inr ⟨build, hbuild, name, bytes, chosen, artifact, stored⟩
  · exact run.always (fun s => s.read path = start.read path) rfl fun s call u held next =>
      (UpdateMachine.read_update_of_ne next other lasting).trans held

theorem UpdateMachine.Newer.trans {s : FileSystem} (h₁ : machine.Newer parseVersion fs s)
    (h₂ : machine.Newer parseVersion s after) : machine.Newer parseVersion fs after := by
  have same : ∀ {a b : FileSystem}, b.read machine.targetExe = a.read machine.targetExe →
      machine.installedVersion parseVersion b = machine.installedVersion parseVersion a := by
    intro a b hread
    rw [UpdateMachine.installedVersion, hread, UpdateMachine.installedVersion]
  rcases h₁ with kept₁ | ⟨old, mid, hold, hmid, less₁⟩
  · rcases h₂ with kept₂ | ⟨mid, new, hmid, hnew, less⟩
    · exact .inl (kept₂.trans kept₁)
    · exact .inr ⟨mid, new, (same kept₁).symm.trans hmid, hnew, less⟩
  · rcases h₂ with kept₂ | ⟨mid', new, hmid', hnew, less₂⟩
    · exact .inr ⟨old, mid, hold, (same kept₂).trans hmid, less₁⟩
    · cases Option.some.inj (hmid.symm.trans hmid')
      exact .inr ⟨old, new, hold, hnew, less₁.trans less₂⟩

/-- Updates that ask for no version never go back: the executable at the end is the one of any
moment before, or of a later version. -/
theorem updates_forward (named : machine.targetExe.getLast? ≠ some updateTmpName)
    (run : Run (machine.update parseVersion sha256) start trace t)
    (released : ∀ p ∈ trace, p.2.source.Released sha256 builds ∧ p.2.source.Unforged sha256 builds ∧ p.2.args.version = none)
    (tagged : ∀ build ∈ builds, ∀ name bytes version, build.Artifact name bytes →
      parseReleaseVersion parseVersion build.tagName = .ok version → parseVersion (machine.packageVersion bytes) = some version) :
    machine.Newer parseVersion start t ∧ ∀ p ∈ trace, machine.Newer parseVersion p.1 t := by
  refine run.trace_invariant (fun trace s => machine.Newer parseVersion start s ∧ ∀ p ∈ trace, machine.Newer parseVersion p.1 s)
    (fun _ call => call.source.Released sha256 builds ∧ call.source.Unforged sha256 builds ∧ call.args.version = none)
    ⟨.inl rfl, nofun⟩ ?_ released
  intro trace s call u older ok next
  have step : machine.Newer parseVersion s u := by
    obtain same | ⟨build, hbuild, name, bytes, old, new, -, artifact, stored, hold, hnew, forward⟩ :=
      UpdateMachine.update_cases named ok.1 ok.2.1 next
    · exact .inl same
    · refine .inr ⟨old, new, hold, ?_, forward ok.2.2⟩
      rw [UpdateMachine.installedVersion, stored, Option.bind_some, tagged build hbuild name bytes new artifact hnew]
  refine ⟨older.1.trans step, fun p hp => ?_⟩
  rcases List.mem_append.mp hp with earlier | last
  · exact (older.2 p earlier).trans step
  · obtain rfl := List.mem_singleton.mp last
    exact step

/-- The latest release of a source is the build, with the platform's artifact and the manifest. -/
structure ReleaseSource.Serves (sha256 : List UInt8 → Digest) (build : ReleaseBuild) (name : String) (bytes : List UInt8)
    (source : ReleaseSource) : Prop where
  artifact : build.Artifact name bytes
  latest : ∃ release, source.release none = .ok release ∧ release.tagName = build.tagName ∧
    (∃ asset, findAsset release name = .ok asset ∧ source.downloadAsset asset.downloadUrl = .ok bytes) ∧
    ∃ sums sumsBytes, findAsset release "SHA256SUMS.txt" = .ok sums ∧
      source.downloadAsset sums.downloadUrl = .ok sumsBytes ∧ build.Manifest sha256 sumsBytes

/-- An artifact passes the check against its own release's manifest. -/
theorem downloadVerified_artifact {source : ReleaseSource} {release : ReleaseInfo} {name : String} {bytes sumsBytes : List UInt8}
    {asset sums : ReleaseAsset} (artifact : build.Artifact name bytes) (hasset : findAsset release name = .ok asset)
    (hbytes : source.downloadAsset asset.downloadUrl = .ok bytes) (hsums : findAsset release "SHA256SUMS.txt" = .ok sums)
    (hsumsBytes : source.downloadAsset sums.downloadUrl = .ok sumsBytes) (manifest : build.Manifest sha256 sumsBytes) :
    downloadVerified sha256 source release name = .ok (.replace bytes) := by
  have digest : digestOf sha256 build.disk (build.dir.join name) = some (hashBytes sha256 bytes) := by
    rw [digestOf, artifact.stored]
    rfl
  have listed : expectedDigestFor (manifestOf sha256 build.disk build.dir build.names) name = .ok (hashBytes sha256 bytes) :=
    (expectedDigestFor_eq_ok_iff build.nonempty build.distinct build.plain (build.digest_isSome sha256) name _).mpr
      ⟨artifact.named, digest⟩
  simp only [downloadVerified, hasset, hsums, hbytes, hsumsBytes, manifest.eq, sumsFromUtf8, fromUtf8_utf8, Except.mapError,
    ok_bind, listed]
  rw [if_neg (not_not.mpr rfl)]

theorem or_and_self (mode bits : UInt32) : (mode ||| bits) &&& bits = bits := by
  apply UInt32.toBitVec_inj.mp
  ext i
  simp only [UInt32.toBitVec_and, UInt32.toBitVec_or, BitVec.getElem_and, BitVec.getElem_or]
  cases mode.toBitVec[i] <;> simp

def noFaults : ReplaceFaults := ⟨false, false, none, false, false⟩

/-- Where nothing fails the new file is in place, and everybody may execute it. -/
theorem replaceOnUnix_noFaults {target dir : FilePath} (hparent : target.parent = some dir) (newBytes : List UInt8)
    (fs : FileSystem) : ∃ after mode, replaceOnUnix noFaults target newBytes fs = (.ok (), after) ∧
      after.files target = some ⟨newBytes, mode⟩ ∧ mode &&& 0o111 = 0o111 := by
  simp only [replaceOnUnix, hparent, noFaults, FileSystem.writeFile, FileSystem.setPermissions, FileSystem.put,
    FileSystem.files_set_self, FileSystem.rename, Bool.false_eq_true, if_false]
  exact ⟨_, _, rfl, FileSystem.files_set_self _, or_and_self _ _⟩

/-- `anne update --yes`, where nothing fails on the disk. -/
def UpdateCall.unattended (source : ReleaseSource) : UpdateCall where
  source := source
  args := ⟨true, false, none⟩
  stdin := ⟨false, .error ""⟩
  faults := noFaults

theorem planUpdate_unattended {source : ReleaseSource} {name pkgVersion os arch : String} {bytes : List UInt8}
    {current target : Version} (serves : source.Serves sha256 build name bytes) (chosen : targetAssetName os arch = .ok name)
    (hcurrent : parseVersion pkgVersion = some current) (htarget : parseReleaseVersion parseVersion build.tagName = .ok target)
    (stdin : Stdin) :
    planUpdate parseVersion sha256 pkgVersion source ⟨true, false, none⟩ stdin os arch =
      .ok (if target ≤ current then .exit .clean else .replace bytes) := by
  obtain ⟨release, hrelease, tag, ⟨asset, hasset, hbytes⟩, sums, sumsBytes, hsums, hsumsBytes, manifest⟩ := serves.latest
  have verified := downloadVerified_artifact serves.artifact hasset hbytes hsums hsumsBytes manifest
  simp only [planUpdate, Option.map_none, hrelease, Except.mapError, ok_bind, currentVersion, hcurrent, tag, htarget,
    Bool.false_eq_true, if_false, and_true, chosen, confirm, if_true, verified]
  split
  · rfl
  · rfl

/-- An unattended update to a later release installs its artifact. -/
theorem update_unattended {source : ReleaseSource} {name : String} {bytes exe : List UInt8} {current target : Version}
    (serves : source.Serves sha256 build name bytes) (chosen : targetAssetName machine.os machine.arch = .ok name)
    (rooted : machine.targetExe ≠ []) (installed : fs.read machine.targetExe = some exe)
    (hcurrent : parseVersion (machine.packageVersion exe) = some current)
    (htarget : parseReleaseVersion parseVersion build.tagName = .ok target) (later : current < target) :
    ∃ after mode, machine.update parseVersion sha256 fs (.unattended source) = some after ∧
      after.files machine.targetExe = some ⟨bytes, mode⟩ ∧ mode &&& 0o111 = 0o111 := by
  have hparent : machine.targetExe.parent = some machine.targetExe.dropLast := by
    rw [FilePath.parent, if_neg rooted]
  obtain ⟨after, mode, replaced, stored, executable⟩ := replaceOnUnix_noFaults hparent bytes fs
  refine ⟨after, mode, ?_, stored, executable⟩
  rw [UpdateMachine.update, installed, Option.map_some, runWithSource, UpdateCall.unattended,
    planUpdate_unattended serves chosen hcurrent htarget, if_neg (not_le.mpr later)]
  simp only [replaceRunningExecutable, replaced]

/-- What is published is installed, and the executable that is installed then finds nothing to do. -/
theorem update_settles {source : ReleaseSource} {name : String} {bytes exe : List UInt8} {current target : Version}
    (serves : source.Serves sha256 build name bytes) (chosen : targetAssetName machine.os machine.arch = .ok name)
    (rooted : machine.targetExe ≠ []) (installed : fs.read machine.targetExe = some exe)
    (hcurrent : parseVersion (machine.packageVersion exe) = some current)
    (htarget : parseReleaseVersion parseVersion build.tagName = .ok target) (later : current < target)
    (tagged : parseVersion (machine.packageVersion bytes) = some target) :
    ∃ after mode, machine.update parseVersion sha256 fs (.unattended source) = some after ∧
      after.files machine.targetExe = some ⟨bytes, mode⟩ ∧ mode &&& 0o111 = 0o111 ∧
      machine.update parseVersion sha256 after (.unattended source) = some after := by
  obtain ⟨after, mode, updated, stored, executable⟩ :=
    update_unattended serves chosen rooted installed hcurrent htarget later
  have held : after.read machine.targetExe = some bytes := by
    rw [FileSystem.read, stored, Option.map_some]
  refine ⟨after, mode, updated, stored, executable, ?_⟩
  rw [UpdateMachine.update, held, Option.map_some, runWithSource, UpdateCall.unattended,
    planUpdate_unattended serves chosen tagged htarget, if_pos le_rfl]

end

/-- A release of one artifact. -/
def linuxBuild : ReleaseBuild where
  tagName := "v2"
  disk := ⟨fun path => if path = ["dist", "anne-x86_64-unknown-linux-musl"] then some ⟨[97, 98, 99], 0o755⟩ else none, 0o644⟩
  dir := ["dist"]
  names := ["anne-x86_64-unknown-linux-musl"]
  nonempty := by decide
  distinct := by decide
  plain := by decide
  present := by decide

def linuxSums : List UInt8 := utf8 (manifestOf tabledSha256 linuxBuild.disk linuxBuild.dir linuxBuild.names)

def linuxSource : ReleaseSource where
  release _ := .ok ⟨"v2", [⟨"anne-x86_64-unknown-linux-musl", "anne"⟩, ⟨"SHA256SUMS.txt", "sums"⟩]⟩
  downloadAsset url := if url = "anne" then .ok [97, 98, 99] else .ok linuxSums

def linuxMachine : UpdateMachine where
  targetExe := ["usr", "bin", "anne"]
  os := "linux"
  arch := "x86_64"
  packageVersion bytes := if bytes = [97, 98, 99] then "2" else "1"

/-- The disk with the first version on it. -/
def linuxDisk : FileSystem :=
  ⟨fun path => if path = ["usr", "bin", "anne"] then some ⟨[1], 0o755⟩ else none, 0o644⟩

def wholeVersion (text : String) : Option Nat := if text = "1" then some 1 else if text = "2" then some 2 else none

theorem linuxSums_manifest : linuxBuild.Manifest tabledSha256 linuxSums :=
  ⟨linuxBuild.names, ["dist", "SHA256SUMS.txt"], _, .refl _,
    writeManifest_eq (linuxBuild.digest_isSome tabledSha256) (.refl _) _, FileSystem.read_put_self _⟩

theorem linuxSource_serves :
    linuxSource.Serves tabledSha256 linuxBuild "anne-x86_64-unknown-linux-musl" [97, 98, 99] where
  artifact := ⟨by decide, by decide⟩
  latest := ⟨_, rfl, rfl, ⟨_, rfl, rfl⟩, _, linuxSums, rfl, rfl, linuxSums_manifest⟩

theorem linuxSource_released : linuxSource.Released tabledSha256 [linuxBuild] := by
  rintro tag release ⟨⟩
  refine ⟨linuxBuild, List.mem_singleton_self _, rfl, fun asset hasset name bytes downloaded => ?_⟩
  have second : asset = ⟨"SHA256SUMS.txt", "sums"⟩ := by
    rcases List.mem_cons.mp hasset with rfl | hlast
    · exact absurd name (by decide)
    · exact List.mem_singleton.mp hlast
  rw [second] at downloaded
  cases downloaded
  exact linuxSums_manifest

theorem linuxBuild_artifact {name : String} {artifact : List UInt8} (h : linuxBuild.Artifact name artifact) :
    artifact = [97, 98, 99] := by
  obtain rfl := List.mem_singleton.mp h.named
  exact (Option.some.inj h.stored).symm

theorem linuxSource_unforged : linuxSource.Unforged tabledSha256 [linuxBuild] := by
  intro build hbuild name artifact hartifact url bytes _ same
  obtain rfl := List.mem_singleton.mp hbuild
  obtain rfl := linuxBuild_artifact hartifact
  by_contra forged
  rw [sha256Hex, sha256Hex, tabledSha256, if_neg forged] at same
  revert same
  decide

theorem update_settles_linux : ∃ after mode,
    linuxMachine.update wholeVersion tabledSha256 linuxDisk (.unattended linuxSource) = some after ∧
      after.files ["usr", "bin", "anne"] = some ⟨[97, 98, 99], mode⟩ ∧ mode &&& 0o111 = 0o111 ∧
      linuxMachine.update wholeVersion tabledSha256 after (.unattended linuxSource) = some after :=
  update_settles linuxSource_serves rfl (by decide) rfl rfl rfl Nat.one_lt_two rfl

/-- The run of one update. -/
theorem linuxUpdate : ∃ t, Run (linuxMachine.update wholeVersion tabledSha256) linuxDisk
    [(linuxDisk, .unattended linuxSource)] t ∧ t.read ["usr", "bin", "anne"] = some [97, 98, 99] := by
  have updates : ∃ after mode, linuxMachine.update wholeVersion tabledSha256 linuxDisk (.unattended linuxSource) = some after ∧
      after.files ["usr", "bin", "anne"] = some ⟨[97, 98, 99], mode⟩ ∧ mode &&& 0o111 = 0o111 :=
    update_unattended linuxSource_serves rfl (by decide) rfl rfl rfl Nat.one_lt_two
  obtain ⟨t, mode, updated, stored, -⟩ := updates
  exact ⟨t, Run.refl.snoc updated, congrArg (Option.map StoredFile.contents) stored⟩

theorem updates_published_linux : ∃ t : FileSystem, t.read ["usr", "bin", "anne"] = some [97, 98, 99] ∧
    ((t.read ["usr", "bin", "anne"] = linuxDisk.read ["usr", "bin", "anne"] ∨ ∃ build ∈ [linuxBuild], ∃ name bytes,
      targetAssetName "linux" "x86_64" = .ok name ∧ build.Artifact name bytes ∧
        t.read ["usr", "bin", "anne"] = some bytes) ∧
    ∀ path, path ≠ ["usr", "bin", "anne"] → some ["usr", "bin", ".anne.update.tmp"] ≠ some path →
      t.read path = linuxDisk.read path) := by
  obtain ⟨t, run, installed⟩ := linuxUpdate
  refine ⟨t, installed, updates_published (by decide) run fun p hp => ?_⟩
  obtain rfl := List.mem_singleton.mp hp
  exact ⟨linuxSource_released, linuxSource_unforged⟩

theorem updates_forward_linux : ∃ t : FileSystem, t.read ["usr", "bin", "anne"] = some [97, 98, 99] ∧
    linuxMachine.Newer wholeVersion linuxDisk t := by
  obtain ⟨t, run, installed⟩ := linuxUpdate
  have tagged : ∀ build ∈ [linuxBuild], ∀ name bytes version, build.Artifact name bytes →
      parseReleaseVersion wholeVersion build.tagName = .ok version →
      wholeVersion (linuxMachine.packageVersion bytes) = some version := by
    intro build hbuild name bytes version artifact hversion
    obtain rfl := List.mem_singleton.mp hbuild
    obtain rfl := linuxBuild_artifact artifact
    cases hversion
    rfl
  refine ⟨t, installed, (updates_forward (by decide) run (fun p hp => ?_) tagged).1⟩
  obtain rfl := List.mem_singleton.mp hp
  exact ⟨linuxSource_released, linuxSource_unforged, rfl⟩

end AnneDeBreuil
