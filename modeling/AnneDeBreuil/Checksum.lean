import AnneDeBreuil.FileSystem
import AnneDeBreuil.PortalAuth
import AnneDeBreuil.SortByKey
import AnneDeBreuil.UuidText

namespace AnneDeBreuil

/-- `str::split_once` at a text: what stands before and behind its first occurrence. -/
def splitOnceText (separator : List Char) : List Char → Option (List Char × List Char)
  | [] => if separator = [] then some ([], []) else none
  | c :: cs =>
    if separator.isPrefixOf (c :: cs) then some ([], (c :: cs).drop separator.length)
    else (splitOnceText separator cs).map fun (before, after) => (c :: before, after)

/-- What the checksum command fails with, by the contexts that it gives. -/
inductive ChecksumError
  | reading (path : FilePath)
  | noFileName (path : FilePath)
  | writing (path : FilePath)
  | malformedLine (line : String)
  | rehashing (path : FilePath)
  | mismatch (name expected actual : String)
deriving DecidableEq, Repr

section

variable (sha256 : List UInt8 → Digest)

/-- The two lower case digits of each byte. -/
def sha256Hex (bytes : List UInt8) : String :=
  String.ofList ((sha256 bytes).val.flatMap fun byte => [hexDigit (byte.toNat / 16), hexDigit (byte.toNat % 16)])

def checksumLine (fs : FileSystem) (path : FilePath) : Except ChecksumError String :=
  match fs.read path with
  | none => .error (.reading path)
  | some bytes =>
    match path.getLast? with
    | none => .error (.noFileName path)
    | some name => .ok (sha256Hex sha256 bytes ++ "  " ++ name)

/-- The sorted lines, each with its line feed. -/
def manifestContents (lines : List String) : String :=
  String.ofList (['\n'].intercalate ((sortByKey id lines).map String.toList)) ++ "\n"

def writeManifest (fault : Option WriteFault) (paths : List FilePath) (manifestPath : FilePath) (fs : FileSystem) :
    Except ChecksumError Unit × FileSystem :=
  match paths.mapM (checksumLine sha256 fs) with
  | .error error => (.error error, fs)
  | .ok lines =>
    match fs.writeFile fault manifestPath (utf8 (manifestContents lines)) with
    | (false, fs) => (.error (.writing manifestPath), fs)
    | (true, fs) => (.ok (), fs)

/-- The loop over the lines of a manifest. -/
def verifyLines (fs : FileSystem) (artifactDir : FilePath) : List (List Char) → Except ChecksumError Unit
  | [] => .ok ()
  | line :: rest =>
    match splitOnceText [' ', ' '] line with
    | none => .error (.malformedLine (String.ofList line))
    | some (expectedDigest, name) => do
      let artifactPath := artifactDir.join (String.ofList name)
      let actualLine ← checksumLine sha256 fs artifactPath
      match splitOnceText [' ', ' '] actualLine.toList with
      | none => .error (.rehashing artifactPath)
      | some (actualDigest, _) =>
        if actualDigest = expectedDigest then verifyLines fs artifactDir rest
        else .error (.mismatch (String.ofList name) (String.ofList expectedDigest) (String.ofList actualDigest))

def verifyManifest (fs : FileSystem) (manifestPath artifactDir : FilePath) : Except ChecksumError Unit :=
  match (fs.read manifestPath).bind fromUtf8 with
  | none => .error (.reading manifestPath)
  | some manifest => verifyLines sha256 fs artifactDir (lines manifest.toList)

/-- The digest of the file at a path. -/
def digestOf (fs : FileSystem) (path : FilePath) : Option String := (fs.read path).map (sha256Hex sha256)

end

/-- An artifact's digest and name, as its line. -/
def entryLine (entry : String × String) : String := entry.1 ++ "  " ++ entry.2

/-- An entry whose line can be read back. -/
structure LegibleEntry (entry : String × String) : Prop where
  digest : ∀ c ∈ entry.1.toList, isWhitespace c = false
  name : '\n' ∉ entry.2.toList ∧ '\r' ∉ entry.2.toList

/-- A text without blanks in front of two blanks is what they are split behind. -/
theorem splitOnceText_blanks {before : List Char} (h : ∀ c ∈ before, isWhitespace c = false) (after : List Char) :
    splitOnceText [' ', ' '] (before ++ ' ' :: ' ' :: after) = some (before, after) := by
  induction before with
  | nil => rfl
  | cons c before ih =>
    have visible : c ≠ ' ' := by
      rintro rfl
      have blank := h ' ' List.mem_cons_self
      revert blank
      decide
    rw [List.cons_append, splitOnceText, if_neg (by simp [visible.symm]), ih fun d hd => h d (List.mem_cons_of_mem _ hd)]
    rfl

theorem splitOnceText_entryLine {entry : String × String} (h : ∀ c ∈ entry.1.toList, isWhitespace c = false) :
    splitOnceText [' ', ' '] (entryLine entry).toList = some (entry.1.toList, entry.2.toList) := by
  rw [← splitOnceText_blanks h entry.2.toList]
  simp [entryLine]

theorem intercalate_concat_nil {α : Type} (x : α) {ls : List (List α)} (nonempty : ls ≠ []) :
    [x].intercalate (ls ++ [[]]) = [x].intercalate ls ++ [x] := by
  induction ls with
  | nil => exact absurd rfl nonempty
  | cons l ls ih =>
    cases ls with
    | nil => simp [List.intercalate]
    | cons l' ls =>
      have rest := ih (List.cons_ne_nil l' ls)
      rw [List.cons_append, List.cons_append, List.intercalate_cons_cons, ← List.cons_append, rest,
        List.intercalate_cons_cons]
      simp only [List.append_assoc]

/-- Lines that each have a line feed behind them. -/
theorem lines_intercalate {ls : List (List Char)} (nonempty : ls ≠ []) (unbroken : ∀ l ∈ ls, '\n' ∉ l ∧ '\r' ∉ l) :
    lines (['\n'].intercalate ls ++ ['\n']) = ls := by
  have apart : ∀ l ∈ ls ++ [[]], '\n' ∉ l := by
    intro l hl
    rcases List.mem_append.mp hl with hl | hl
    · exact (unbroken l hl).1
    · simp [List.mem_singleton.mp hl]
  have whole : ∀ l ∈ ls, stripCarriageReturn l = l := by
    intro l hl
    rw [stripCarriageReturn]
    split
    next hlast => exact absurd (List.mem_of_getLast? hlast) (unbroken l hl).2
    next => rfl
  rw [← intercalate_concat_nil _ nonempty, lines, List.splitOn_intercalate '\n' apart (by simp)]
  simp [List.map_congr_left whole]

theorem entryLine_unbroken {entry : String × String} (h : LegibleEntry entry) :
    '\n' ∉ (entryLine entry).toList ∧ '\r' ∉ (entryLine entry).toList := by
  have digest : ∀ c, isWhitespace c = true → c ∉ entry.1.toList := by
    intro c blank hc
    rw [h.digest c hc] at blank
    cases blank
  simp [entryLine, digest '\n' (by decide), digest '\r' (by decide), h.name]

theorem lines_manifestContents {entries : List (String × String)} (nonempty : entries ≠ [])
    (legible : ∀ entry ∈ entries, LegibleEntry entry) :
    lines (manifestContents (entries.map entryLine)).toList =
      (sortByKey entryLine entries).map fun entry => (entryLine entry).toList := by
  have sorted : sortByKey id (entries.map entryLine) = (sortByKey entryLine entries).map entryLine :=
    (sortByKey_map id entryLine entries).symm
  have text : (manifestContents (entries.map entryLine)).toList =
      ['\n'].intercalate ((sortByKey entryLine entries).map fun entry => (entryLine entry).toList) ++ ['\n'] := by
    rw [manifestContents, String.toList_append, String.toList_ofList, sorted, List.map_map]
    rfl
  rw [text, lines_intercalate]
  · intro empty
    rw [List.map_eq_nil_iff] at empty
    exact nonempty (List.perm_nil.mp (empty ▸ (sortByKey_perm entryLine entries).symm))
  · intro l hl
    obtain ⟨entry, hentry, rfl⟩ := List.mem_map.mp hl
    exact entryLine_unbroken (legible entry (mem_sortByKey.mp hentry))

section

variable {sha256 : List UInt8 → Digest}

theorem sha256Hex_visible (bytes : List UInt8) : ∀ c ∈ (sha256Hex sha256 bytes).toList, isWhitespace c = false := by
  intro c hc
  rw [sha256Hex, String.toList_ofList, List.mem_flatMap] at hc
  obtain ⟨byte, -, hc⟩ := hc
  have visible : ∀ n : Fin 16, isWhitespace (hexDigit n) = false := by decide
  have high : byte.toNat / 16 < 16 := Nat.div_lt_of_lt_mul byte.toNat_lt
  have low : byte.toNat % 16 < 16 := Nat.mod_lt _ (by decide)
  simp only [List.mem_cons, List.not_mem_nil, or_false] at hc
  rcases hc with rfl | rfl
  · exact visible ⟨_, high⟩
  · exact visible ⟨_, low⟩

theorem checksumLine_join (fs : FileSystem) (dir : FilePath) (name : String) :
    checksumLine sha256 fs (dir.join name) = match digestOf sha256 fs (dir.join name) with
      | none => .error (.reading (dir.join name))
      | some digest => .ok (entryLine (digest, name)) := by
  have named : (dir.join name).getLast? = some name := List.getLast?_concat
  rw [checksumLine, digestOf]
  cases fs.read (dir.join name) with
  | none => rfl
  | some bytes =>
    simp only [named]
    rfl

theorem digestOf_visible {fs : FileSystem} {path : FilePath} {digest : String} (h : digestOf sha256 fs path = some digest) :
    ∀ c ∈ digest.toList, isWhitespace c = false := by
  obtain ⟨bytes, -, rfl⟩ := Option.map_eq_some_iff.mp h
  exact sha256Hex_visible bytes

/-- The lines are verified when each file has the digest of its own line. -/
theorem verifyLines_eq_ok_iff {fs : FileSystem} {dir : FilePath} {entries : List (String × String)}
    (legible : ∀ entry ∈ entries, LegibleEntry entry) :
    verifyLines sha256 fs dir (entries.map fun entry => (entryLine entry).toList) = .ok () ↔
      ∀ entry ∈ entries, digestOf sha256 fs (dir.join entry.2) = some entry.1 := by
  induction entries with
  | nil => exact iff_of_true rfl (by simp)
  | cons entry entries ih =>
    have rest := ih fun other hother => legible other (List.mem_cons_of_mem _ hother)
    rw [List.forall_mem_cons, ← rest, List.map_cons, verifyLines,
      splitOnceText_entryLine (legible _ List.mem_cons_self).digest]
    simp only [String.ofList_toList, checksumLine_join]
    cases hdigest : digestOf sha256 fs (dir.join entry.2) with
    | none => exact iff_of_false nofun (by rintro ⟨⟨⟩, -⟩)
    | some digest =>
      simp only [ok_bind, @splitOnceText_entryLine (digest, entry.2) (digestOf_visible hdigest)]
      by_cases same : digest = entry.1
      · simp [same]
      · rw [if_neg fun h => same (String.toList_inj.mp h)]
        exact iff_of_false nofun fun h => same (Option.some.inj h.1)

/-- An artifact's entry in a manifest of the directory. -/
def entryOf (sha256 : List UInt8 → Digest) (fs : FileSystem) (dir : FilePath) (name : String) : String × String :=
  ((digestOf sha256 fs (dir.join name)).getD "", name)

variable {fs : FileSystem} {dir : FilePath} {names : List String}

theorem legible_entryOf {name : String} (plain : '\n' ∉ name.toList ∧ '\r' ∉ name.toList) :
    LegibleEntry (entryOf sha256 fs dir name) := by
  refine ⟨?_, plain⟩
  rw [entryOf]
  cases hdigest : digestOf sha256 fs (dir.join name) with
  | none => simp
  | some digest => exact digestOf_visible hdigest

theorem mapM_checksumLine (present : ∀ name ∈ names, (digestOf sha256 fs (dir.join name)).isSome = true) :
    (names.map dir.join).mapM (checksumLine sha256 fs) = .ok ((names.map (entryOf sha256 fs dir)).map entryLine) := by
  rw [mapM_eq_ok_iff, List.forall₂_map_left_iff, List.map_map, List.forall₂_map_right_iff, List.forall₂_same]
  intro name hname
  obtain ⟨digest, hdigest⟩ := Option.isSome_iff_exists.mp (present name hname)
  simp only [checksumLine_join, hdigest, Function.comp_apply, entryOf, Option.getD_some]

/-- The manifest of artifacts does not depend on their order. -/
theorem manifestContents_perm {lines lines' : List String} (same : lines'.Perm lines) :
    manifestContents lines' = manifestContents lines := by
  have sorted : sortByKey id lines' = sortByKey id lines :=
    sortByKey_of_separates (fun _ _ _ _ h => h) same.symm
  rw [manifestContents, manifestContents, sorted]

theorem writeManifest_eq (present : ∀ name ∈ names, (digestOf sha256 fs (dir.join name)).isSome = true)
    {names' : List String} (same : names'.Perm names) (manifestPath : FilePath) :
    writeManifest sha256 none (names'.map dir.join) manifestPath fs =
      (.ok (), fs.put manifestPath (utf8 (manifestContents ((names.map (entryOf sha256 fs dir)).map entryLine)))) := by
  rw [writeManifest, mapM_checksumLine fun name hname => present name (same.subset hname)]
  simp only [FileSystem.writeFile, manifestContents_perm ((same.map (entryOf sha256 fs dir)).map entryLine)]

/-- A manifest is accepted where every artifact has the digest that it had. -/
theorem verifyManifest_eq_ok_iff (nonempty : names ≠ []) (plain : ∀ name ∈ names, '\n' ∉ name.toList ∧ '\r' ∉ name.toList)
    (present : ∀ name ∈ names, (digestOf sha256 fs (dir.join name)).isSome = true) {later : FileSystem}
    {manifestPath : FilePath} (held : later.read manifestPath =
      some (utf8 (manifestContents ((names.map (entryOf sha256 fs dir)).map entryLine)))) :
    verifyManifest sha256 later manifestPath dir = .ok () ↔
      ∀ name ∈ names, digestOf sha256 later (dir.join name) = digestOf sha256 fs (dir.join name) := by
  have legible : ∀ entry ∈ names.map (entryOf sha256 fs dir), LegibleEntry entry := by
    intro entry hentry
    obtain ⟨name, hname, rfl⟩ := List.mem_map.mp hentry
    exact legible_entryOf (plain name hname)
  rw [verifyManifest, held, Option.bind_some, fromUtf8_utf8]
  simp only [lines_manifestContents (by simpa using nonempty) legible]
  rw [verifyLines_eq_ok_iff fun entry hentry => legible entry (mem_sortByKey.mp hentry)]
  simp only [mem_sortByKey, List.forall_mem_map]
  refine forall₂_congr fun name hname => ?_
  obtain ⟨digest, hdigest⟩ := Option.isSome_iff_exists.mp (present name hname)
  rw [entryOf, hdigest]
  rfl

end

end AnneDeBreuil
