import AnneDeBreuil.FsPutProtocol
import AnneDeBreuil.FsStoreLog

namespace AnneDeBreuil

/-- The entry's content file is there, complete, and names its own hash. -/
def HasContent {β : Type} (libs : StoreLibs β) (dir : StoreDir β) (entry : IndexEntry) : Prop :=
  ∃ bytes snapshot, dir.files (contentName entry.contentHash) = some bytes ∧
    libs.blake3 bytes = entry.contentHash ∧ libs.fromSlice bytes = .ok snapshot ∧
    snapshot.scanId = entry.scanId ∧ snapshot.hostId = entry.hostId

/-- The store as it is between any two steps: an index that reads as
`entries`, and content files that are bodies of snapshots put. -/
structure Intact {ι β : Type} (libs : StoreLibs β) (puts : ι → Put) (dir : StoreDir β)
    (entries : List IndexEntry) : Prop where
  index : readIndex libs dir = .ok ⟨entries⟩
  content : ∀ entry ∈ entries, HasContent libs dir entry
  own : ∀ body bytes, dir.files (contentName (libs.blake3 body)) = some bytes →
    libs.blake3 bytes = libs.blake3 body ∧ ∃ i, libs.toVec (puts i).snapshot = .ok bytes
  keys : (entries.map IndexEntry.idempotencyKey).Nodup

/-- What the calls of a system rely on for their snapshots. -/
def LawfulPuts {ι β : Type} (libs : StoreLibs β) (puts : ι → Put) : Prop :=
  ∀ calls : List ι, libs.Lawful (calls.map (fun i => (puts i).snapshot))

/-- Nothing a reader may have found is gone. -/
structure Keeps {β : Type} (libs : StoreLibs β) (dir dir' : StoreDir β) : Prop where
  index : (dir.files indexName).isSome → (dir'.files indexName).isSome
  content : ∀ entry, HasContent libs dir entry → HasContent libs dir' entry

section

variable {ι β : Type} {libs : StoreLibs β} {puts : ι → Put} {dir dir' : StoreDir β} {entries : List IndexEntry}

theorem Keeps.refl (libs : StoreLibs β) (dir : StoreDir β) : Keeps libs dir dir := ⟨id, fun _ h => h⟩

theorem LawfulPuts.body (lawful : LawfulPuts libs puts) (i : ι) :
    ∃ bytes, libs.toVec (puts i).snapshot = .ok bytes ∧ libs.fromSlice bytes = .ok (puts i).snapshot :=
  (lawful [i]).roundTrip (puts i).snapshot (by simp)

theorem LawfulPuts.body_unique (lawful : LawfulPuts libs puts) {i j : ι} {bytes bytes' : β}
    (hi : libs.toVec (puts i).snapshot = .ok bytes) (hj : libs.toVec (puts j).snapshot = .ok bytes')
    (hash : libs.blake3 bytes = libs.blake3 bytes') : bytes = bytes' :=
  (lawful [i, j]).collisionFree (puts i).snapshot (by simp) (puts j).snapshot (by simp) bytes bytes' hi hj hash

theorem LawfulPuts.indexRoundTrip (lawful : LawfulPuts libs puts) (index : Index) :
    ∃ bytes, libs.indexToVec index = .ok bytes ∧ libs.indexFromSlice bytes = .ok index :=
  (lawful []).indexRoundTrip index

theorem LawfulPuts.contentName_ne_index (lawful : LawfulPuts libs puts) (bytes : β) :
    contentName (libs.blake3 bytes) ≠ indexName :=
  (lawful []).contentName_ne_index bytes

theorem fresh_intact (libs : StoreLibs β) (puts : ι → Put) : Intact libs puts (.fresh β) [] where
  index := rfl
  content := by simp
  own := by simp [StoreDir.fresh]
  keys := List.nodup_nil

theorem Intact.readIndexFile (h : Intact libs puts dir entries) (present : (dir.files indexName).isSome) :
    readIndexFile libs dir = .ok ⟨entries⟩ := by
  have hindex := h.index
  obtain ⟨bytes, hbytes⟩ := Option.isSome_iff_exists.mp present
  unfold readIndex at hindex
  unfold AnneDeBreuil.readIndexFile
  rw [hbytes] at hindex ⊢
  exact hindex

theorem Intact.entries_nil (h : Intact libs puts dir entries) (absent : (dir.files indexName).isSome = false) :
    entries = [] := by
  have hindex := h.index
  have hnone : dir.files indexName = none := by simpa using absent
  unfold readIndex at hindex
  rw [hnone] at hindex
  cases hindex
  rfl

/-- A call that writes nothing under a final name. -/
theorem Intact.same_files (h : Intact libs puts dir entries) (dir' : StoreDir β)
    (same : ∀ name, name ≠ indexTmpName → name ≠ contentTmpName → dir'.files name = dir.files name) :
    Intact libs puts dir' entries ∧ Keeps libs dir dir' := by
  have hindex : dir'.files indexName = dir.files indexName := same indexName (by decide) (by decide)
  have hcontent : ∀ hash, dir'.files (contentName hash) = dir.files (contentName hash) := fun hash =>
    same _ (contentName_ne_indexTmp hash) (contentName_ne_contentTmp hash)
  have kept : ∀ entry, HasContent libs dir entry → HasContent libs dir' entry := by
    intro entry hentry
    unfold HasContent at hentry ⊢
    rwa [hcontent]
  refine ⟨⟨?_, fun entry he => kept entry (h.content entry he), ?_, h.keys⟩, ⟨by rw [hindex]; exact id, kept⟩⟩
  · unfold readIndex
    rw [hindex]
    exact h.index
  · intro body bytes hbytes
    rw [hcontent] at hbytes
    exact h.own body bytes hbytes

/-- The rename of a content file. -/
theorem Intact.rename_content (lawful : LawfulPuts libs puts) (h : Intact libs puts dir entries) {i : ι} {bytes : β}
    (body : libs.toVec (puts i).snapshot = .ok bytes)
    (files : dir'.files = Function.update
      (Function.update dir.files (contentName (libs.blake3 bytes)) (some bytes)) contentTmpName none) :
    Intact libs puts dir' entries ∧ Keeps libs dir dir' ∧
      dir'.files (contentName (libs.blake3 bytes)) = some bytes := by
  have written : dir'.files (contentName (libs.blake3 bytes)) = some bytes := by
    simp [files, contentName_ne_contentTmp]
  have hindex : dir'.files indexName = dir.files indexName := by
    have hne := lawful.contentName_ne_index bytes
    simp [files, show indexName ≠ contentTmpName by decide, hne.symm]
  have other : ∀ hash, hash ≠ libs.blake3 bytes → dir'.files (contentName hash) = dir.files (contentName hash) := by
    intro hash hne
    have hname : contentName hash ≠ contentName (libs.blake3 bytes) := fun he => hne (contentName_injective he)
    simp [files, contentName_ne_contentTmp, hname]
  have kept : ∀ entry, HasContent libs dir entry → HasContent libs dir' entry := by
    rintro entry ⟨old, snapshot, hold, hhash, hslice, hids⟩
    by_cases hname : entry.contentHash = libs.blake3 bytes
    · rw [hname] at hold
      obtain ⟨-, j, hj⟩ := h.own bytes old hold
      have same : old = bytes := lawful.body_unique hj body (hhash.trans hname)
      exact ⟨old, snapshot, by rw [hname, written, same], hhash, hslice, hids⟩
    · exact ⟨old, snapshot, by rw [other _ hname, hold], hhash, hslice, hids⟩
  refine ⟨⟨?_, fun entry he => kept entry (h.content entry he), ?_, h.keys⟩, ⟨by rw [hindex]; exact id, kept⟩,
    written⟩
  · unfold readIndex
    rw [hindex]
    exact h.index
  · intro other' found hfound
    by_cases hname : libs.blake3 other' = libs.blake3 bytes
    · rw [hname, written] at hfound
      cases hfound
      exact ⟨hname.symm, i, body⟩
    · rw [other _ hname] at hfound
      exact h.own other' found hfound

/-- The rename of an index file with one more entry. -/
theorem Intact.rename_index (lawful : LawfulPuts libs puts) (h : Intact libs puts dir entries) {entry : IndexEntry}
    {bytes : β} (hentry : HasContent libs dir entry)
    (unused : ∀ other ∈ entries, other.idempotencyKey ≠ entry.idempotencyKey)
    (serialized : libs.indexToVec ⟨entries ++ [entry]⟩ = .ok bytes)
    (files : dir'.files = Function.update (Function.update dir.files indexName (some bytes)) indexTmpName none) :
    Intact libs puts dir' (entries ++ [entry]) ∧ Keeps libs dir dir' := by
  have written : dir'.files indexName = some bytes := by
    simp [files, show indexName ≠ indexTmpName by decide]
  have body : ∀ hash, contentName hash ≠ indexName → dir'.files (contentName hash) = dir.files (contentName hash) := by
    intro hash hne
    simp [files, contentName_ne_indexTmp, hne]
  have kept : ∀ other, HasContent libs dir other → HasContent libs dir' other := by
    rintro other ⟨old, snapshot, hold, hhash, hrest⟩
    have hne : contentName other.contentHash ≠ indexName := hhash ▸ lawful.contentName_ne_index old
    exact ⟨old, snapshot, by rw [body _ hne, hold], hhash, hrest⟩
  refine ⟨⟨?_, ?_, ?_, ?_⟩, ⟨fun _ => by rw [written]; rfl, kept⟩⟩
  · obtain ⟨bytes', hvec, hslice⟩ := lawful.indexRoundTrip ⟨entries ++ [entry]⟩
    cases serialized.symm.trans hvec
    unfold readIndex
    rw [written]
    simp only [hslice]
    rfl
  · intro other ho
    rcases List.mem_append.mp ho with ho | ho
    · exact kept other (h.content other ho)
    · rw [List.mem_singleton.mp ho]
      exact kept entry hentry
  · intro other found hfound
    rw [body _ (lawful.contentName_ne_index other)] at hfound
    exact h.own other found hfound
  · rw [List.map_append, List.map_singleton]
    refine h.keys.append (List.nodup_singleton _) (List.disjoint_singleton.mpr ?_)
    intro hm
    obtain ⟨other, ho, hk⟩ := List.mem_map.mp hm
    exact unused other ho hk

end

end AnneDeBreuil
