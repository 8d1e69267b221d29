import AnneDeBreuil.FsStoreLog
import Mathlib.Data.List.Nodup

namespace AnneDeBreuil

/-- What `put` owes its callers over a run on a fresh store: the snapshot of a
first put can be read back and is listed once, and a repeated put changes
nothing. -/
def PutContract {β : Type} (libs : StoreLibs β) (puts : List Put) : Prop :=
  ∀ before put after id, puts = before ++ put :: after → (∀ other ∈ before, other.key ≠ put.key) →
    (putBlocking libs (runPuts libs (.fresh β) before) put.key put.snapshot).1 = .ok id →
    getBlocking libs (runPuts libs (.fresh β) puts) id = .ok (some put.snapshot) ∧
    (∃ ids, listBlocking libs (runPuts libs (.fresh β) puts) put.snapshot.hostId = .ok ids ∧
      ids.count id = 1) ∧
    ∀ mid again rest, after = mid ++ again :: rest → again.key = put.key →
      putBlocking libs (runPuts libs (.fresh β) (before ++ put :: mid)) again.key again.snapshot =
        (.ok id, runPuts libs (.fresh β) (before ++ put :: mid))

theorem find_of_nodup {α κ : Type} [DecidableEq κ] {f : α → κ} {xs : List α} (hn : (xs.map f).Nodup) {x : α}
    (h : x ∈ xs) : xs.find? (fun y => f y = f x) = some x := by
  cases hf : xs.find? (fun y => f y = f x) with
  | none => exact absurd (List.find?_eq_none.mp hf x h) (by simp)
  | some y =>
    have hy : f y = f x := by simpa using List.find?_some hf
    rw [List.inj_on_of_nodup_map hn (List.mem_of_find?_eq_some hf) h hy]

theorem firstPuts_keys_nodup (puts : List Put) : ((firstPuts puts).map Put.key).Nodup := by
  refine List.pairwise_map.mpr ((claimInOrder_pairwise Put.sameKey puts).imp ?_)
  intro a b h he
  simp [Put.sameKey, he] at h

theorem firstPuts_fresh {before : List Put} {put : Put} (h : ∀ other ∈ before, other.key ≠ put.key) :
    (firstPuts before).find? (fun other => other.key = put.key) = none := by
  refine List.find?_eq_none.mpr fun other ho => ?_
  simpa using h other ((claimInOrder_sublist _ _).subset ho)

theorem mem_firstPuts {before after : List Put} {put : Put} (h : ∀ other ∈ before, other.key ≠ put.key) :
    put ∈ firstPuts (before ++ put :: after) := by
  have first : put ∈ firstPuts (before ++ [put]) := by
    rw [firstPuts_snoc, firstPuts_fresh h]
    simp
  have kept := claimInOrder_append Put.sameKey (before ++ [put]) after
  rw [List.append_assoc, List.singleton_append] at kept
  exact kept.subset first

theorem firstPuts_split {puts : List Put} {put : Put} (h : put ∈ firstPuts puts) :
    ∃ before after, puts = before ++ put :: after ∧ ∀ other ∈ before, other.key ≠ put.key := by
  obtain ⟨before, after, he, hfree⟩ := claimInOrder_split h
  refine ⟨before, after, he, fun other ho hk => ?_⟩
  have refl : ∀ put : Put, put.sameKey put = true := by simp [Put.sameKey]
  obtain ⟨first, hf, hc⟩ := claimInOrder_maximal refl ho
  have hkey : other.key = first.key := by simpa [Put.sameKey] using hc
  have hno := hfree first hf
  simp [Put.sameKey, ← hkey, hk] at hno

section

variable {β : Type} {libs : StoreLibs β} {puts : List Put}

theorem putBlocking_split (lawful : libs.Lawful (puts.map Put.snapshot)) {before after : List Put} {put : Put}
    (hputs : puts = before ++ put :: after) (hfirst : ∀ other ∈ before, other.key ≠ put.key) :
    (putBlocking libs (runPuts libs (.fresh β) before) put.key put.snapshot).1 = .ok put.snapshot.scanId :=
  (putBlocking_first lawful (runPuts_represents lawful hputs) (List.mem_map_of_mem (by simp [hputs]))
    (firstPuts_fresh hfirst)).1

theorem putBlocking_again (lawful : libs.Lawful (puts.map Put.snapshot)) {before mid rest : List Put}
    {put again : Put} (hputs : puts = before ++ put :: (mid ++ again :: rest))
    (hfirst : ∀ other ∈ before, other.key ≠ put.key) (hkey : again.key = put.key) :
    putBlocking libs (runPuts libs (.fresh β) (before ++ put :: mid)) again.key again.snapshot =
      (.ok put.snapshot.scanId, runPuts libs (.fresh β) (before ++ put :: mid)) := by
  have hran : puts = (before ++ put :: mid) ++ again :: rest := by simpa using hputs
  have represents := runPuts_represents lawful hran
  have hput : put ∈ firstPuts (before ++ put :: mid) := mem_firstPuts hfirst
  have found := find_of_nodup (firstPuts_keys_nodup (before ++ put :: mid)) hput
  rw [hkey]
  exact putBlocking_repeated represents found again.snapshot

theorem listBlocking_count (lawful : libs.Lawful (puts.map Put.snapshot)) (host : HostId) (id : ScanId) :
    ∃ ids, listBlocking libs (runPuts libs (.fresh β) puts) host = .ok ids ∧
      ids.count id = (firstPuts puts).countP
        (fun put => put.snapshot.scanId = id && put.snapshot.hostId = host) := by
  have represents := runPuts_represents lawful (List.append_nil puts).symm
  refine ⟨_, listBlocking_log represents host, ?_⟩
  rw [(sortByKey_perm _ _).count_eq, List.count, List.countP_map, List.countP_filter]
  rfl

/-- The store keeps the contract on a run exactly when no two of its first puts
carry the same scan id. -/
theorem putContract_iff (lawful : libs.Lawful (puts.map Put.snapshot)) :
    PutContract libs puts ↔ ((firstPuts puts).map (fun put => put.snapshot.scanId)).Nodup := by
  have represents := runPuts_represents lawful (List.append_nil puts).symm
  constructor
  · intro contract
    have owed : ∀ put ∈ firstPuts puts,
        getBlocking libs (runPuts libs (.fresh β) puts) put.snapshot.scanId = .ok (some put.snapshot) ∧
        (firstPuts puts).countP (fun other => other.snapshot.scanId = put.snapshot.scanId &&
          other.snapshot.hostId = put.snapshot.hostId) = 1 := by
      intro put hput
      obtain ⟨before, after, hputs, hfirst⟩ := firstPuts_split hput
      obtain ⟨hget, ⟨ids, hlist, hcount⟩, _⟩ :=
        contract before put after _ hputs hfirst (putBlocking_split lawful hputs hfirst)
      obtain ⟨ids', hlist', hcount'⟩ := listBlocking_count lawful put.snapshot.hostId put.snapshot.scanId
      cases hlist.symm.trans hlist'
      exact ⟨hget, hcount'.symm.trans hcount⟩
    refine List.nodup_iff_count_le_one.mpr fun id => ?_
    by_cases hmem : id ∈ (firstPuts puts).map (fun put => put.snapshot.scanId)
    · obtain ⟨put, hput, rfl⟩ := List.mem_map.mp hmem
      have sameHost : ∀ other ∈ firstPuts puts, other.snapshot.scanId = put.snapshot.scanId →
          other.snapshot.hostId = put.snapshot.hostId := by
        intro other ho hid
        have found := (owed other ho).1
        rw [hid, (owed put hput).1] at found
        rw [Option.some.inj (Except.ok.inj found)]
      rw [List.count, List.countP_map, ← (owed put hput).2]
      apply Nat.le_of_eq
      refine List.countP_congr fun other ho => ?_
      simp only [Function.comp, beq_iff_eq, Bool.and_eq_true, decide_eq_true_eq]
      exact ⟨fun hid => ⟨hid, sameHost other ho hid⟩, And.left⟩
    · rw [List.count_eq_zero_of_not_mem hmem]
      exact Nat.zero_le 1
  · intro distinct before put after id hputs hfirst hid
    rw [putBlocking_split lawful hputs hfirst] at hid
    cases hid
    have hput : put ∈ firstPuts puts := hputs ▸ mem_firstPuts hfirst
    refine ⟨?_, ?_, fun mid again rest hafter hkey => ?_⟩
    · rw [getBlocking_log represents, find_of_nodup distinct hput]
      rfl
    · refine ⟨_, listBlocking_log represents put.snapshot.hostId, ?_⟩
      rw [(sortByKey_perm _ _).count_eq]
      refine List.count_eq_one_of_mem (distinct.sublist (List.filter_sublist.map _)) ?_
      exact List.mem_map.mpr ⟨put, List.mem_filter.mpr ⟨hput, by simp⟩, rfl⟩
    · exact putBlocking_again lawful (hafter ▸ hputs) hfirst hkey

end

/-- Libraries that keep what they serialise, and hash by the scan's instant. -/
def taggedLibs : StoreLibs (ScanSnapshot ⊕ Index) where
  toVec snapshot := .ok (.inl snapshot)
  fromSlice
    | .inl snapshot => .ok snapshot
    | .inr _ => .error "not a snapshot"
  indexToVec index := .ok (.inr index)
  indexFromSlice
    | .inr index => .ok index
    | .inl _ => .error "not an index"
  blake3
    | .inl snapshot => if snapshot.collectedAt.unixTimestampNanos = 0 then "a0" else "b1"
    | .inr _ => "c2"

theorem taggedLibs_lawful {snapshots : List ScanSnapshot}
    (h : ∀ s ∈ snapshots, ∀ t ∈ snapshots, taggedLibs.blake3 (.inl s) = taggedLibs.blake3 (.inl t) → s = t) :
    taggedLibs.Lawful snapshots where
  roundTrip s _ := ⟨.inl s, rfl, rfl⟩
  indexRoundTrip index := ⟨.inr index, rfl, rfl⟩
  hexDigits bytes := by
    cases bytes with
    | inl snapshot =>
      simp only [taggedLibs]
      split
      · show "a0".toList ⊆ "0123456789abcdef".toList
        decide
      · show "b1".toList ⊆ "0123456789abcdef".toList
        decide
    | inr index =>
      show "c2".toList ⊆ "0123456789abcdef".toList
      decide
  collisionFree s hs t ht bytes bytes' hv hv' hhash := by
    cases hv
    cases hv'
    rw [h s hs t ht hhash]

/-- An empty scan of one host. -/
def emptyScan (scanId : ScanId) (nanos : Int) : ScanSnapshot :=
  .new ⟨1⟩ scanId ⟨nanos, 0⟩ "1.0.0" [] [] [] .localOnly

theorem putContract_retried :
    PutContract taggedLibs [⟨⟨1⟩, emptyScan ⟨7⟩ 0⟩, ⟨⟨1⟩, emptyScan ⟨8⟩ 1⟩, ⟨⟨2⟩, emptyScan ⟨8⟩ 1⟩] :=
  (putContract_iff (taggedLibs_lawful (by decide))).mpr (by decide)

/-- Two scans with one id under two keys: both puts succeed, and the second
scan cannot be read back. -/
theorem putContract_counterexample :
    taggedLibs.Lawful [emptyScan ⟨7⟩ 0, emptyScan ⟨7⟩ 1] ∧
      ¬PutContract taggedLibs [⟨⟨1⟩, emptyScan ⟨7⟩ 0⟩, ⟨⟨2⟩, emptyScan ⟨7⟩ 1⟩] := by
  refine ⟨taggedLibs_lawful (by decide), fun contract => ?_⟩
  have owed := (contract [⟨⟨1⟩, emptyScan ⟨7⟩ 0⟩] ⟨⟨2⟩, emptyScan ⟨7⟩ 1⟩ [] ⟨7⟩ rfl (by decide) rfl).1
  have read : getBlocking taggedLibs
      (runPuts taggedLibs (.fresh _) [⟨⟨1⟩, emptyScan ⟨7⟩ 0⟩, ⟨⟨2⟩, emptyScan ⟨7⟩ 1⟩]) ⟨7⟩ =
      .ok (some (emptyScan ⟨7⟩ 0)) := rfl
  rw [read] at owed
  revert owed
  decide

end AnneDeBreuil
