import AnneDeBreuil.SqliteSnapshotStore
import AnneDeBreuil.FsPutContract

namespace AnneDeBreuil

inductive StoreCall
  | put (put : Put)
  | get (id : ScanId)
  | list (host : HostId)
deriving DecidableEq, Repr

/-- What a caller sees of a call: the `Ok` value, or `none` for a failure. -/
inductive StoreAnswer
  | put (id : Option ScanId)
  | get (snapshot : Option (Option ScanSnapshot))
  | list (ids : Option (List ScanId))
deriving DecidableEq, Repr

def StoreCall.put? : StoreCall → Option Put
  | .put given => some given
  | .get _ => none
  | .list _ => none

/-- The puts of a sequence of calls, in order. -/
def callPuts (calls : List StoreCall) : List Put := calls.filterMap StoreCall.put?

/-- The answers of a store to calls made one after the other. -/
def answers {σ : Type} (serve : σ → StoreCall → StoreAnswer × σ) : σ → List StoreCall → List StoreAnswer
  | _, [] => []
  | store, call :: calls => (serve store call).1 :: answers serve (serve store call).2 calls

def fsServe {β : Type} (libs : StoreLibs β) (dir : StoreDir β) : StoreCall → StoreAnswer × StoreDir β
  | .put put =>
    (.put (putBlocking libs dir put.key put.snapshot).1.toOption, (putBlocking libs dir put.key put.snapshot).2)
  | .get id => (.get (getBlocking libs dir id).toOption, dir)
  | .list host => (.list (listBlocking libs dir host).toOption, dir)

def sqliteServe {β : Type} (crates : IdCrates) (libs : StoreLibs β) (table : List (SnapshotRow β)) :
    StoreCall → StoreAnswer × List (SnapshotRow β)
  | .put put =>
    (.put (putTx crates libs table put.key put.snapshot).1.toOption, (putTx crates libs table put.key put.snapshot).2)
  | .get id => (.get (getByScanId libs table id).toOption, table)
  | .list host => (.list (listByHost crates table host).toOption, table)

/-- The crate reads back the text of each scan id the puts carry. -/
def ParsesScanIds (crates : IdCrates) (puts : List Put) : Prop :=
  ∀ put ∈ puts, crates.uuidParseStr (uuidText put.snapshot.scanId.uuid) = some put.snapshot.scanId.uuid

section

variable {β : Type} {crates : IdCrates} {libs : StoreLibs β} {blank : β} {snapshots : List ScanSnapshot}
  {dir : StoreDir β} {log : List Put}

/-- Readers cannot tell the two stores apart while both hold the log. -/
theorem serve_read (lawful : libs.Lawful snapshots) (blank : β) (h : Represents libs snapshots dir log)
    (hlog : ∀ put ∈ log, put.snapshot ∈ snapshots) (parses : ParsesScanIds crates log) {call : StoreCall}
    (hread : call.put? = none) :
    fsServe libs dir call = ((sqliteServe crates libs (log.map (snapshotRowOf libs blank)) call).1, dir) ∧
      (sqliteServe crates libs (log.map (snapshotRowOf libs blank)) call).2 =
        log.map (snapshotRowOf libs blank) := by
  cases call with
  | put put => cases hread
  | get id =>
    simp only [fsServe, sqliteServe, getBlocking_log h, getByScanId_log lawful hlog]
    exact ⟨trivial, trivial⟩
  | list host =>
    simp only [fsServe, sqliteServe, listBlocking_log h, listByHost_log parses]
    exact ⟨trivial, trivial⟩

theorem firstPuts_prefix_nodup {ran rest : List Put} {κ : Type} {f : Put → κ}
    (h : ((firstPuts (ran ++ rest)).map f).Nodup) : ((firstPuts ran).map f).Nodup :=
  h.sublist ((claimInOrder_append Put.sameKey ran rest).sublist.map f)

/-- From stores that hold one log, the rest of the calls are answered alike
exactly when no later first put brings a scan id the log has. -/
theorem answers_from_log (lawful : libs.Lawful snapshots) (blank : β) (calls : List StoreCall) (ran : List Put)
    (hs : ∀ put ∈ ran ++ callPuts calls, put.snapshot ∈ snapshots)
    (parses : ParsesScanIds crates (ran ++ callPuts calls))
    (h : Represents libs snapshots dir (firstPuts ran))
    (distinct : ((firstPuts ran).map (fun put => put.snapshot.scanId)).Nodup) :
    answers (fsServe libs) dir calls =
        answers (sqliteServe crates libs) ((firstPuts ran).map (snapshotRowOf libs blank)) calls ↔
      ((firstPuts (ran ++ callPuts calls)).map (fun put => put.snapshot.scanId)).Nodup := by
  induction calls generalizing ran dir with
  | nil => simpa [answers, callPuts] using distinct
  | cons call calls ih =>
    have held : ∀ put ∈ firstPuts ran, put ∈ ran ++ callPuts (call :: calls) := fun put hp =>
      List.mem_append_left _ ((claimInOrder_sublist _ _).subset hp)
    cases hput : call.put? with
    | none =>
      have hcalls : callPuts (call :: calls) = callPuts calls := by simp [callPuts, hput]
      obtain ⟨hfs, hsql⟩ := serve_read lawful blank h (fun put hp => hs put (held put hp))
        (fun put hp => parses put (held put hp)) hput
      rw [hcalls] at hs parses ⊢
      simp only [answers, hfs, hsql, List.cons.injEq, true_and]
      exact ih _ hs parses h distinct
    | some put =>
      obtain rfl : call = .put put := by
        cases call with
        | put _ => exact congrArg StoreCall.put (Option.some.inj hput)
        | get _ => cases hput
        | list _ => cases hput
      have hcalls : ran ++ callPuts (.put put :: calls) = (ran ++ [put]) ++ callPuts calls := by
        simp [callPuts, StoreCall.put?]
      have hsnapshot : put.snapshot ∈ snapshots := hs put (by simp [callPuts, StoreCall.put?])
      have row := putTx_log lawful blank (fun other ho => parses other (held other ho)) hsnapshot
      rw [hcalls] at hs parses ⊢
      cases hf : (firstPuts ran).find? (fun other => other.key = put.key) with
      | some first =>
        have same : firstPuts (ran ++ [put]) = firstPuts ran := by rw [firstPuts_snoc, hf]
        rw [hf] at row
        have later := ih _ hs parses (same ▸ h) (same ▸ distinct)
        rw [same] at later
        simp only [answers, fsServe, sqliteServe, putBlocking_repeated h hf put.snapshot, row, List.cons.injEq,
          true_and]
        exact later
      | none =>
        have grown : firstPuts (ran ++ [put]) = firstPuts ran ++ [put] := by rw [firstPuts_snoc, hf]
        obtain ⟨hok, hafter⟩ := putBlocking_first lawful h hsnapshot hf
        rw [hf] at row
        by_cases taken : put.snapshot.scanId ∈ (firstPuts ran).map (fun put => put.snapshot.scanId)
        · have clash : ¬((firstPuts (ran ++ [put])).map (fun put => put.snapshot.scanId)).Nodup := by
            rw [grown, List.map_append, List.map_singleton]
            intro nodup
            exact (List.nodup_append.mp nodup).2.2 _ taken _ (by simp) rfl
          refine iff_of_false ?_ (fun nodup => clash (firstPuts_prefix_nodup nodup))
          simp only [if_pos taken] at row
          simp [answers, fsServe, sqliteServe, row, hok, Except.toOption]
        · simp only [if_neg taken] at row
          have fresh : ((firstPuts (ran ++ [put])).map (fun put => put.snapshot.scanId)).Nodup := by
            rw [grown, List.map_append, List.map_singleton]
            exact distinct.append (List.nodup_singleton _) (List.disjoint_singleton.mpr taken)
          have later := ih _ hs parses (by rwa [grown]) fresh
          rw [grown] at later
          simp only [answers, fsServe, sqliteServe, row, hok, List.cons.injEq, true_and]
          exact later

/-- The filesystem store and the table answer every sequence of calls alike
exactly when no two of its first puts carry the same scan id. -/
theorem stores_agree_iff {calls : List StoreCall} (lawful : libs.Lawful ((callPuts calls).map Put.snapshot))
    (parses : ParsesScanIds crates (callPuts calls)) :
    answers (fsServe libs) (.fresh β) calls = answers (sqliteServe crates libs) [] calls ↔
      ((firstPuts (callPuts calls)).map (fun put => put.snapshot.scanId)).Nodup := by
  obtain ⟨blank, -, -⟩ := lawful.indexRoundTrip ⟨[]⟩
  exact answers_from_log lawful blank calls [] (fun put hp => List.mem_map_of_mem hp) parses
    (fresh_represents libs _) (by simp [firstPuts, claimInOrder])

end

/-- Reads the hyphenated form of a UUID. -/
def hyphenatedCrates : IdCrates where
  uuidParseStr text := some (BitVec.ofNat 128 ((text.toList.filter (· ≠ '-')).foldl
    (fun n c => 16 * n + "0123456789abcdef".toList.idxOf c) 0))
  blake3Hash _ := 0

theorem stores_agree_retried :
    answers (fsServe taggedLibs) (.fresh _)
        [.put ⟨⟨1⟩, emptyScan ⟨7⟩ 0⟩, .put ⟨⟨1⟩, emptyScan ⟨8⟩ 1⟩, .get ⟨8⟩, .put ⟨⟨2⟩, emptyScan ⟨8⟩ 1⟩, .list ⟨1⟩] =
      answers (sqliteServe hyphenatedCrates taggedLibs) []
        [.put ⟨⟨1⟩, emptyScan ⟨7⟩ 0⟩, .put ⟨⟨1⟩, emptyScan ⟨8⟩ 1⟩, .get ⟨8⟩, .put ⟨⟨2⟩, emptyScan ⟨8⟩ 1⟩, .list ⟨1⟩] :=
  (stores_agree_iff (taggedLibs_lawful (by decide)) (by unfold ParsesScanIds; decide)).mpr (by decide)

/-- A second scan under an id already taken: one store keeps it, the other
refuses it. -/
theorem stores_agree_counterexample :
    taggedLibs.Lawful [emptyScan ⟨7⟩ 0, emptyScan ⟨7⟩ 1] ∧
      ParsesScanIds hyphenatedCrates [⟨⟨1⟩, emptyScan ⟨7⟩ 0⟩, ⟨⟨2⟩, emptyScan ⟨7⟩ 1⟩] ∧
      answers (fsServe taggedLibs) (.fresh _) [.put ⟨⟨1⟩, emptyScan ⟨7⟩ 0⟩, .put ⟨⟨2⟩, emptyScan ⟨7⟩ 1⟩] =
        [.put (some ⟨7⟩), .put (some ⟨7⟩)] ∧
      answers (sqliteServe hyphenatedCrates taggedLibs) []
          [.put ⟨⟨1⟩, emptyScan ⟨7⟩ 0⟩, .put ⟨⟨2⟩, emptyScan ⟨7⟩ 1⟩] =
        [.put (some ⟨7⟩), .put none] := by
  refine ⟨taggedLibs_lawful (by decide), by unfold ParsesScanIds; decide, rfl, ?_⟩
  decide

end AnneDeBreuil
