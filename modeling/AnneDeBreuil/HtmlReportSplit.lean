import AnneDeBreuil.FsPutContract
import AnneDeBreuil.HtmlReport
import Mathlib.Data.List.Nodup

namespace AnneDeBreuil

/-- The split report keeps every section in a file of its own, and the links of the index, whose summary is rendered
with them, lead there. -/
structure SplitKeeps (templates : HtmlTemplates) (tokensCss : Utf8) (sections : List Utf8) (model : ReportModel) (dir : FilePath)
    (after : FileSystem) : Prop where
  contained : ∀ html ∈ sections, ∃ file contents, after.read (dir.join file) = some contents ∧ html <:+: contents
  kept : ∀ (i : Nat) host html, model.hosts[i]? = some host → sections[i]? = some html →
    after.read (dir.join (splitFileName host)) = some (hostDocument tokensCss html)
  linked : ∃ links summaryHtml, links = buildNavEntries model.hosts splitFileName ∧
    templates.summary model links = .ok summaryHtml ∧
    after.read (dir.join "index.html") = some (splitIndex tokensCss summaryHtml) ∧
    ∀ (i : Nat) html, sections[i]? = some html → ∃ entry contents, links[i]? = some entry ∧
      after.read (dir.join entry.target) = some contents ∧ html <:+: contents

/-- Also the links of the monolithic report lead to one section each. -/
structure SplitLossless (templates : HtmlTemplates) (tokensCss : Utf8) (sections : List Utf8) (model : ReportModel) (dir : FilePath)
    (after : FileSystem) : Prop extends SplitKeeps templates tokensCss sections model dir after where
  anchored : ∀ (i : Nat) host, model.hosts[i]? = some host → ∃ entry,
    (buildNavEntries model.hosts fun host => "#" ++ anchorFor host)[i]? = some entry ∧ entry.target = "#" ++ anchorFor host ∧
      ∀ (j : Nat) other, model.hosts[j]? = some other → anchorFor other = anchorFor host → j = i

section

variable {templates : HtmlTemplates} {tokensCss : Utf8} {dir : FilePath} {writes : Nat → SplitWrite}
  {disk after : FileSystem} {hosts : List HostSection} {index : Nat}

theorem join_inj {a b : String} : dir.join a = dir.join b ↔ a = b := by
  simp [FilePath.join]

theorem anchorFor_inj {a b : HostSection} : anchorFor a = anchorFor b ↔ a.hostId = b.hostId := by
  rw [← hostIdText_inj, anchorFor, anchorFor]
  constructor
  · intro same
    have chars := congrArg String.toList same
    simp only [String.toList_append, List.append_cancel_left_eq] at chars
    exact String.toList_inj.mp chars
  · exact fun same => congrArg ("host-" ++ ·) same

theorem splitFileName_inj {a b : HostSection} : splitFileName a = splitFileName b ↔ a.hostId = b.hostId := by
  rw [← hostIdText_inj, splitFileName, splitFileName]
  constructor
  · intro same
    have chars := congrArg String.toList same
    simp only [String.toList_append, List.append_cancel_left_eq, List.append_cancel_right_eq] at chars
    exact String.toList_inj.mp chars
  · exact fun same => congrArg (fun text => "host-" ++ text ++ ".html") same

/-- A file that is seen: no temporary one. -/
def Plain (file : String) : Prop := file.toList.head? ≠ some '.'

theorem plain_splitFileName (host : HostSection) : Plain (splitFileName host) := by
  simp [Plain, splitFileName]

/-- A write to a file of the directory leaves the others. -/
theorem write_join {uuid : Uuid} {answers : List WriteAnswer} {name : String} {bytes : List UInt8}
    (h : writeAtomically uuid answers (dir.join name) bytes disk = some (.ok (), after)) :
    after.read (dir.join name) = some bytes ∧
      ∀ file, file ≠ name → Plain file → after.read (dir.join file) = disk.read (dir.join file) := by
  obtain ⟨read, others⟩ := writeAtomically_ok h
  refine ⟨read, fun file other plain => ?_⟩
  have foreign : ∀ tmp, tempPathFor uuid (dir.join name) = .ok tmp → dir.join file ≠ tmp := by
    intro tmp temp same
    obtain ⟨dir', name', -, rfl⟩ := tempPathFor_ok.mp temp
    have names := (List.append_inj' same rfl).2
    refine plain ?_
    rw [(List.cons.inj names).1]
    simp
  rw [FileSystem.read, FileSystem.read, others _ (join_inj.not.mpr other) foreign]

theorem renderSections_cons {host : HostSection} {sections : List Utf8} :
    renderSections templates index (host :: hosts) = .ok sections ↔ ∃ html others, templates.hostSection host index = .ok html ∧
      renderSections templates (index + 1) hosts = .ok others ∧ sections = html :: others := by
  rw [renderSections]
  constructor
  · intro h
    obtain ⟨html, first, h⟩ := bind_eq_ok h
    obtain ⟨others, rest, h⟩ := bind_eq_ok h
    exact ⟨html, others, first, rest, (Except.ok.inj h).symm⟩
  · rintro ⟨html, others, first, rest, rfl⟩
    rw [first, ok_bind, rest, ok_bind]
    rfl

/-- Of the sections with one file name the last is in the file. -/
theorem writeSections_ok (h : writeSections templates tokensCss dir writes index hosts disk = some (.ok (), after)) :
    ∃ sections, renderSections templates index hosts = .ok sections ∧
      (∀ (i : Nat) host html, hosts[i]? = some host → sections[i]? = some html →
        (∀ (j : Nat) other, i < j → hosts[j]? = some other → splitFileName other ≠ splitFileName host) →
        after.read (dir.join (splitFileName host)) = some (hostDocument tokensCss html)) ∧
      ∀ file, (∀ host ∈ hosts, splitFileName host ≠ file) → Plain file →
        after.read (dir.join file) = disk.read (dir.join file) := by
  induction hosts generalizing index disk with
  | nil =>
    cases h
    exact ⟨[], rfl, nofun, fun _ _ _ => rfl⟩
  | cons host hosts ih =>
    rw [writeSections] at h
    split at h
    next => cases h
    next html rendered =>
      split at h
      next => cases h
      next => cases h
      next middle written =>
        obtain ⟨sections, others, later, rest⟩ := ih h
        obtain ⟨read, kept⟩ := write_join written
        refine ⟨html :: sections, ?_, fun i host' html' hhost hhtml last => ?_, fun file named plain => ?_⟩
        · exact renderSections_cons.mpr ⟨html, sections, rendered, others, rfl⟩
        · cases i with
          | zero =>
            cases hhost
            cases hhtml
            rw [rest _ (fun other hother => ?_) (plain_splitFileName host), read]
            obtain ⟨j, hj⟩ := List.mem_iff_getElem?.mp hother
            exact last (j + 1) other (Nat.succ_pos j) hj
          | succ i =>
            refine later i host' html' hhost hhtml fun j other hij hother => ?_
            exact last (j + 1) other (Nat.succ_lt_succ hij) hother
        · obtain ⟨first, named⟩ := List.forall_mem_cons.mp named
          rw [rest file named plain, kept file (Ne.symm first) plain]

theorem renderSections_length {sections : List Utf8} (h : renderSections templates index hosts = .ok sections) :
    sections.length = hosts.length := by
  induction hosts generalizing index sections with
  | nil =>
    cases h
    rfl
  | cons host hosts ih =>
    obtain ⟨html, others, -, rest, rfl⟩ := renderSections_cons.mp h
    rw [List.length_cons, List.length_cons, ih rest]

theorem splitFileName_ne_index (host : HostSection) : splitFileName host ≠ "index.html" := by
  intro same
  have first := congrArg (fun text => text.toList.head?) same
  simp [splitFileName] at first

theorem writeReportSplit_ok {model : ReportModel} {fontsMode : FontsMode} {created : Option IoError}
    (h : writeReportSplit templates model fontsMode dir created writes disk = some (.ok (), after)) :
    ∃ tokensCss middle summaryHtml, templates.tokensCss fontsMode = .ok tokensCss ∧
      writeSections templates tokensCss dir writes 0 model.hosts disk = some (.ok (), middle) ∧
      templates.summary model (buildNavEntries model.hosts splitFileName) = .ok summaryHtml ∧
      after.read (dir.join "index.html") = some (splitIndex tokensCss summaryHtml) ∧
      ∀ host, after.read (dir.join (splitFileName host)) = middle.read (dir.join (splitFileName host)) := by
  unfold writeReportSplit at h
  split at h
  next => cases h
  next =>
    split at h
    next => cases h
    next tokensCss styled =>
      split at h
      next => cases h
      next => cases h
      next middle sections =>
        split at h
        next => cases h
        next summaryHtml summarized =>
          obtain ⟨⟨result, after'⟩, written, same⟩ := Option.map_eq_some_iff.mp h
          cases result with
          | error e => cases same
          | ok _ =>
            cases same
            exact ⟨tokensCss, middle, summaryHtml, styled, sections, summarized, (write_join written).1, fun host =>
              (write_join written).2 _ (splitFileName_ne_index host) (plain_splitFileName host)⟩

/-- What is streamed has the sections one behind the other. -/
theorem writeReportStreaming_ok {model : ReportModel} {fontsMode : FontsMode} {sections : List Utf8} {document : Utf8}
    (styled : templates.tokensCss fontsMode = .ok tokensCss) (rendered : renderSections templates 0 model.hosts = .ok sections)
    (h : writeReportStreaming templates model fontsMode = .ok document) :
    ∃ summaryHtml, templates.summary model (buildNavEntries model.hosts fun host => "#" ++ anchorFor host) = .ok summaryHtml ∧
      document = reportHead tokensCss summaryHtml ++ sections.flatten ++ reportTail := by
  rw [writeReportStreaming, styled, rendered] at h
  cases hsummary : templates.summary model (buildNavEntries model.hosts fun host => "#" ++ anchorFor host) with
  | error message =>
    rw [hsummary] at h
    cases h
  | ok summaryHtml =>
    rw [hsummary] at h
    exact ⟨summaryHtml, rfl, (Except.ok.inj h).symm⟩

theorem infix_hostDocument (tokensCss html : Utf8) : html <:+: hostDocument tokensCss html :=
  ⟨_, _, rfl⟩

/-- The sections are those of the snapshots, in some order. -/
theorem build_hostIds {target : Target} {regexNew : String → Option FindIter} {snapshots : List ScanSnapshot}
    {drift : Option DriftReport} {confirmed : Bool} {model : ReportModel}
    (h : ReportModel.build target regexNew snapshots drift confirmed = .ok model) :
    (model.hosts.map HostSection.hostId).Perm (snapshots.map ScanSnapshot.hostId) := by
  rw [ReportModel.build] at h
  split at h
  next => cases h
  next =>
    cases h
    have sorted := (sortByKey_perm HostSection.sortKey (snapshots.map (buildHostSection target regexNew))).map HostSection.hostId
    rw [List.map_map] at sorted
    exact sorted

theorem nodup_hostIds_iff : (hosts.map HostSection.hostId).Nodup ↔ ∀ (i j : Nat) host other, hosts[i]? = some host →
    hosts[j]? = some other → anchorFor other = anchorFor host → j = i := by
  constructor
  · intro nodup i j host other hhost hother same
    have bound : j < (hosts.map HostSection.hostId).length := by
      rw [List.length_map]
      exact (List.getElem?_eq_some_iff.mp hother).1
    refine (List.getElem?_inj bound nodup).mp ?_
    rw [List.getElem?_map, List.getElem?_map, hhost, hother, Option.map_some, Option.map_some, anchorFor_inj.mp same]
  · intro apart
    rw [List.nodup_iff_getElem?_ne_getElem?]
    intro i j hij hj same
    rw [List.length_map] at hj
    have hi : i < hosts.length := by omega
    rw [List.getElem?_map, List.getElem?_map, List.getElem?_eq_getElem hi, List.getElem?_eq_getElem hj] at same
    have anchors := anchorFor_inj.mpr (Option.some.inj same).symm
    have := apart i j _ _ (List.getElem?_eq_getElem hi) (List.getElem?_eq_getElem hj) anchors
    omega

theorem buildNavEntries_getElem? {targetFor : HostSection → String} {i : Nat} {host : HostSection}
    (h : hosts[i]? = some host) :
    ∃ entry, (buildNavEntries hosts targetFor)[i]? = some entry ∧ entry.target = targetFor host := by
  rw [buildNavEntries, List.getElem?_map, h]
  exact ⟨_, rfl, rfl⟩

/-- Where all hosts differ, nothing is overwritten. -/
theorem splitKeeps_of_nodup {model : ReportModel} (nodup : (model.hosts.map HostSection.hostId).Nodup)
    {sections : List Utf8} {summaryHtml : Utf8} {middle : FileSystem} (rendered : renderSections templates 0 model.hosts = .ok sections)
    (written : writeSections templates tokensCss dir writes 0 model.hosts disk = some (.ok (), middle))
    (summarized : templates.summary model (buildNavEntries model.hosts splitFileName) = .ok summaryHtml)
    (indexed : after.read (dir.join "index.html") = some (splitIndex tokensCss summaryHtml))
    (others : ∀ host, after.read (dir.join (splitFileName host)) = middle.read (dir.join (splitFileName host))) :
    SplitKeeps templates tokensCss sections model dir after := by
  obtain ⟨sections', same, last, -⟩ := writeSections_ok written
  obtain rfl := Except.ok.inj (rendered.symm.trans same)
  have kept : ∀ (i : Nat) host html, model.hosts[i]? = some host → sections[i]? = some html →
      after.read (dir.join (splitFileName host)) = some (hostDocument tokensCss html) := by
    intro i host html hhost hhtml
    rw [others host]
    refine last i host html hhost hhtml fun j other hij hother collide => ?_
    have := nodup_hostIds_iff.mp nodup i j host other hhost hother (anchorFor_inj.mpr (splitFileName_inj.mp collide))
    omega
  have hosted : ∀ (i : Nat) html, sections[i]? = some html → ∃ host, model.hosts[i]? = some host := by
    intro i html hhtml
    have bound := (List.getElem?_eq_some_iff.mp hhtml).1
    rw [renderSections_length rendered] at bound
    exact ⟨_, List.getElem?_eq_getElem bound⟩
  refine ⟨fun html hmem => ?_, kept, _, summaryHtml, rfl, summarized, indexed, fun i html hhtml => ?_⟩
  · obtain ⟨i, hhtml⟩ := List.mem_iff_getElem?.mp hmem
    obtain ⟨host, hhost⟩ := hosted i html hhtml
    exact ⟨_, _, kept i host html hhost hhtml, infix_hostDocument tokensCss html⟩
  · obtain ⟨host, hhost⟩ := hosted i html hhtml
    obtain ⟨entry, hentry, target⟩ := @buildNavEntries_getElem? _ splitFileName _ _ hhost
    exact ⟨entry, _, hentry, by rw [target]; exact kept i host html hhost hhtml, infix_hostDocument tokensCss html⟩

theorem SplitKeeps.lossless {model : ReportModel} {sections : List Utf8}
    (h : SplitKeeps templates tokensCss sections model dir after) (nodup : (model.hosts.map HostSection.hostId).Nodup) :
    SplitLossless templates tokensCss sections model dir after where
  toSplitKeeps := h
  anchored := by
    intro i host hhost
    obtain ⟨entry, hentry, target⟩ := @buildNavEntries_getElem? _ (fun host => "#" ++ anchorFor host) _ _ hhost
    exact ⟨entry, hentry, target, fun j other hother => nodup_hostIds_iff.mp nodup i j host other hhost hother⟩

theorem SplitLossless.nodup {model : ReportModel} {sections : List Utf8}
    (h : SplitLossless templates tokensCss sections model dir after) :
    (model.hosts.map HostSection.hostId).Nodup := by
  rw [nodup_hostIds_iff]
  intro i j host other hhost hother collide
  obtain ⟨entry, -, -, only⟩ := h.anchored i host hhost
  exact only j other hother collide

theorem hostDocument_inj {a b : Utf8} (h : hostDocument tokensCss a = hostDocument tokensCss b) : a = b :=
  List.append_cancel_left (List.append_cancel_right h)

/-- Two sections that differ cannot both be kept under one name. -/
theorem SplitKeeps.nodup {model : ReportModel} {sections : List Utf8}
    (h : SplitKeeps templates tokensCss sections model dir after) (rendered : renderSections templates 0 model.hosts = .ok sections) (distinct : sections.Nodup) :
    (model.hosts.map HostSection.hostId).Nodup := by
  rw [nodup_hostIds_iff]
  intro i j host other hhost hother collide
  have section_of : ∀ (k : Nat) host, model.hosts[k]? = some host → ∃ bound : k < sections.length,
      after.read (dir.join (splitFileName host)) = some (hostDocument tokensCss sections[k]) := by
    intro k host hhost
    have bound := (List.getElem?_eq_some_iff.mp hhost).1
    rw [← renderSections_length rendered] at bound
    exact ⟨bound, h.kept k host _ hhost (List.getElem?_eq_getElem bound)⟩
  obtain ⟨hi, first⟩ := section_of i host hhost
  obtain ⟨hj, second⟩ := section_of j other hother
  rw [splitFileName_inj.mpr (anchorFor_inj.mp collide), first] at second
  exact (distinct.getElem_inj_iff.mp (hostDocument_inj (Option.some.inj second))).symm

end

section

variable {templates : HtmlTemplates} {tokensCss : Utf8} {dir : FilePath} {writes : Nat → SplitWrite} {disk : FileSystem}
  {hosts : List HostSection} {index : Nat}

def Unhidden (dir : FilePath) (disk : FileSystem) : Prop := ∀ file, ¬Plain file → disk.files (dir.join file) = none

theorem Unhidden.write {uuid : Uuid} {name : String} {bytes : Utf8} (h : Unhidden dir disk) (content : bytes ≠ [])
    (plain : Plain name) : ∃ after,
    writeAtomically uuid (smoothAnswers bytes) (dir.join name) bytes disk = some (.ok (), after) ∧ Unhidden dir after := by
  obtain ⟨after, written, others⟩ := @writeAtomically_smooth uuid dir name bytes disk content (by
    intro tmp temp
    obtain ⟨dir', name', same, rfl⟩ := tempPathFor_ok.mp temp
    obtain ⟨rfl, -⟩ := List.append_inj' same rfl
    exact h _ (by simp [Plain]))
  refine ⟨after, written, fun file hidden => ?_⟩
  have apart : file ≠ name := by
    rintro rfl
    exact hidden plain
  rw [others _ (join_inj.not.mpr apart), h file hidden]

theorem hostDocument_ne_nil (tokensCss html : Utf8) : hostDocument tokensCss html ≠ [] := by
  simp [hostDocument, show utf8 "\n</main>\n" ≠ [] by decide]

theorem writeSections_smooth {sections : List Utf8} (unhidden : Unhidden dir disk)
    (rendered : renderSections templates index hosts = .ok sections)
    (smooth : ∀ (i : Nat) html, sections[i]? = some html →
      (writes (index + i)).2 = smoothAnswers (hostDocument tokensCss html)) :
    ∃ after, writeSections templates tokensCss dir writes index hosts disk = some (.ok (), after) ∧ Unhidden dir after := by
  induction hosts generalizing index disk sections with
  | nil => exact ⟨disk, rfl, unhidden⟩
  | cons host hosts ih =>
    obtain ⟨html, others, hfirst, hrest, rfl⟩ := renderSections_cons.mp rendered
    obtain ⟨middle, written, unhidden'⟩ := @Unhidden.write dir disk (writes index).1 (splitFileName host) _ unhidden
      (hostDocument_ne_nil tokensCss html) (plain_splitFileName host)
    obtain ⟨after, later, unhidden''⟩ := ih unhidden' hrest fun i html' hhtml => by
      rw [Nat.add_right_comm]
      exact smooth (i + 1) html' hhtml
    refine ⟨after, ?_, unhidden''⟩
    have first := smooth 0 html rfl
    rw [Nat.add_zero] at first
    rw [writeSections, hfirst]
    dsimp only
    rw [first, written]
    exact later

/-- The report is written, if it is rendered and every call succeeds. -/
theorem writeReportSplit_smooth {model : ReportModel} {fontsMode : FontsMode} {sections : List Utf8} {summaryHtml : Utf8}
    (unhidden : Unhidden dir disk) (styled : templates.tokensCss fontsMode = .ok tokensCss)
    (rendered : renderSections templates 0 model.hosts = .ok sections)
    (summarized : templates.summary model (buildNavEntries model.hosts splitFileName) = .ok summaryHtml)
    (smooth : ∀ (i : Nat) html, sections[i]? = some html → (writes i).2 = smoothAnswers (hostDocument tokensCss html))
    (indexed : (writes model.hosts.length).2 = smoothAnswers (splitIndex tokensCss summaryHtml)) :
    ∃ after, writeReportSplit templates model fontsMode dir none writes disk = some (.ok (), after) := by
  obtain ⟨middle, hosts, unhidden'⟩ := @writeSections_smooth templates tokensCss dir writes disk _ 0 _ unhidden rendered
    (by simpa using smooth)
  obtain ⟨after, written, -⟩ := @Unhidden.write dir middle (writes model.hosts.length).1 "index.html"
    (splitIndex tokensCss summaryHtml) unhidden' (by simp [splitIndex, show utf8 "\n" ≠ [] by decide]) (by simp [Plain])
  refine ⟨after, ?_⟩
  rw [writeReportSplit, styled]
  dsimp only
  rw [hosts]
  dsimp only
  rw [summarized, indexed]
  dsimp only
  rw [written]
  rfl

end

/-- The split report loses nothing of what is streamed, exactly if no two snapshots are of one host. -/
theorem splitLossless_iff {target : Target} {regexNew : String → Option FindIter} {templates : HtmlTemplates}
    {snapshots : List ScanSnapshot} {drift : Option DriftReport} {confirmed : Bool} {model : ReportModel}
    {fontsMode : FontsMode} {dir : FilePath} {created : Option IoError} {writes : Nat → SplitWrite} {disk after : FileSystem}
    (built : ReportModel.build target regexNew snapshots drift confirmed = .ok model)
    (written : writeReportSplit templates model fontsMode dir created writes disk = some (.ok (), after)) :
    ∃ tokensCss sections, templates.tokensCss fontsMode = .ok tokensCss ∧ renderSections templates 0 model.hosts = .ok sections ∧
      (∀ document, writeReportStreaming templates model fontsMode = .ok document → ∃ summaryHtml,
        templates.summary model (buildNavEntries model.hosts fun host => "#" ++ anchorFor host) = .ok summaryHtml ∧
          document = reportHead tokensCss summaryHtml ++ sections.flatten ++ reportTail) ∧
      (SplitLossless templates tokensCss sections model dir after ↔ (snapshots.map ScanSnapshot.hostId).Nodup) ∧
      (sections.Nodup → (SplitKeeps templates tokensCss sections model dir after ↔ (snapshots.map ScanSnapshot.hostId).Nodup)) := by
  obtain ⟨tokensCss, middle, summaryHtml, styled, hosts, summarized, indexed, others⟩ := writeReportSplit_ok written
  obtain ⟨sections, rendered, -, -⟩ := writeSections_ok hosts
  have keeps : (model.hosts.map HostSection.hostId).Nodup → SplitKeeps templates tokensCss sections model dir after :=
    fun nodup => splitKeeps_of_nodup nodup rendered hosts summarized indexed others
  rw [← (build_hostIds built).nodup_iff]
  exact ⟨tokensCss, sections, styled, rendered, fun document => writeReportStreaming_ok styled rendered,
    ⟨SplitLossless.nodup, fun nodup => (keeps nodup).lossless nodup⟩, fun distinct => ⟨fun kept => kept.nodup rendered distinct, keeps⟩⟩

def numberedSection (index : Nat) : Utf8 := utf8 "section " ++ [48 + UInt8.ofNat index]

def linkedSummary (links : List HostNavEntry) : Utf8 := links.flatMap fun entry => utf8 ("<a href=" ++ entry.target ++ ">")

def numberedTemplates : HtmlTemplates where
  tokensCss _ := .ok []
  hostSection _ index := .ok (numberedSection index)
  summary _ links := .ok (linkedSummary links)

def numberedWrites (model : ReportModel) (index : Nat) : SplitWrite :=
  (100 + BitVec.ofNat 128 index, smoothAnswers (if index = 2 then
    splitIndex [] (linkedSummary (buildNavEntries model.hosts splitFileName)) else hostDocument [] (numberedSection index)))

theorem writeReportSplit_numbered {model : ReportModel} {a b : HostSection} (hosts : model.hosts = [a, b]) :
    ∃ after, writeReportSplit numberedTemplates model .system ["reports"] none (numberedWrites model) ⟨fun _ => none, 0o644⟩ =
      some (.ok (), after) := by
  refine @writeReportSplit_smooth numberedTemplates [] _ (numberedWrites model) _ model _ [numberedSection 0, numberedSection 1]
    (linkedSummary (buildNavEntries model.hosts splitFileName)) (fun _ _ => rfl) rfl (by rw [hosts]; rfl) rfl
    (fun i html hhtml => ?_) ?_
  · match i with
    | 0 =>
      cases hhtml
      rfl
    | 1 =>
      cases hhtml
      rfl
    | i + 2 => cases hhtml
  · have two : model.hosts.length = 2 := by rw [hosts]; rfl
    rw [two]
    rfl

theorem splitLossless_two_hosts : ∃ model after sections,
    ReportModel.build .other (fun _ => none) [emptyScan ⟨7⟩ 0, { emptyScan ⟨8⟩ 1 with hostId := ⟨2⟩ }] none true = .ok model ∧
    writeReportSplit numberedTemplates model .system ["reports"] none (numberedWrites model) ⟨fun _ => none, 0o644⟩ =
      some (.ok (), after) ∧
    renderSections numberedTemplates 0 model.hosts = .ok sections ∧
    SplitLossless numberedTemplates [] sections model ["reports"] after := by
  obtain ⟨model, built⟩ : ∃ model, ReportModel.build .other (fun _ => none)
      [emptyScan ⟨7⟩ 0, { emptyScan ⟨8⟩ 1 with hostId := ⟨2⟩ }] none true = .ok model :=
    ⟨_, rfl⟩
  obtain ⟨a, b, hosts⟩ := List.length_eq_two.mp (by simpa using (build_hostIds built).length_eq)
  obtain ⟨after, written⟩ := writeReportSplit_numbered hosts
  obtain ⟨css, sections, styled, rendered, -, lossless, -⟩ := splitLossless_iff built written
  cases styled
  exact ⟨model, after, sections, built, written, rendered, lossless.mpr (by decide)⟩

/-- The second scan of a host overwrites the section of the first. -/
theorem splitLossless_two_scans : ∃ model after sections,
    ReportModel.build .other (fun _ => none) [emptyScan ⟨7⟩ 0, emptyScan ⟨8⟩ 1] none true = .ok model ∧
    writeReportSplit numberedTemplates model .system ["reports"] none (numberedWrites model) ⟨fun _ => none, 0o644⟩ =
      some (.ok (), after) ∧
    renderSections numberedTemplates 0 model.hosts = .ok sections ∧ sections.Nodup ∧
    ¬SplitKeeps numberedTemplates [] sections model ["reports"] after := by
  obtain ⟨model, built⟩ : ∃ model, ReportModel.build .other (fun _ => none)
      [emptyScan ⟨7⟩ 0, emptyScan ⟨8⟩ 1] none true = .ok model :=
    ⟨_, rfl⟩
  obtain ⟨a, b, hosts⟩ := List.length_eq_two.mp (by simpa using (build_hostIds built).length_eq)
  obtain ⟨after, written⟩ := writeReportSplit_numbered hosts
  have rendered : renderSections numberedTemplates 0 model.hosts = .ok [numberedSection 0, numberedSection 1] := by
    rw [hosts]
    rfl
  have distinct : [numberedSection 0, numberedSection 1].Nodup := by decide +kernel
  refine ⟨model, after, _, built, written, rendered, distinct, fun keeps => ?_⟩
  have apart := (build_hostIds built).nodup_iff.mp (keeps.nodup rendered distinct)
  revert apart
  decide

end AnneDeBreuil
