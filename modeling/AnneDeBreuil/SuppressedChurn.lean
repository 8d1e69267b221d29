import AnneDeBreuil.Annotations
import AnneDeBreuil.DiffCommand
import AnneDeBreuil.InForceRules

namespace AnneDeBreuil

variable {φ ν : Type}

/-- A reader can tell the two reports apart, both in a report model and in what
the command prints and exits with. -/
structure ChurnVisible (target : Target) (regexNew : String → Option FindIter) (libs : DiffLibs φ ν)
    (snapshots : List ScanSnapshot) (noRedactConfirmed : Bool) (failOnDrift : SeverityArg)
    (filtered unchanged : DriftReport) : Prop where
  model : ReportModel.build target regexNew snapshots (some filtered) noRedactConfirmed ≠
    ReportModel.build target regexNew snapshots (some unchanged) noRedactConfirmed
  command : DiffCommand.emit libs filtered failOnDrift ≠ DiffCommand.emit libs unchanged failOnDrift

/-- A report model reads no more of the drift than its entries. -/
theorem ReportModel.build_congr {a b : DriftReport} (h : a.entries = b.entries) (target : Target)
    (regexNew : String → Option FindIter) (snapshots : List ScanSnapshot) (noRedactConfirmed : Bool) :
    ReportModel.build target regexNew snapshots (some a) noRedactConfirmed =
      ReportModel.build target regexNew snapshots (some b) noRedactConfirmed := by
  have rollup : buildRollup target snapshots (some a) = buildRollup target snapshots (some b) := by
    simp only [buildRollup, Option.map_some, h]
  simp only [ReportModel.build, Option.map_some, h, rollup]

/-- Neither half holds of any two reports with the same entries, however much
either of them suppressed. -/
theorem suppressedChurn_invisible (target : Target) (regexNew : String → Option FindIter) (libs : DiffLibs φ ν)
    (snapshots : List ScanSnapshot) (noRedactConfirmed : Bool) (failOnDrift : SeverityArg)
    (filtered unchanged : DriftReport) (same : filtered.entries = unchanged.entries) :
    ReportModel.build target regexNew snapshots (some filtered) noRedactConfirmed =
      ReportModel.build target regexNew snapshots (some unchanged) noRedactConfirmed ∧
    DiffCommand.emit libs filtered failOnDrift = DiffCommand.emit libs unchanged failOnDrift ∧
    ¬ChurnVisible target regexNew libs snapshots noRedactConfirmed failOnDrift filtered unchanged := by
  have model := ReportModel.build_congr same target regexNew snapshots noRedactConfirmed
  exact ⟨model, DiffCommand.emit_congr same failOnDrift, fun visible => visible.model model⟩

/-- One snapshot a file, and a printer that shows every entry. -/
def snapshotFiles (files : String → Option ScanSnapshot) : DiffLibs ScanSnapshot ScanSnapshot where
  openFile path := (files path).elim (.error "No such file or directory (os error 2)") .ok
  fromReader := .ok
  fromValue := .ok
  toStringPretty entries := .ok (toString (repr entries))

theorem suppressedChurn_invisible_ruleSet :
    ¬ChurnVisible .other (fun _ => none) (snapshotFiles fun _ => none) [] true .medium
      ⟨[⟨.ruleSetChanged, none, .medium⟩], 3⟩ ⟨[⟨.ruleSetChanged, none, .medium⟩], 0⟩ :=
  (suppressedChurn_invisible .other (fun _ => none) (snapshotFiles fun _ => none) [] true .medium
    ⟨[⟨.ruleSetChanged, none, .medium⟩], 3⟩ ⟨[⟨.ruleSetChanged, none, .medium⟩], 0⟩ rfl).2.2

def listenersAt (endpoints : List Endpoint) : ScanSnapshot :=
  .new ⟨0⟩ ⟨0⟩ ⟨0, 0⟩ "1.0.0" endpoints [] [] .localOnly

/-- A listener that came up on port 52000 was filtered, and the command says
what it says of two equal snapshots. -/
theorem suppressedChurn_counterexample :
    let quiet := listenersAt []
    let churned := listenersAt [wildcardListener 52000]
    let libs := snapshotFiles fun path => if path = "churned.json" then some churned else some quiet
    diff .other quiet churned = ⟨[], 1⟩ ∧ diff .other quiet quiet = ⟨[], 0⟩ ∧
    DiffCommand.run libs .other "quiet.json" "churned.json" .low =
      DiffCommand.run libs .other "quiet.json" "quiet.json" .low ∧
    ¬ChurnVisible .other (fun _ => none) libs [churned] true .low (diff .other quiet churned)
      (diff .other quiet quiet) := by
  intro quiet churned libs
  have filtered : diff .other quiet churned = ⟨[], 1⟩ := by decide +kernel
  have unchanged : diff .other quiet quiet = ⟨[], 0⟩ := by decide +kernel
  have loadQuiet : DiffCommand.loadSnapshot libs "quiet.json" = .ok quiet := rfl
  have loadChurned : DiffCommand.loadSnapshot libs "churned.json" = .ok churned := rfl
  have same : (diff .other quiet churned).entries = (diff .other quiet quiet).entries := by
    rw [filtered, unchanged]
  refine ⟨filtered, unchanged, ?_, fun visible => visible.command (DiffCommand.emit_congr same .low)⟩
  rw [DiffCommand.run_eq_emit loadQuiet loadChurned, DiffCommand.run_eq_emit loadQuiet loadQuiet]
  exact DiffCommand.emit_congr same .low

end AnneDeBreuil
