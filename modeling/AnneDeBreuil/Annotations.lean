import AnneDeBreuil.ReportModel

namespace AnneDeBreuil

/-- The counts of the four severities, summed. -/
def driftTotal (rollup : Rollup) : Nat :=
  rollup.driftBySeverity.low + rollup.driftBySeverity.medium + rollup.driftBySeverity.high +
    rollup.driftBySeverity.critical

def hasNoFindings (rollup : Rollup) : Bool :=
  rollup.endpointsByExposure.allInterfaces == 0 && rollup.unsignedBinaries == 0 && driftTotal rollup == 0

/-- The first sentence of a rendered report. -/
def executiveSummary (rollup : Rollup) : String :=
  if hasNoFindings rollup then "Scanned " ++ toString rollup.hostsScanned ++ " hosts. No findings."
  else
    "Scanned " ++ toString rollup.hostsScanned ++ " hosts and found " ++
      toString rollup.endpointsByExposure.allInterfaces ++ " endpoints exposed on all interfaces, " ++
      toString rollup.unsignedBinaries ++ " unsigned binaries, and " ++ toString (driftTotal rollup) ++
      " drift entries since the baseline."

theorem DriftSeverityCounts.record_total (counts : DriftSeverityCounts) (severity : Severity) :
    let recorded := counts.record severity
    recorded.low + recorded.medium + recorded.high + recorded.critical =
      counts.low + counts.medium + counts.high + counts.critical + 1 := by
  cases severity <;> simp only [DriftSeverityCounts.record] <;> omega

theorem recordSeverities_total (entries : List DriftEntry) (counts : DriftSeverityCounts) :
    let recorded := entries.foldl (fun counts entry => counts.record entry.severity) counts
    recorded.low + recorded.medium + recorded.high + recorded.critical =
      counts.low + counts.medium + counts.high + counts.critical + entries.length := by
  induction entries generalizing counts with
  | nil => rfl
  | cons entry entries ih =>
    have step := counts.record_total entry.severity
    have rest := ih (counts.record entry.severity)
    simp only [List.foldl_cons, List.length_cons] at step rest ⊢
    omega

/-- The drift total of a rollup is the number of entries it was built from. -/
theorem driftTotal_buildRollup (target : Target) (snapshots : List ScanSnapshot) (drift : DriftReport) :
    driftTotal (buildRollup target snapshots (some drift)) = drift.entries.length := by
  have total := recordSeverities_total drift.entries ⟨0, 0, 0, 0⟩
  simpa [driftTotal, buildRollup] using total

end AnneDeBreuil
