import AnneDeBreuil.Drift

namespace AnneDeBreuil

/-- The exit codes are a contract with the scripts that call the command. -/
inductive ExitCode
  | clean
  | operationalError
  | configOrArgError
  | driftDetected
deriving DecidableEq, Repr

inductive SeverityArg
  | low
  | medium
  | high
  | critical
deriving DecidableEq, Repr

def SeverityArg.toSeverity : SeverityArg → Severity
  | .low => .low
  | .medium => .medium
  | .high => .high
  | .critical => .critical

/-- What `anne diff` takes from the file system and from `serde_json`, over a
type of files and a type of JSON values. -/
structure DiffLibs (φ ν : Type) where
  openFile : String → Except String φ
  fromReader : φ → Except String ν
  fromValue : ν → Except String ScanSnapshot
  toStringPretty : List DriftEntry → Except String String

/-- `anyhow`'s chain of messages, the outermost first. -/
def withContext {α : Type} (context : String) (result : Except (List String) α) : Except (List String) α :=
  result.mapError (context :: ·)

structure DiffOutput where
  stdout : String
  exitCode : ExitCode
deriving DecidableEq, Repr

namespace DiffCommand

variable {φ ν : Type} (libs : DiffLibs φ ν)

def loadSnapshot (path : String) : Except (List String) ScanSnapshot := do
  let file ← withContext ("opening " ++ path) ((libs.openFile path).mapError ([·]))
  let value ← withContext "parse JSON envelope" ((libs.fromReader file).mapError ([·]))
  withContext "parse JSON into ScanSnapshot" ((libs.fromValue value).mapError ([·]))

def driftExits (report : DriftReport) (threshold : Severity) : Bool :=
  report.entries.any (fun entry => threshold.ctorIdx ≤ entry.severity.ctorIdx)

/-- The rest of `run` once the drift is computed. -/
def emit (report : DriftReport) (failOnDrift : SeverityArg) : Except (List String) DiffOutput := do
  let asJson ← withContext "serialize drift entries" ((libs.toStringPretty report.entries).mapError ([·]))
  return ⟨asJson ++ "\n", if driftExits report failOnDrift.toSeverity then .driftDetected else .clean⟩

def run (target : Target) (baseline current : String) (failOnDrift : SeverityArg) :
    Except (List String) DiffOutput := do
  let baseline ← withContext ("loading baseline " ++ baseline) (loadSnapshot libs baseline)
  let current ← withContext ("loading current " ++ current) (loadSnapshot libs current)
  emit libs (diff target baseline current) failOnDrift

variable {libs}

theorem emit_congr {a b : DriftReport} (h : a.entries = b.entries) (failOnDrift : SeverityArg) :
    emit libs a failOnDrift = emit libs b failOnDrift := by
  unfold emit driftExits
  rw [h]

theorem run_eq_emit {target : Target} {baseline current : String} {before after : ScanSnapshot}
    (hbefore : loadSnapshot libs baseline = .ok before) (hafter : loadSnapshot libs current = .ok after)
    (failOnDrift : SeverityArg) :
    run libs target baseline current failOnDrift = emit libs (diff target before after) failOnDrift := by
  unfold run
  rw [hbefore, hafter]
  rfl

theorem emit_exitCode {report : DriftReport} {failOnDrift : SeverityArg} {output : DiffOutput}
    (h : emit libs report failOnDrift = .ok output) :
    output.exitCode = .driftDetected ↔
      ∃ entry ∈ report.entries, failOnDrift.toSeverity.ctorIdx ≤ entry.severity.ctorIdx := by
  obtain ⟨asJson, -, h⟩ := bind_eq_ok h
  cases Except.ok.inj h
  simp [driftExits]

end DiffCommand

end AnneDeBreuil
