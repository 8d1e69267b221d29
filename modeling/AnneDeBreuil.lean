import AnneDeBreuil.DynamicPorts
import AnneDeBreuil.AnyFilters
import AnneDeBreuil.PolicyDrift
import AnneDeBreuil.RedactionCover
import AnneDeBreuil.PortalSecrecy
import AnneDeBreuil.StoreEquivalence
import AnneDeBreuil.FsPutRuns
import AnneDeBreuil.KnownHostsMarkers
import AnneDeBreuil.TrustOnFirstUse
import AnneDeBreuil.TenantIsolation
import AnneDeBreuil.FanoutAccounts
import AnneDeBreuil.FanoutProvenance
import AnneDeBreuil.Precedence
import AnneDeBreuil.PortLists
import AnneDeBreuil.UntrackedProtocols
import AnneDeBreuil.SnapshotOrder
import AnneDeBreuil.SuppressedChurn
import AnneDeBreuil.NftIdentity
import AnneDeBreuil.SnapshotInvariants
import AnneDeBreuil.ProbeSpacing
import AnneDeBreuil.RuleGroups
import AnneDeBreuil.MappedListeners
import AnneDeBreuil.ProbeSpellings
import AnneDeBreuil.ProbeIsolation
import AnneDeBreuil.PortalTokens
import AnneDeBreuil.RateLimit
import AnneDeBreuil.RemoteExec
import AnneDeBreuil.PsPayload
import AnneDeBreuil.ExecChannel
import AnneDeBreuil.GlobMatch
import AnneDeBreuil.Svg
import AnneDeBreuil.ReportTotals
import AnneDeBreuil.PatternComplexity
import AnneDeBreuil.Fingerprint
import AnneDeBreuil.CollectRounds
import AnneDeBreuil.ExeReplace
import AnneDeBreuil.ManifestRoundTrip
import AnneDeBreuil.CappedBody
import AnneDeBreuil.ContextWindow
import AnneDeBreuil.EnvExpansion
import AnneDeBreuil.ProbeEvidence
import AnneDeBreuil.Hsts
import AnneDeBreuil.ReportWriter
import AnneDeBreuil.ReportWriterRuns
import AnneDeBreuil.HtmlReport
import AnneDeBreuil.HtmlReportSplit
import AnneDeBreuil.PsCollector
import AnneDeBreuil.SnapshotWire
import AnneDeBreuil.ExecuteTier
import AnneDeBreuil.Memo
import AnneDeBreuil.ProcessResolvers
import AnneDeBreuil.LocalScan
import AnneDeBreuil.ScanCommand
import AnneDeBreuil.PortalPurge
import AnneDeBreuil.PortalAnswers
import AnneDeBreuil.ReportFormats
import AnneDeBreuil.ReportCommand
import AnneDeBreuil.UpdateRuns
import AnneDeBreuil.SshSession
import AnneDeBreuil.DriftHistory
import AnneDeBreuil.GroupedSort
import AnneDeBreuil.ExposureMap
import AnneDeBreuil.RuleEvaluation
import AnneDeBreuil.TrustQuadrant
