import Sigmascope.Library.Unicode
import Sigmascope.Library.PyText
import Sigmascope.Library.Regex
import Sigmascope.Library.RegexSpans
import Sigmascope.Library.Cuts
import Sigmascope.Library.Dict
import Sigmascope.Library.Distinct
import Sigmascope.Library.Erasure
import Sigmascope.Library.Precedence
import Sigmascope.Library.Memo
import Sigmascope.Library.FirstMatch
import Sigmascope.Library.FirstMaximum
import Sigmascope.Library.InformationLoss
import Sigmascope.Library.FilterBlocks
import Sigmascope.Library.LastWrite
import Sigmascope.Library.HeadInsert
import Sigmascope.Library.PlaceValue
import Sigmascope.Library.Program
import Sigmascope.Library.Resources
import Sigmascope.Library.Csv
import Sigmascope.Library.Json
import Sigmascope.Library.DateTime
import Sigmascope.Library.JsonSchema
import Sigmascope.Library.TextTable
import Sigmascope.Model
import Sigmascope.Catalog
import Sigmascope.Collect.Auditd
import Sigmascope.Collect.Windows
import Sigmascope.Collect.AuditpolNative
import Sigmascope.Collect.Sysmon
import Sigmascope.Parse.AuditdRules
import Sigmascope.Parse.SplitOptions
import Sigmascope.Parse.OptionPieces
import Sigmascope.Parse.FilterExpression
import Sigmascope.Parse.CanonicalListing
import Sigmascope.Parse.CanonicalRules
import Sigmascope.Parse.RuleOptions
import Sigmascope.Parse.AcceptedLines
import Sigmascope.Parse.RuleLines
import Sigmascope.Parse.AuditdStatus
import Sigmascope.Parse.SysmonCurrent
import Sigmascope.Parse.SysmonBlocks
import Sigmascope.Parse.SysmonDump
import Sigmascope.Parse.SysmonRoundTrip
import Sigmascope.Collect.GuidText
import Sigmascope.Parse.AuditpolCsv
import Sigmascope.Parse.AuditpolColumns
import Sigmascope.Parse.AuditpolText
import Sigmascope.Collect.HostCalls
import Sigmascope.Collect.HostPrograms
import Sigmascope.Collect.HostDiscipline
import Sigmascope.Collect.HostRefinement
import Sigmascope.Collect.HostReadings
import Sigmascope.Collect.HostFailures
import Sigmascope.Evaluate.Auditd
import Sigmascope.Evaluate.AuditdCoverage
import Sigmascope.Evaluate.ExitFilter
import Sigmascope.Evaluate.ArchSelectors
import Sigmascope.Evaluate.FileWatch
import Sigmascope.Evaluate.WatchTargets
import Sigmascope.Evaluate.ExcludeList
import Sigmascope.Evaluate.Renumbering
import Sigmascope.Evaluate.AddedRules
import Sigmascope.Evaluate.RuleLists
import Sigmascope.Evaluate.SyscallSelectors
import Sigmascope.Evaluate.AuditdText
import Sigmascope.Evaluate.WatchForms
import Sigmascope.Evaluate.LoadOrder
import Sigmascope.Evaluate.Resolver
import Sigmascope.Evaluate.Disjunction
import Sigmascope.Evaluate.Sysmon
import Sigmascope.Evaluate.SysmonSemantics
import Sigmascope.Evaluate.SysmonText
import Sigmascope.Evaluate.SysmonLines
import Sigmascope.Evaluate.SysmonConfigs
import Sigmascope.Evaluate.WindowsGates
import Sigmascope.Api.Report
import Sigmascope.Api.Linux
import Sigmascope.Api.LinuxGaps
import Sigmascope.Api.Windows
import Sigmascope.Api.ChannelTrace
import Sigmascope.Api.Visibility
import Sigmascope.Api.AuditPolicy
import Sigmascope.Api.NativePolicy
import Sigmascope.Api.GuidKeys
import Sigmascope.Api.HostRun
import Sigmascope.Api.HostSafety
import Sigmascope.Api.HostRefinement
import Sigmascope.Api.DefiniteVerdicts
import Sigmascope.Api.HostReadings
import Sigmascope.Api.HostEvidence
import Sigmascope.Api.HostCoverage
import Sigmascope.Api.SysmonCoverage
import Sigmascope.Api.HostFailures
import Sigmascope.Api.PolicyParity
import Sigmascope.Api.PolicySources
import Sigmascope.Api.ReportJson
import Sigmascope.Api.ReportSchema
import Sigmascope.Api.Explanations
import Sigmascope.Api.ReportTable
import Sigmascope.Main
import Sigmascope.CommandLine
