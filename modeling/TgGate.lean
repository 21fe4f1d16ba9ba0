import TgGate.AcceptNegotiation
import TgGate.AccountDocuments
import TgGate.AccountRepository
import TgGate.ApplicationRuns
import TgGate.ApprovalIsolation
import TgGate.AuditIndependence
import TgGate.AuditLog
import TgGate.AuthorizationInputs
import TgGate.AuthorizationRows
import TgGate.AuthorizationSessions
import TgGate.AuthorizationStateMachine
import TgGate.AuthorizedSends
import TgGate.BearerTokens
import TgGate.ChatAllowlist
import TgGate.ClientProfileRepository
import TgGate.ClosedSessions
import TgGate.ConfigurationIntegers
import TgGate.ConfigurationRoundTrips
import TgGate.ConfigurationSave
import TgGate.CredentialCompletion
import TgGate.CredentialRotation
import TgGate.CredentialStages
import TgGate.DataPaths
import TgGate.DatabaseKeys
import TgGate.DesktopAccounts
import TgGate.DesktopCredentials
import TgGate.DesktopStartup
import TgGate.DirectoryLocations
import TgGate.EchoedIds
import TgGate.ExclusiveAnswers
import TgGate.ExternalText
import TgGate.ExternalTextCleaning
import TgGate.Gateway
import TgGate.HeaderAnswers
import TgGate.HeaderDecisions
import TgGate.HeaderFields
import TgGate.HeaderOrder
import TgGate.HeaderVerdicts
import TgGate.HexadecimalTexts
import TgGate.HostLifecycle
import TgGate.HttpGate
import TgGate.HttpHostRuns
import TgGate.HttpHostStarts
import TgGate.HttpHostThreads
import TgGate.LateResponses
import TgGate.LegacyMigration
import TgGate.Library.AcceptField
import TgGate.Library.Dialogue
import TgGate.Library.FileReplacement
import TgGate.Library.FilesystemPath
import TgGate.Library.FixedStorage
import TgGate.Library.Hex
import TgGate.Library.HexPairs
import TgGate.Library.JsonDocument
import TgGate.Library.JsonStrings
import TgGate.Library.KeyedList
import TgGate.Library.MemberRuns
import TgGate.Library.MovedObjects
import TgGate.Library.PathResolution
import TgGate.Library.PathStack
import TgGate.Library.TrimmedParts
import TgGate.LiveClients
import TgGate.LockdownSafety
import TgGate.McpHostConfiguration
import TgGate.McpHostDocuments
import TgGate.McpHostLifecycle
import TgGate.OperatorDisplay
import TgGate.OutstandingRetirements
import TgGate.OverdueActions
import TgGate.ParserCalls
import TgGate.ParserExceptions
import TgGate.PolicyMonotonicity
import TgGate.PortReads
import TgGate.PortTexts
import TgGate.ProtocolAnswers
import TgGate.ReadOutcomes
import TgGate.ReadProvenance
import TgGate.ReadRefinement
import TgGate.ReadRelease
import TgGate.ReadSteps
import TgGate.ReadingSteps
import TgGate.RejectionReports
import TgGate.RequestCorrelation
import TgGate.ResponseIds
import TgGate.RetiredRequests
import TgGate.RuntimeLayout
import TgGate.SecretObjects
import TgGate.SecretPurposes
import TgGate.SecretStorage
import TgGate.SessionSecrets
import TgGate.ShownMessages
import TgGate.SimpleWebHttpHost
import TgGate.StartFailures
import TgGate.StopCompletion
import TgGate.StopProgress
import TgGate.TdReads
import TgGate.TdTelegramService
import TgGate.ToolAllowlist
import TgGate.ToolCallIntegers
import TgGate.ToolReturns
import TgGate.ToolVisibility
