import LoginGateway.CommandLine.Basic
import LoginGateway.CommandLine.Help
import LoginGateway.CommandLine.Reader
import LoginGateway.Cookie
import LoginGateway.Digest.Hmac
import LoginGateway.Digest.Sha256
import LoginGateway.Domain.Composition
import LoginGateway.Domain.CompositionTable
import LoginGateway.Domain.DirectionTable
import LoginGateway.Domain.JoiningTable
import LoginGateway.Domain.MappingTable
import LoginGateway.Domain.Name
import LoginGateway.Domain.Punycode
import LoginGateway.Domain.Table
import LoginGateway.EnvFile.Basic
import LoginGateway.EnvFile.Line
import LoginGateway.EnvFile.Value
import LoginGateway.Fault
import LoginGateway.Gateway.Basic
import LoginGateway.Gateway.Bridge
import LoginGateway.Gateway.Dispatch
import LoginGateway.Gateway.Relay
import LoginGateway.Gateway.Serve
import LoginGateway.Http.Header
import LoginGateway.Http.Message
import LoginGateway.Http.Redirect
import LoginGateway.Http.TargetReader
import LoginGateway.Http.Transport
import LoginGateway.Identity.Basic
import LoginGateway.Identity.Reader
import LoginGateway.Json.Fault
import LoginGateway.Json.Reader
import LoginGateway.Json.Record
import LoginGateway.Json.Skip
import LoginGateway.Json.Value
import LoginGateway.Log.Basic
import LoginGateway.Log.Filter
import LoginGateway.Log.Time
import LoginGateway.Number.Binary64
import LoginGateway.Number.Decimal
import LoginGateway.Number.Shortest
import LoginGateway.Provider.Basic
import LoginGateway.Provider.Calls
import LoginGateway.Route.Basic
import LoginGateway.Route.Table
import LoginGateway.Session.Basic
import LoginGateway.Session.Cache
import LoginGateway.Settings.Basic
import LoginGateway.Settings.Document
import LoginGateway.Settings.Environment
import LoginGateway.Settings.Load
import LoginGateway.Settings.Mistake
import LoginGateway.Settings.Placeholder
import LoginGateway.Settings.Printer
import LoginGateway.Settings.Reader
import LoginGateway.Settings.Timeout
import LoginGateway.Settings.Validity
import LoginGateway.Settings.Variables
import LoginGateway.SigningKey
import LoginGateway.Startup
import LoginGateway.Text.Base64
import LoginGateway.Text.Blank
import LoginGateway.Text.Form
import LoginGateway.Text.Hidden
import LoginGateway.Text.Letters
import LoginGateway.Text.Percent
import LoginGateway.Text.Quoted
import LoginGateway.Text.Ranges
import LoginGateway.Text.Split
import LoginGateway.Text.Utf8
import LoginGateway.Token
import LoginGateway.Url.Address
import LoginGateway.Url.Basic
import LoginGateway.Url.Parser
import LoginGateway.Url.Query
import LoginGateway.Url.Reference
import LoginGateway.Yaml.Cursor
import LoginGateway.Yaml.Document
import LoginGateway.Yaml.Fault
import LoginGateway.Yaml.Meaning
import LoginGateway.Yaml.Node
import LoginGateway.Yaml.NodeReader
import LoginGateway.Yaml.ScalarReader
import LoginGateway.Yaml.Tag
import LoginGateway.Yaml.Token
import LoginGateway.Yaml.TokenReader
import LoginGateway.Main
import LoginGateway.Proofs.Base64
import LoginGateway.Proofs.Base64Strictness
import LoginGateway.Proofs.JsonStrings
import LoginGateway.Proofs.JsonRecords
import LoginGateway.Proofs.TokenRoundTrip
import LoginGateway.Proofs.TokenAcceptance
import LoginGateway.Proofs.Interleaving
import LoginGateway.Proofs.CacheTransparency
import LoginGateway.Proofs.Escapes
import LoginGateway.Proofs.IdentityHeaders
import LoginGateway.Proofs.ConfiguredRoutes
import LoginGateway.Proofs.Login
import LoginGateway.Proofs.BackendAccess
import LoginGateway.Proofs.OrganizationRestriction
import LoginGateway.Proofs.UrlHosts
import LoginGateway.Proofs.RouteTargets
import LoginGateway.Proofs.FormPairs
import LoginGateway.Proofs.UrlTexts
import LoginGateway.Proofs.RouteHosts
import LoginGateway.Proofs.Handover
import LoginGateway.Proofs.LocalRedirect
import LoginGateway.Proofs.LoginHandshake
import LoginGateway.Proofs.Refusals
import LoginGateway.Proofs.CallbackEndpoint
import LoginGateway.Proofs.UrlPaths
import LoginGateway.Proofs.BackendPaths
import LoginGateway.Proofs.Punycode
import LoginGateway.Proofs.AddressTexts
import LoginGateway.Proofs.BackendServers
import LoginGateway.Proofs.RelayedFields
import LoginGateway.Proofs.CallbackDecision
import LoginGateway.Proofs.BridgeDecision
import LoginGateway.Proofs.BridgeChains
import LoginGateway.Proofs.CookieRoundTrip
import LoginGateway.Proofs.OtherCookies
import LoginGateway.Proofs.RecognizedStates
import LoginGateway.Proofs.WrittenUrls
import LoginGateway.Proofs.UrlParts
import LoginGateway.Proofs.UrlRoundTrip
import LoginGateway.Proofs.AuthorizationRedirect
import LoginGateway.Proofs.RouteTables
import LoginGateway.Proofs.HostSpellings
import LoginGateway.Proofs.PlainTargets
import LoginGateway.Proofs.RelayedResponses
import LoginGateway.Proofs.BlankRoutes
import LoginGateway.Proofs.VariableFiles
import LoginGateway.Proofs.OrderedDocuments
import LoginGateway.Proofs.OverlaidFields
import LoginGateway.Proofs.VariableValues
import LoginGateway.Proofs.MergedDocuments
import LoginGateway.Proofs.CredentialVariables
import LoginGateway.Proofs.UnmentionedVariables
import LoginGateway.Proofs.CredentialOverrides
import LoginGateway.Proofs.KeyIsolation
import LoginGateway.Proofs.DurationTexts
import LoginGateway.Proofs.SettingsRoundTrip
import LoginGateway.Proofs.ProviderCalls
import LoginGateway.Proofs.CommandWords
import LoginGateway.Proofs.CheckedSettings
import LoginGateway.Proofs.Placeholders
import LoginGateway.Proofs.OrganizationDomain
import LoginGateway.Proofs.EndToEndFields
import LoginGateway.Proofs.Utf8Strictness
import LoginGateway.Proofs.JsonGrammar
import LoginGateway.Proofs.JsonNumbers
import LoginGateway.Proofs.SkippedValues
import LoginGateway.Proofs.ObjectTexts
import LoginGateway.Proofs.ProfileTexts
