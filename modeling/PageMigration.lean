import PageMigration.Calendar.Date
import PageMigration.Calendar.Instant
import PageMigration.Catalog.Entry
import PageMigration.Catalog.Library
import PageMigration.Catalog.Lookups
import PageMigration.Catalog.Manual
import PageMigration.Catalog.Output
import PageMigration.Catalog.PageFields
import PageMigration.Catalog.Parts
import PageMigration.Catalog.Values
import PageMigration.Chars.Blank
import PageMigration.Chars.Case
import PageMigration.Chars.Fold
import PageMigration.Chars.Lowercase
import PageMigration.Chars.Pattern
import PageMigration.Chars.Ranges
import PageMigration.Chars.Search
import PageMigration.Chars.Word
import PageMigration.Command.Arguments
import PageMigration.Command.Disk
import PageMigration.Command.Failure
import PageMigration.Command.Program
import PageMigration.Command.Report
import PageMigration.Command.Request
import PageMigration.Csv.Reader
import PageMigration.Encoding.Percent
import PageMigration.Encoding.Utf8
import PageMigration.Expression.Chain
import PageMigration.Expression.Literal
import PageMigration.Expression.Parser
import PageMigration.Html.Builder
import PageMigration.Html.Escape
import PageMigration.Html.Inspect
import PageMigration.Html.NamedCharacter
import PageMigration.Html.RichText
import PageMigration.Html.Rules
import PageMigration.Html.Token
import PageMigration.Html.Tree
import PageMigration.Json.Basic
import PageMigration.Json.Number
import PageMigration.Json.Printer
import PageMigration.Json.Reader
import PageMigration.Json.Record
import PageMigration.Main
import PageMigration.Mapping.File
import PageMigration.Number.Digits
import PageMigration.Number.Double
import PageMigration.Proofs.Calendar.InternetForm
import PageMigration.Proofs.Catalog.Agreement
import PageMigration.Proofs.Catalog.Authors
import PageMigration.Proofs.Catalog.DetectedViews
import PageMigration.Proofs.Catalog.LinkHosts
import PageMigration.Proofs.Catalog.ListPaths
import PageMigration.Proofs.Catalog.PageLinks
import PageMigration.Proofs.Catalog.ParameterTypes
import PageMigration.Proofs.Catalog.PreviewImages
import PageMigration.Proofs.Catalog.Refusal
import PageMigration.Proofs.Catalog.TrailingSlashes
import PageMigration.Proofs.Chars.Folding
import PageMigration.Proofs.Chars.Pattern
import PageMigration.Proofs.Chars.Separators
import PageMigration.Proofs.Encoding.ByteOrder
import PageMigration.Proofs.Encoding.LetterCase
import PageMigration.Proofs.Encoding.PlainEnd
import PageMigration.Proofs.Expression.Binding
import PageMigration.Proofs.Expression.ChainCuts
import PageMigration.Proofs.Expression.ChainParts
import PageMigration.Proofs.Expression.ChainPieces
import PageMigration.Proofs.Expression.FaultPlaces
import PageMigration.Proofs.Expression.LeftTokens
import PageMigration.Proofs.Expression.LiteralRanges
import PageMigration.Proofs.Expression.LiteralText
import PageMigration.Proofs.Expression.ProtectedText
import PageMigration.Proofs.Expression.Reading
import PageMigration.Proofs.Expression.SourceParts
import PageMigration.Proofs.Expression.SourceText
import PageMigration.Proofs.Expression.TokenPlaces
import PageMigration.Proofs.Expression.UnitValues
import PageMigration.Proofs.Expression.Verdict
import PageMigration.Proofs.Expression.Written
import PageMigration.Proofs.Html.ClassAttributes
import PageMigration.Proofs.Html.JsonEmbedding
import PageMigration.Proofs.Html.Stripping
import PageMigration.Proofs.Html.TagPatterns
import PageMigration.Proofs.Html.Tags
import PageMigration.Proofs.Json.Normal
import PageMigration.Proofs.Json.NumberText
import PageMigration.Proofs.Json.Path
import PageMigration.Proofs.Json.ReadBack
import PageMigration.Proofs.Json.Spelling
import PageMigration.Proofs.Json.StringText
import PageMigration.Proofs.Number.Digits
import PageMigration.Proofs.Number.Shortest
import PageMigration.Proofs.Rollup.Calls
import PageMigration.Proofs.Rollup.Objects
import PageMigration.Proofs.Run.Answers
import PageMigration.Proofs.Run.CacheHistory
import PageMigration.Proofs.Run.CopyContent
import PageMigration.Proofs.Run.CopyCount
import PageMigration.Proofs.Run.CopyName
import PageMigration.Proofs.Run.FreeName
import PageMigration.Proofs.Run.LinksInPlace
import PageMigration.Proofs.Run.People
import PageMigration.Proofs.Run.Remembered
import PageMigration.Proofs.Run.Steps
import PageMigration.Proofs.Run.TransferOutcome
import PageMigration.Proofs.Run.Transferred
import PageMigration.Proofs.Site.RedirectedLinks
import PageMigration.Proofs.Site.TrailingSlashes
import PageMigration.Proofs.Site.ViewMatch
import PageMigration.Proofs.Transform.Agreement
import PageMigration.Proofs.Transform.ChainSequence
import PageMigration.Proofs.Transform.Composition
import PageMigration.Proofs.Transform.DeclaredTypes
import PageMigration.Proofs.Transform.FailedLookups
import PageMigration.Proofs.Transform.Failure
import PageMigration.Proofs.Transform.FieldChains
import PageMigration.Proofs.Transform.FieldResults
import PageMigration.Proofs.Transform.Growth
import PageMigration.Proofs.Transform.Independence
import PageMigration.Proofs.Transform.KeptValues
import PageMigration.Proofs.Transform.LooseFaults
import PageMigration.Proofs.Transform.Reuse
import PageMigration.Proofs.Transform.Skipping
import PageMigration.Proofs.Transform.Steps
import PageMigration.Proofs.Transform.Walk
import PageMigration.Proofs.Value.TextForm
import PageMigration.Proofs.WebPart.CaselessMap
import PageMigration.Proofs.Xml.Layout
import PageMigration.Proofs.Xml.Likeness
import PageMigration.Record
import PageMigration.Rollup.Channels
import PageMigration.Rollup.HighlightedContent
import PageMigration.Rollup.QuickLinks
import PageMigration.Run.AssetFolder
import PageMigration.Run.Cleanup
import PageMigration.Run.Configuration
import PageMigration.Run.Context
import PageMigration.Run.ListUse
import PageMigration.Run.Lookup
import PageMigration.Run.PageField
import PageMigration.Run.Person
import PageMigration.Run.ReadThrough
import PageMigration.Run.Settings
import PageMigration.Run.Transfer
import PageMigration.Site.Records
import PageMigration.Site.Snapshot
import PageMigration.Site.Source
import PageMigration.Site.UrlMapping
import PageMigration.Site.UserMapping
import PageMigration.Site.ViewMatch
import PageMigration.Site.Web
import PageMigration.Text
import PageMigration.Toml.Basic
import PageMigration.Toml.Document
import PageMigration.Toml.Quoted
import PageMigration.Toml.Scalar
import PageMigration.Toml.Tree
import PageMigration.Transform.Field
import PageMigration.Transform.Part
import PageMigration.Value.Argument
import PageMigration.Value.Guid
import PageMigration.WebPart.Definition
import PageMigration.WebPart.Json
import PageMigration.WebPart.PropertyBag
import PageMigration.WebPart.Unit
import PageMigration.Xml.Likeness
import PageMigration.Xml.Name
import PageMigration.Xml.Node
import PageMigration.Xml.Outline
import PageMigration.Xml.Reference
import PageMigration.Xml.Token
