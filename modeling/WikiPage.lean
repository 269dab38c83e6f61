import WikiPage.Tree.Node
import WikiPage.Tree.Rewrite
import WikiPage.Unicode.Letters
import WikiPage.Unicode.Symbols
import WikiPage.Unicode.Case
import WikiPage.Markdown.LineShape
import WikiPage.Markdown.RawTag
import WikiPage.Markdown.LinkParts
import WikiPage.Markdown.LineLexer
import WikiPage.Markdown.TableShape
import WikiPage.Markdown.Block
import WikiPage.Markdown.Page
import WikiPage.Markdown.RunningText
import WikiPage.Markdown.Event
import WikiPage.Markdown.Tree
import WikiPage.Error
import WikiPage.Unicode.Digits
import WikiPage.Links.Finder
import WikiPage.Text.Trim
import WikiPage.Text.Slug
import WikiPage.Markup.Writer
import WikiPage.Outline
import WikiPage.Embed
import WikiPage.Shortcode.Marker
import WikiPage.VersionRules
import WikiPage.Shortcode.Expansion
import WikiPage.Shortcode.Standard
import WikiPage.Html.Lexer
import WikiPage.Html.Builder
import WikiPage.Html.Rules
import WikiPage.Address
import WikiPage.Sanitizer
import WikiPage.Config.Settings
import WikiPage.Toml.Document
import WikiPage.Config.Template
import WikiPage.Tree.Datum
import WikiPage.Surroundings
import WikiPage.Config.Load
import WikiPage.Main
import WikiPage.Proofs.Expansion
import WikiPage.Proofs.Pipeline
import WikiPage.Proofs.Standard
import WikiPage.Proofs.Reading
import WikiPage.Proofs.Nesting
import WikiPage.Proofs.Anchors
import WikiPage.Proofs.Frames
import WikiPage.Proofs.Conservation
import WikiPage.Proofs.Fates
import WikiPage.Proofs.ExpansionLevels
import WikiPage.Proofs.NestedBlocks
import WikiPage.Proofs.LinkedMarkers
import WikiPage.Proofs.OwnFrames
import WikiPage.Proofs.Settled
import WikiPage.Proofs.ReadText
import WikiPage.Proofs.NestingFaults
import WikiPage.Proofs.Sections
import WikiPage.Proofs.Videos
import WikiPage.Proofs.RuleCalls
import WikiPage.Proofs.Tags
import WikiPage.Proofs.ByteOrder
import WikiPage.Proofs.InvalidNames
import WikiPage.Proofs.EventOrder
import WikiPage.Proofs.Failures
import WikiPage.Proofs.Spans
import WikiPage.Proofs.LinkLabels
import WikiPage.Proofs.ContainerLevels
import WikiPage.Proofs.OpenBlocks
import WikiPage.Proofs.LinkSpans
import WikiPage.Proofs.Underscores
import WikiPage.Proofs.PlainLines
import WikiPage.Proofs.Patterns
import WikiPage.Proofs.VideoIds
import WikiPage.Proofs.VideoAddresses
import WikiPage.Proofs.PastedVideos
import WikiPage.Proofs.EmbeddedMedia
import WikiPage.Proofs.WrittenMarkers
import WikiPage.Proofs.DotSegments
import WikiPage.Proofs.ResolvedFrames
import WikiPage.Proofs.ParamReadings
import WikiPage.Proofs.Contents
import WikiPage.Proofs.LowerCase
import WikiPage.Proofs.Slugs
import WikiPage.Proofs.BracedReferences
import WikiPage.Proofs.FootnoteNumbers
import WikiPage.Proofs.VersionNotation
import WikiPage.Proofs.UsableShortcodes
import WikiPage.Proofs.LoadedConfigurations
import WikiPage.Proofs.Runs
