import NewsAnalytics.Catalogue.Category
import NewsAnalytics.Catalogue.Entry
import NewsAnalytics.Catalogue.Field
import NewsAnalytics.Catalogue.Order
import NewsAnalytics.Catalogue.Place
import NewsAnalytics.Client.Basic
import NewsAnalytics.Client.Dispatch
import NewsAnalytics.Client.Event
import NewsAnalytics.Client.Exchange
import NewsAnalytics.Client.Operation
import NewsAnalytics.Decimal.Shortest
import NewsAnalytics.Error
import NewsAnalytics.Filter.Basic
import NewsAnalytics.Filter.Compile
import NewsAnalytics.Json.Failure
import NewsAnalytics.Json.NumberReader
import NewsAnalytics.Json.Reader
import NewsAnalytics.Json.Skip
import NewsAnalytics.Json.StringReader
import NewsAnalytics.Json.Value
import NewsAnalytics.Json.Writer
import NewsAnalytics.Proofs.Catalogue.Lookup
import NewsAnalytics.Proofs.Catalogue.Order
import NewsAnalytics.Proofs.Chain
import NewsAnalytics.Proofs.Client.Dispatch
import NewsAnalytics.Proofs.Client.Echo
import NewsAnalytics.Proofs.Client.Effect
import NewsAnalytics.Proofs.Client.Ending
import NewsAnalytics.Proofs.Client.Excerpt
import NewsAnalytics.Proofs.Client.Invariant
import NewsAnalytics.Proofs.Client.Origin
import NewsAnalytics.Proofs.Client.Outcome
import NewsAnalytics.Proofs.Client.Reachable
import NewsAnalytics.Proofs.Client.Secrecy
import NewsAnalytics.Proofs.Client.SentQuery
import NewsAnalytics.Proofs.Client.Standing
import NewsAnalytics.Proofs.Filter.Compile
import NewsAnalytics.Proofs.Filter.Extension
import NewsAnalytics.Proofs.Filter.Fault
import NewsAnalytics.Proofs.Filter.Format
import NewsAnalytics.Proofs.Filter.Line
import NewsAnalytics.Proofs.Filter.Readable
import NewsAnalytics.Proofs.Json.Fields
import NewsAnalytics.Proofs.Json.NumberReader
import NewsAnalytics.Proofs.Json.Reader
import NewsAnalytics.Proofs.Json.StringReader
import NewsAnalytics.Proofs.Json.Zero
import NewsAnalytics.Proofs.Query.LastWrite
import NewsAnalytics.Proofs.Query.Listing
import NewsAnalytics.Proofs.Query.Normal
import NewsAnalytics.Proofs.Query.Path
import NewsAnalytics.Proofs.Query.Required
import NewsAnalytics.Proofs.Query.Shared
import NewsAnalytics.Proofs.Request.Body
import NewsAnalytics.Proofs.Request.Kept
import NewsAnalytics.Proofs.Request.Segment
import NewsAnalytics.Proofs.Settings.BaseUrl
import NewsAnalytics.Proofs.Text.Boundary
import NewsAnalytics.Proofs.Text.FormDecoding
import NewsAnalytics.Proofs.Text.FormEncoding
import NewsAnalytics.Proofs.Text.Split
import NewsAnalytics.Proofs.Text.Utf8
import NewsAnalytics.Proofs.Text.Words
import NewsAnalytics.Proofs.Url.Authority
import NewsAnalytics.Proofs.Url.Ending
import NewsAnalytics.Proofs.Url.Query
import NewsAnalytics.Proofs.Url.Reader
import NewsAnalytics.Proofs.Url.Reference
import NewsAnalytics.Proofs.Url.Segments
import NewsAnalytics.Query.Articles
import NewsAnalytics.Query.Basic
import NewsAnalytics.Query.Entries
import NewsAnalytics.Query.Instant
import NewsAnalytics.Query.Listing
import NewsAnalytics.Query.Stats
import NewsAnalytics.Request.Basic
import NewsAnalytics.Request.Body
import NewsAnalytics.Request.Segment
import NewsAnalytics.Settings.Basic
import NewsAnalytics.Settings.Reader
import NewsAnalytics.Text.Blank
import NewsAnalytics.Text.FormEncoding
import NewsAnalytics.Text.Glyph
import NewsAnalytics.Text.Hex
import NewsAnalytics.Text.Percent
import NewsAnalytics.Text.Quoted
import NewsAnalytics.Text.Split
import NewsAnalytics.Text.Utf8
import NewsAnalytics.Url.Basic
import NewsAnalytics.Url.Clean
import NewsAnalytics.Url.Excluded
import NewsAnalytics.Url.Host
import NewsAnalytics.Url.Reader
import NewsAnalytics.Url.Segments
