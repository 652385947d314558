import TokenSurvey.Binary64.Arithmetic
import TokenSurvey.Binary64.Basic
import TokenSurvey.Command.Invocation
import TokenSurvey.Command.Layering
import TokenSurvey.Command.Options
import TokenSurvey.Command.Survey
import TokenSurvey.Counter.Basic
import TokenSurvey.Counter.Registry
import TokenSurvey.Csv
import TokenSurvey.Decimal.Fixed
import TokenSurvey.Decimal.Shortest
import TokenSurvey.Encoding.Basic
import TokenSurvey.Encoding.Models
import TokenSurvey.Export.Delivery
import TokenSurvey.Fault
import TokenSurvey.Json.Basic
import TokenSurvey.Json.Choice
import TokenSurvey.Json.Float
import TokenSurvey.Json.Lexeme
import TokenSurvey.Json.Printer
import TokenSurvey.Json.Reader
import TokenSurvey.Lorem.Corpus
import TokenSurvey.Lorem.Passage
import TokenSurvey.Main
import TokenSurvey.Plan
import TokenSurvey.Provider
import TokenSurvey.Random.Keystream
import TokenSurvey.Random.Source
import TokenSurvey.Record
import TokenSurvey.Report.Document
import TokenSurvey.Report.Sheet
import TokenSurvey.Report.Table
import TokenSurvey.Report.Timestamp
import TokenSurvey.Rounding
import TokenSurvey.Service.Address
import TokenSurvey.Service.Client
import TokenSurvey.Service.Host
import TokenSurvey.Service.Message
import TokenSurvey.Service.Proxy
import TokenSurvey.Service.Reply
import TokenSurvey.Settings.Basic
import TokenSurvey.Settings.Environment
import TokenSurvey.Settings.File
import TokenSurvey.Settings.Loading
import TokenSurvey.Statistics
import TokenSurvey.Storage.Disk
import TokenSurvey.Storage.Sink
import TokenSurvey.Text.Description
import TokenSurvey.Text.Numeral
import TokenSurvey.Text.Pieces
import TokenSurvey.Text.Quoted
import TokenSurvey.Text.Radix
import TokenSurvey.Text.Utf8
import TokenSurvey.Tokens.Listing
import TokenSurvey.Tokens.Merging
import TokenSurvey.Tokens.Pattern
import TokenSurvey.Tokens.Splitting
import TokenSurvey.Tokens.Tokenizer
import TokenSurvey.Tokens.Vocabulary
import TokenSurvey.Toml.Basic
import TokenSurvey.Toml.Document
import TokenSurvey.Toml.Moment
import TokenSurvey.Toml.Number
import TokenSurvey.Toml.Table
import TokenSurvey.Toml.Text
import TokenSurvey.Toml.Value
import TokenSurvey.Unicode.Class
import TokenSurvey.Unicode.Letter
import TokenSurvey.Unicode.Mark
import TokenSurvey.Unicode.Plain
import TokenSurvey.Unicode.Recent
import TokenSurvey.Unicode.Visible
import TokenSurvey.Proofs.Dialogue
import TokenSurvey.Proofs.Lorem.Batches
import TokenSurvey.Proofs.Plan.Schedule
import TokenSurvey.Proofs.Plan.Measurement
import TokenSurvey.Proofs.Plan.Run
import TokenSurvey.Proofs.Counter.Separation
import TokenSurvey.Proofs.Plan.Turns
import TokenSurvey.Proofs.Counter.Degradation
import TokenSurvey.Proofs.Plan.Summary
import TokenSurvey.Proofs.Counter.Accounting
import TokenSurvey.Proofs.Plan.Isolation
import TokenSurvey.Proofs.Report.Encodings
import TokenSurvey.Proofs.Settings.Layer
import TokenSurvey.Proofs.Command.Layering
import TokenSurvey.Proofs.Text.Utf8
import TokenSurvey.Proofs.Csv.Reading
import TokenSurvey.Proofs.Export.Rendering
import TokenSurvey.Proofs.Report.Sheet
import TokenSurvey.Proofs.Json.Grammar
import TokenSurvey.Proofs.Json.Numeral
import TokenSurvey.Proofs.Json.Quotation
import TokenSurvey.Proofs.Json.Scanning
import TokenSurvey.Proofs.Json.Parsing
import TokenSurvey.Proofs.Json.RoundTrip
import TokenSurvey.Proofs.Report.Document
import TokenSurvey.Proofs.Storage.Room
import TokenSurvey.Proofs.Export.Outcome
import TokenSurvey.Proofs.Command.Invocation
import TokenSurvey.Proofs.Storage.Files
import TokenSurvey.Proofs.Command.Exports
import TokenSurvey.Proofs.Counter.Secrecy
import TokenSurvey.Proofs.Command.Secrecy
import TokenSurvey.Proofs.Lorem.Words
import TokenSurvey.Proofs.Tokens.Matching
import TokenSurvey.Proofs.Tokens.Splitting
import TokenSurvey.Proofs.Tokens.Merging
import TokenSurvey.Proofs.Tokens.Tokenizer
import TokenSurvey.Proofs.Encoding.Bounds
import TokenSurvey.Proofs.Lorem.Bytes
import TokenSurvey.Proofs.Plan.Bounds
import TokenSurvey.Proofs.Service.Requests
import TokenSurvey.Proofs.Service.Replies
import TokenSurvey.Proofs.Plan.Requests
import TokenSurvey.Proofs.Random.Outputs
import TokenSurvey.Proofs.Lorem.Language
import TokenSurvey.Proofs.Lorem.History
import TokenSurvey.Proofs.Statistics.Order
import TokenSurvey.Proofs.Rounding
import TokenSurvey.Proofs.Binary64.Places
import TokenSurvey.Proofs.Binary64.Rounding
import TokenSurvey.Proofs.Statistics.Percentiles
import TokenSurvey.Proofs.Text.Numeral
import TokenSurvey.Proofs.Text.Pieces
import TokenSurvey.Proofs.Settings.Environment
import TokenSurvey.Proofs.Toml.Proper
import TokenSurvey.Proofs.Settings.Decoding
import TokenSurvey.Proofs.Report.Table
import TokenSurvey.Proofs.Binary64.Spans
import TokenSurvey.Proofs.Binary64.Operations
import TokenSurvey.Proofs.Binary64.Sums
import TokenSurvey.Proofs.Binary64.Nearest
import TokenSurvey.Proofs.Statistics.Exactness
import TokenSurvey.Proofs.Statistics.Finiteness
import TokenSurvey.Proofs.Statistics.Doubling
import TokenSurvey.Proofs.Encoding.Resolution
import TokenSurvey.Proofs.Random.Shares
import TokenSurvey.Proofs.Random.Grants
import TokenSurvey.Proofs.Lorem.Phrase
import TokenSurvey.Proofs.Lorem.Loop
import TokenSurvey.Proofs.Lorem.Ending
import TokenSurvey.Proofs.Lorem.Uniformity
import TokenSurvey.Proofs.Decimal.Fixed
