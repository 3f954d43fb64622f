import AcmeClient.Assoc
import AcmeClient.Base64
import AcmeClient.Bytes
import AcmeClient.Calendar
import AcmeClient.Client.Account
import AcmeClient.Client.Request
import AcmeClient.Client.World
import AcmeClient.CommandLine.Grammar
import AcmeClient.CommandLine.Invocation
import AcmeClient.CommandLine.Run
import AcmeClient.Crypto.P256
import AcmeClient.Crypto.Sha256
import AcmeClient.Datum
import AcmeClient.Envelope
import AcmeClient.Fault
import AcmeClient.FileTree.Basic
import AcmeClient.FileTree.Location
import AcmeClient.Http.Exchange
import AcmeClient.Http.Response
import AcmeClient.Json.Reader
import AcmeClient.Json.Value
import AcmeClient.Json.Writer
import AcmeClient.Key.Account
import AcmeClient.Key.Der
import AcmeClient.Key.File
import AcmeClient.Key.Pem
import AcmeClient.Logging.Formatter
import AcmeClient.Logging.Logger
import AcmeClient.Logging.Record
import AcmeClient.Logging.Redaction
import AcmeClient.Logging.Template
import AcmeClient.Main
import AcmeClient.Number.Binary64
import AcmeClient.Number.Decimal
import AcmeClient.Number.Numeral
import AcmeClient.Problem
import AcmeClient.Proofs.Agreement
import AcmeClient.Proofs.Base64
import AcmeClient.Proofs.Base64.UrlText
import AcmeClient.Proofs.Bytes
import AcmeClient.Proofs.Client.AccountKey
import AcmeClient.Proofs.Client.CertificateLookup
import AcmeClient.Proofs.Client.Concurrency
import AcmeClient.Proofs.Client.Course
import AcmeClient.Proofs.Client.Creation
import AcmeClient.Proofs.Client.Defects
import AcmeClient.Proofs.Client.FirstUse
import AcmeClient.Proofs.Client.KeptKey
import AcmeClient.Proofs.Client.OrderCall
import AcmeClient.Proofs.Client.Outcome
import AcmeClient.Proofs.Client.Posts
import AcmeClient.Proofs.Client.Recovery
import AcmeClient.Proofs.Client.Replies
import AcmeClient.Proofs.Client.Request
import AcmeClient.Proofs.Client.Retries
import AcmeClient.Proofs.Client.Sealed
import AcmeClient.Proofs.Client.Secrecy
import AcmeClient.Proofs.Client.Session
import AcmeClient.Proofs.Client.TwoRuns
import AcmeClient.Proofs.CommandLine.Confidentiality
import AcmeClient.Proofs.CommandLine.Endings
import AcmeClient.Proofs.CommandLine.Options
import AcmeClient.Proofs.CommandLine.Output
import AcmeClient.Proofs.CommandLine.Registration
import AcmeClient.Proofs.Envelope
import AcmeClient.Proofs.Envelope.Contents
import AcmeClient.Proofs.FileTree
import AcmeClient.Proofs.FileTree.Access
import AcmeClient.Proofs.FileTree.Steps
import AcmeClient.Proofs.FileTree.Veiled
import AcmeClient.Proofs.Http.Body
import AcmeClient.Proofs.Http.Exchange
import AcmeClient.Proofs.Http.HeaderLookup
import AcmeClient.Proofs.Http.Rejection
import AcmeClient.Proofs.Json.Documents
import AcmeClient.Proofs.Json.Grammar
import AcmeClient.Proofs.Json.Limits
import AcmeClient.Proofs.Json.Members
import AcmeClient.Proofs.Json.Numerals
import AcmeClient.Proofs.Json.Reading
import AcmeClient.Proofs.Json.RoundTrip
import AcmeClient.Proofs.Json.Soundness
import AcmeClient.Proofs.Json.Standard
import AcmeClient.Proofs.Json.Strings
import AcmeClient.Proofs.Key.Der
import AcmeClient.Proofs.Key.File
import AcmeClient.Proofs.Key.FixedWidth
import AcmeClient.Proofs.Key.Pem
import AcmeClient.Proofs.Logging.Exactness
import AcmeClient.Proofs.Logging.JsonLine
import AcmeClient.Proofs.Logging.Levels
import AcmeClient.Proofs.Logging.Redaction
import AcmeClient.Proofs.Number.Decimal
import AcmeClient.Proofs.Number.Digits
import AcmeClient.Proofs.Number.Rounding
import AcmeClient.Proofs.Number.Shortest
import AcmeClient.Proofs.Problem
import AcmeClient.Proofs.Problem.NormalForm
import AcmeClient.Proofs.Resource.Decoding
import AcmeClient.Proofs.Resource.DirectoryDocuments
import AcmeClient.Proofs.Resource.OrderDocuments
import AcmeClient.Proofs.Settings
import AcmeClient.Proofs.Settings.File
import AcmeClient.Proofs.Settings.Values
import AcmeClient.Proofs.Storage.Directory
import AcmeClient.Proofs.Storage.Entries
import AcmeClient.Proofs.Storage.Isolation
import AcmeClient.Proofs.Storage.Modes
import AcmeClient.Proofs.Storage.NameLimit
import AcmeClient.Proofs.Storage.Realm
import AcmeClient.Proofs.Storage.Veiled
import AcmeClient.Proofs.Text.Recasing
import AcmeClient.Proofs.Text.Utf8
import AcmeClient.Resource.Account
import AcmeClient.Resource.Basic
import AcmeClient.Resource.Directory
import AcmeClient.Resource.Order
import AcmeClient.Settings.Basic
import AcmeClient.Settings.File
import AcmeClient.Storage.Basic
import AcmeClient.Storage.Key
import AcmeClient.Text.CaseTable
import AcmeClient.Text.Encoding
import AcmeClient.Text.LetterCase
import AcmeClient.Text.Printable
import AcmeClient.Text.Quoted
import AcmeClient.Text.Space
import AcmeClient.Text.Utf8
import AcmeClient.Yaml.Node
import AcmeClient.Yaml.Resolution
import AcmeClient.Yaml.Token
import AcmeClient.Yaml.Token.Lexer
import AcmeClient.Yaml.Value
