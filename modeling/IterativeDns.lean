import IterativeDns.Address.IPv4
import IterativeDns.Address.IPv6
import IterativeDns.Address.IpAddress
import IterativeDns.Cache
import IterativeDns.CommandLine
import IterativeDns.Config
import IterativeDns.Config.File
import IterativeDns.FileTree
import IterativeDns.Flags
import IterativeDns.Header
import IterativeDns.Main
import IterativeDns.Message
import IterativeDns.Name.Basic
import IterativeDns.Name.Compression
import IterativeDns.Name.Label
import IterativeDns.Question
import IterativeDns.Record.Basic
import IterativeDns.Record.Data
import IterativeDns.RecordType
import IterativeDns.Resolution.Dialogue
import IterativeDns.Resolution.Error
import IterativeDns.Resolution.Resolver
import IterativeDns.Resolution.Script
import IterativeDns.Resolution.Trace
import IterativeDns.Resolution.Verdict
import IterativeDns.ResponseCode
import IterativeDns.Shell.Command
import IterativeDns.Shell.Report
import IterativeDns.Shell.Session
import IterativeDns.Text.Blank
import IterativeDns.Text.Lines
import IterativeDns.Text.Numeral
import IterativeDns.Text.Padding
import IterativeDns.Text.Printable
import IterativeDns.Text.Quoted
import IterativeDns.Text.Split
import IterativeDns.Toml.Document
import IterativeDns.Toml.Numbers
import IterativeDns.Toml.Strings
import IterativeDns.Toml.Tree
import IterativeDns.Wire.Error
import IterativeDns.Wire.Octets
import IterativeDns.Wire.Reader
import IterativeDns.Proofs.History
import IterativeDns.Proofs.Outcomes
import IterativeDns.Proofs.Decoding
import IterativeDns.Proofs.Invariant
import IterativeDns.Proofs.Recollection
import IterativeDns.Proofs.Lifetime
import IterativeDns.Proofs.Evidence
import IterativeDns.Proofs.Soundness
import IterativeDns.Proofs.NameText
import IterativeDns.Proofs.Decompression
import IterativeDns.Proofs.Reading
import IterativeDns.Proofs.Records
import IterativeDns.Proofs.RoundTrip
import IterativeDns.Proofs.Reencoding
import IterativeDns.Proofs.Nesting
import IterativeDns.Proofs.Limits
import IterativeDns.Proofs.Replies
import IterativeDns.Proofs.OwnQuestion
import IterativeDns.Proofs.Course
import IterativeDns.Proofs.Unfolding
import IterativeDns.Proofs.Moments
import IterativeDns.Proofs.Absorption
import IterativeDns.Proofs.EmptyAnswers
import IterativeDns.Proofs.Exhaustion
import IterativeDns.Proofs.Repetition
import IterativeDns.Proofs.Insertions
import IterativeDns.Proofs.Composition
import IterativeDns.Proofs.Justification
import IterativeDns.Proofs.Reports
import IterativeDns.Proofs.Sessions
import IterativeDns.Proofs.Conduct
import IterativeDns.Proofs.Contacts
import IterativeDns.Proofs.Failover
import IterativeDns.Proofs.GluelessDelegation
import IterativeDns.Proofs.Ceilings
import IterativeDns.Proofs.CompleteAnswers
import IterativeDns.Proofs.Truncation
import IterativeDns.Proofs.WireForm
import IterativeDns.Proofs.LetterCase
import IterativeDns.Proofs.Operations
import IterativeDns.Proofs.Words
import IterativeDns.Proofs.Commands
import IterativeDns.Proofs.Layout
import IterativeDns.Proofs.Dumps
import IterativeDns.Proofs.DumpOrder
