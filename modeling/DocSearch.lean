import DocSearch.CommandLine.Program
import DocSearch.Corpus.Store
import DocSearch.Http.Wire
import DocSearch.Main
import DocSearch.Proofs.Chunks
import DocSearch.Proofs.Meaning
import DocSearch.Proofs.Numbers
import DocSearch.Proofs.Sorting
import DocSearch.Proofs.Pages
import DocSearch.Proofs.Scan
import DocSearch.Proofs.Answers
import DocSearch.Proofs.Sets
import DocSearch.Proofs.RoundTrips
import DocSearch.Proofs.Aggregates
import DocSearch.Proofs.Calls
import DocSearch.Proofs.Shape
import DocSearch.Proofs.Selection
import DocSearch.Proofs.Cancellation
import DocSearch.Proofs.Placement
import DocSearch.Proofs.KnownFields
import DocSearch.Proofs.Wording
import DocSearch.Proofs.Messages
import DocSearch.Proofs.Records
import DocSearch.Proofs.Requirements
import DocSearch.Proofs.Narrowing
import DocSearch.Proofs.PageRequests
import DocSearch.Proofs.Addresses
import DocSearch.Proofs.ClauseGrammar
import DocSearch.Proofs.Days
import DocSearch.Proofs.Dates
import DocSearch.Proofs.FloatTexts
import DocSearch.Proofs.DataTexts
import DocSearch.Proofs.BulkLines
import DocSearch.Proofs.RemoteAnswers
import DocSearch.Proofs.Mappings
import DocSearch.Proofs.Statements
import DocSearch.Proofs.Tilings
