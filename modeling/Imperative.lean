import Imperative.Completion
import Imperative.Main
import Imperative.Proofs.Text.Trim
import Imperative.Proofs.Text.Pieces
import Imperative.Proofs.Text.Words
import Imperative.Proofs.Text.Tokens
import Imperative.Proofs.Segments
import Imperative.Proofs.Splitting
import Imperative.Proofs.Text.CaseData
import Imperative.Proofs.Text.Lower
import Imperative.Proofs.Text.Ascii
import Imperative.Proofs.Text.Keyword
import Imperative.Proofs.Composition
import Imperative.Proofs.Normalization
import Imperative.Proofs.Reading
import Imperative.Proofs.Report
import Imperative.Proofs.Text.Places
import Imperative.Proofs.Highlighting
import Imperative.Proofs.Phrase
import Imperative.Proofs.Accounting
import Imperative.Proofs.Conversation
import Imperative.Proofs.Evaluation
import Imperative.Proofs.Batch
import Imperative.Proofs.Lexicon.Entries
import Imperative.Proofs.Lexicon.Definition
import Imperative.Proofs.Lexicon.Reach
import Imperative.Proofs.Lexicon.Extension
import Imperative.Proofs.Lexicon.Relevance
import Imperative.Proofs.Lexicon.Building
import Imperative.Proofs.Rejoining
import Imperative.Proofs.Progress
import Imperative.Proofs.ExitCode
import Imperative.Proofs.Truncation
import Imperative.Proofs.Meaning
import Imperative.Proofs.Completion.LastToken
import Imperative.Proofs.Completion.CaseFolding
import Imperative.Proofs.Painting
import Imperative.Proofs.Lexicon.Conflicts
import Imperative.Proofs.Keywords
import Imperative.Proofs.Arguments
import Imperative.Proofs.Description
import Imperative.Proofs.Text.Boundaries
import Imperative.Proofs.Slicing
