import ExprLexer.Files.FileSystem
import ExprLexer.Main
import ExprLexer.Proofs.FirstFault
import ExprLexer.Proofs.LeftmostLongest
import ExprLexer.Proofs.Replays
import ExprLexer.Proofs.Finality
import ExprLexer.Proofs.Separation
import ExprLexer.Proofs.RoundTrip
import ExprLexer.Proofs.Composition
import ExprLexer.Proofs.Stops
import ExprLexer.Proofs.Draining
import ExprLexer.Proofs.Unread
import ExprLexer.Proofs.Quoting
import ExprLexer.Proofs.Decimals
import ExprLexer.Proofs.PlainRows
import ExprLexer.Proofs.JsonScalars
import ExprLexer.Proofs.JsonReading
import ExprLexer.Proofs.Records
import ExprLexer.Proofs.Carets
import ExprLexer.Proofs.Indexing
import ExprLexer.Proofs.SourceLines
import ExprLexer.Proofs.HostRuns
import ExprLexer.Proofs.FileChanges
import ExprLexer.Proofs.SelectedSettings
import ExprLexer.Proofs.AllOrNothing
import ExprLexer.Proofs.Progress
import ExprLexer.Proofs.NumberValues
import ExprLexer.Proofs.DocumentText
import ExprLexer.Proofs.SavedSettings
import ExprLexer.Proofs.DocumentKeys
import ExprLexer.Proofs.TextEnds
import ExprLexer.Proofs.Comments
import ExprLexer.Proofs.CommentedRows
import ExprLexer.Proofs.LoadedSettings
import ExprLexer.Proofs.ArgumentRows
import ExprLexer.Proofs.FirstTokens
import ExprLexer.Proofs.TextSources
import ExprLexer.Proofs.CursorScans
import ExprLexer.Proofs.Printing
