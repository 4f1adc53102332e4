import Packrat.Text.Property
import Packrat.Text.Script
import Packrat.Text.CaseFold
import Packrat.Text.Quoted
import Packrat.Text.Offset
import Packrat.Value
import Packrat.ParseError
import Packrat.Pattern.Class
import Packrat.Pattern.ByteRange
import Packrat.Pattern.Normal
import Packrat.Pattern.Storage
import Packrat.Pattern.Reader
import Packrat.Pattern.Thread
import Packrat.Lexeme
import Packrat.Language
import Packrat.Json.Writer
import Packrat.Yaml.Writer
import Packrat.Recipe
import Packrat.Snapshot
import Packrat.Expect
import Packrat.Error
import Packrat.File.Grammar
import Packrat.File.Json
import Packrat.File.Directory
import Packrat.Main
import Packrat.Proofs.Growth
import Packrat.Proofs.Lockstep
import Packrat.Proofs.Invocation
import Packrat.Proofs.Depth
import Packrat.Proofs.Isolation
import Packrat.Proofs.Framing
import Packrat.Proofs.Plain
import Packrat.Proofs.Replay
import Packrat.Proofs.Transparency
import Packrat.Proofs.Derivation
import Packrat.Proofs.Regime
import Packrat.Proofs.Soundness
import Packrat.Proofs.Canonical
import Packrat.Proofs.Nesting
import Packrat.Proofs.Segmentation
import Packrat.Proofs.Rebuild
import Packrat.Proofs.Layout
import Packrat.Proofs.Location
import Packrat.Proofs.Addressing
import Packrat.Proofs.Pointing
import Packrat.Proofs.Failing
import Packrat.Proofs.Selection
import Packrat.Proofs.JsonText
import Packrat.Proofs.JsonPieces
import Packrat.Proofs.JsonValue
import Packrat.Proofs.JsonFile
import Packrat.Proofs.Upkeep
import Packrat.Proofs.Chronicle
import Packrat.Proofs.Indexing
import Packrat.Proofs.Fold
import Packrat.Proofs.Repetition
import Packrat.Proofs.Membership
import Packrat.Proofs.Search
import Packrat.Proofs.Closing.Reading
import Packrat.Proofs.Closing.Escape
import Packrat.Proofs.Closing.Set
import Packrat.Proofs.Closing
import Packrat.Proofs.Anchoring
import Packrat.Proofs.Keyword
import Packrat.Proofs.Ending
import Packrat.Proofs.Grouping
