import VCalendar.Main
import VCalendar.Proofs.Cli.LogLevel
import VCalendar.Proofs.Document.Encoding
import VCalendar.Proofs.Document.Navigation
import VCalendar.Proofs.Document.Outline
import VCalendar.Proofs.Document.Preorder
import VCalendar.Proofs.Document.RoundTrip
import VCalendar.Proofs.Document.Unrolling
import VCalendar.Proofs.Line.ByteLines
import VCalendar.Proofs.Line.Escaping
import VCalendar.Proofs.Line.Folding
import VCalendar.Proofs.Logging.Runs
import VCalendar.Proofs.Nesting.Recovery
import VCalendar.Proofs.Nesting.Strict
import VCalendar.Proofs.Settings.Coercion
import VCalendar.Proofs.Settings.Stability
import VCalendar.Proofs.Summary.Blocks
import VCalendar.Proofs.Summary.Lookup
import VCalendar.Proofs.Summary.Precedence
import VCalendar.Proofs.Summary.Reading
import VCalendar.Proofs.Time.Compact
import VCalendar.Proofs.Time.Duration
import VCalendar.Proofs.Time.Elapsed
import VCalendar.Proofs.Time.ZoneNames
