import RegisterMap.Command.Request
import RegisterMap.Command.Run
import RegisterMap.Command.Words
import RegisterMap.Device.Access
import RegisterMap.Device.Alike
import RegisterMap.Device.Basic
import RegisterMap.Device.Edit
import RegisterMap.Device.Interrupts
import RegisterMap.Device.Last
import RegisterMap.Device.Mask
import RegisterMap.Document.Attribute
import RegisterMap.Document.DerivedFrom
import RegisterMap.Document.Element
import RegisterMap.Document.Fault
import RegisterMap.Document.Place
import RegisterMap.Document.Reader
import RegisterMap.Document.Reading
import RegisterMap.Document.Settings
import RegisterMap.Document.Source
import RegisterMap.Document.Tag
import RegisterMap.Files.Path
import RegisterMap.Files.Tree
import RegisterMap.Json.Printer
import RegisterMap.Json.Reader
import RegisterMap.Main
import RegisterMap.Notice
import RegisterMap.Numeral.Binary64
import RegisterMap.Numeral.Digits
import RegisterMap.Numeral.Shortest
import RegisterMap.Numeral.Word
import RegisterMap.Outline
import RegisterMap.Proofs.Accessors
import RegisterMap.Proofs.Acts
import RegisterMap.Proofs.AddressBlock
import RegisterMap.Proofs.AnySettings
import RegisterMap.Proofs.Attributes
import RegisterMap.Proofs.BaseAddress
import RegisterMap.Proofs.Canonical.Places
import RegisterMap.Proofs.Canonical.Reads
import RegisterMap.Proofs.Canonical.RoundTrip
import RegisterMap.Proofs.Canonical.Tags
import RegisterMap.Proofs.Canonical.Writing
import RegisterMap.Proofs.Command.AllOrNothing
import RegisterMap.Proofs.Command.Options
import RegisterMap.Proofs.Command.Plain
import RegisterMap.Proofs.Commuting
import RegisterMap.Proofs.DanglingBase
import RegisterMap.Proofs.Defaults
import RegisterMap.Proofs.Derivation
import RegisterMap.Proofs.DerivedFrom
import RegisterMap.Proofs.EnumeratedValues
import RegisterMap.Proofs.FieldAccess
import RegisterMap.Proofs.FieldSetter
import RegisterMap.Proofs.FirstInterrupt
import RegisterMap.Proofs.Fitting
import RegisterMap.Proofs.Frozen
import RegisterMap.Proofs.Hierarchy
import RegisterMap.Proofs.Insertion
import RegisterMap.Proofs.InterruptTable
import RegisterMap.Proofs.LeftmostBase
import RegisterMap.Proofs.Names
import RegisterMap.Proofs.Numeral.Grammar
import RegisterMap.Proofs.Numeral.Positional
import RegisterMap.Proofs.Outline.Merging
import RegisterMap.Proofs.Outline.Objects
import RegisterMap.Proofs.Outline.Repeated
import RegisterMap.Proofs.Outline.Telling
import RegisterMap.Proofs.Overlong
import RegisterMap.Proofs.Reader.Counterpart
import RegisterMap.Proofs.Reader.Effect
import RegisterMap.Proofs.Reader.Endings
import RegisterMap.Proofs.Reader.Frame
import RegisterMap.Proofs.Reader.Growth
import RegisterMap.Proofs.Reader.Housed
import RegisterMap.Proofs.Reader.Provenance
import RegisterMap.Proofs.Reader.Renumber
import RegisterMap.Proofs.Reader.Run
import RegisterMap.Proofs.Reader.Saying
import RegisterMap.Proofs.Reader.Segment
import RegisterMap.Proofs.Reader.SideBySide
import RegisterMap.Proofs.Reader.Touch
import RegisterMap.Proofs.Reader.Vocabulary
import RegisterMap.Proofs.Rendering
import RegisterMap.Proofs.Resumed
import RegisterMap.Proofs.Selecting
import RegisterMap.Proofs.SelfClosing
import RegisterMap.Proofs.SourceFile
import RegisterMap.Proofs.Text.Blanks
import RegisterMap.Proofs.Text.LineEnds
import RegisterMap.Proofs.Text.Utf8
import RegisterMap.Proofs.UnbrokenLines
import RegisterMap.Proofs.WholeElement
import RegisterMap.Proofs.WriteMask
import RegisterMap.Proofs.WrittenTag
import RegisterMap.Proofs.Zig.Characters
import RegisterMap.Proofs.Zig.HexLiterals
import RegisterMap.Proofs.Zig.InterruptConstants
import RegisterMap.Proofs.Zig.Sections
import RegisterMap.Proofs.Zig.StringLiterals
import RegisterMap.Report
import RegisterMap.Selection
import RegisterMap.Sorting.Merge
import RegisterMap.Sorting.Runs
import RegisterMap.Sorting.Search
import RegisterMap.Text.Basic
import RegisterMap.Text.Blank
import RegisterMap.Text.DecimalDigit
import RegisterMap.Text.Fold
import RegisterMap.Text.Lines
import RegisterMap.Text.Printable
import RegisterMap.Text.Quoted
import RegisterMap.Text.Ranges
import RegisterMap.Text.Utf8
import RegisterMap.Text.WordChar
import RegisterMap.Toml
import RegisterMap.Value.Alike
import RegisterMap.Value.Basic
import RegisterMap.Value.Display
import RegisterMap.Value.Members
import RegisterMap.Value.Misfit
import RegisterMap.Value.Order
import RegisterMap.Zig.Declaration
import RegisterMap.Zig.Literal
import RegisterMap.Zig.Rendering
