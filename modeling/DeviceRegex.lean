import DeviceRegex.Charset.Basic
import DeviceRegex.Charset.CaseFolding
import DeviceRegex.Charset.ClassTable
import DeviceRegex.Code.CodeSize
import DeviceRegex.Code.Compiled
import DeviceRegex.Code.Draft
import DeviceRegex.Code.Instruction
import DeviceRegex.Code.Layout
import DeviceRegex.Code.Leaf
import DeviceRegex.CommandLine
import DeviceRegex.Device.Context
import DeviceRegex.Device.Runtime
import DeviceRegex.Device.StatusCheck
import DeviceRegex.Engine
import DeviceRegex.Event
import DeviceRegex.Failure
import DeviceRegex.Flags
import DeviceRegex.Json.StringLiteral
import DeviceRegex.Json.Value
import DeviceRegex.Main
import DeviceRegex.Pattern.BracketSet
import DeviceRegex.Pattern.EscapeSequence
import DeviceRegex.Pattern.Node
import DeviceRegex.Pattern.Parse
import DeviceRegex.Pattern.Quantifier
import DeviceRegex.Pattern.SyntaxError
import DeviceRegex.Program.Basic
import DeviceRegex.Program.FlagsText
import DeviceRegex.Program.Info
import DeviceRegex.Program.InfoText
import DeviceRegex.Program.Listing
import DeviceRegex.Program.Slots
import DeviceRegex.Program.WorkingMemory
import DeviceRegex.Proofs.Charset.Folding
import DeviceRegex.Proofs.Charset.Interning
import DeviceRegex.Proofs.Charset.SetText
import DeviceRegex.Proofs.Code.Acceptance
import DeviceRegex.Proofs.Code.Budget
import DeviceRegex.Proofs.Code.CaptureMode
import DeviceRegex.Proofs.Code.CaseSymmetry
import DeviceRegex.Proofs.Code.ClassText
import DeviceRegex.Proofs.Code.Classes
import DeviceRegex.Proofs.Code.CodeLength
import DeviceRegex.Proofs.Code.Drafting
import DeviceRegex.Proofs.Code.FlagChoice
import DeviceRegex.Proofs.Code.GroupMarkers
import DeviceRegex.Proofs.Code.InstructionText
import DeviceRegex.Proofs.Code.LeafCode
import DeviceRegex.Proofs.Code.Meaning
import DeviceRegex.Proofs.Code.Operands
import DeviceRegex.Proofs.Code.Origin
import DeviceRegex.Proofs.Code.PatchLoops
import DeviceRegex.Proofs.Code.Placement
import DeviceRegex.Proofs.Code.Relocation
import DeviceRegex.Proofs.Code.Run
import DeviceRegex.Proofs.Code.Trace
import DeviceRegex.Proofs.Code.Unrolling
import DeviceRegex.Proofs.Code.WellFormed
import DeviceRegex.Proofs.Code.WordFields
import DeviceRegex.Proofs.Device.DoubleCheck
import DeviceRegex.Proofs.Device.Latch
import DeviceRegex.Proofs.Json.Object
import DeviceRegex.Proofs.Json.Scalar
import DeviceRegex.Proofs.Pattern.Accepted
import DeviceRegex.Proofs.Pattern.Composition
import DeviceRegex.Proofs.Pattern.CountedOutcome
import DeviceRegex.Proofs.Pattern.CountedQuantifier
import DeviceRegex.Proofs.Pattern.FaultPlaces
import DeviceRegex.Proofs.Pattern.Grammar
import DeviceRegex.Proofs.Pattern.LeadingBracket
import DeviceRegex.Proofs.Pattern.Lookahead
import DeviceRegex.Proofs.Pattern.Normal
import DeviceRegex.Proofs.Pattern.NormalForm
import DeviceRegex.Proofs.Pattern.Parentheses
import DeviceRegex.Proofs.Pattern.Reading
import DeviceRegex.Proofs.Pattern.Rendering
import DeviceRegex.Proofs.Pattern.Renumbering
import DeviceRegex.Proofs.Pattern.RoundTrip
import DeviceRegex.Proofs.Pattern.Spelling
import DeviceRegex.Proofs.Pattern.Steps
import DeviceRegex.Proofs.Pattern.Unnumbered
import DeviceRegex.Proofs.Pattern.Unpaired
import DeviceRegex.Proofs.Pattern.Written
import DeviceRegex.Proofs.Program.Creation
import DeviceRegex.Proofs.Program.DroppedGroups
import DeviceRegex.Proofs.Program.FlagsExchange
import DeviceRegex.Proofs.Program.InfoExchange
import DeviceRegex.Proofs.Program.MemorySlices
import DeviceRegex.Proofs.Program.SlotHistory
import DeviceRegex.Proofs.Text.ReadBack
import DeviceRegex.Proofs.Text.Unescape
import DeviceRegex.Proofs.Unicode.CaseImages
import DeviceRegex.Size
import DeviceRegex.Text.Escape
import DeviceRegex.Text.Numeral
import DeviceRegex.Text.Pieces
import DeviceRegex.Unicode.Alphabetic
import DeviceRegex.Unicode.CaseMapping
import DeviceRegex.Unicode.GraphemeExtend
import DeviceRegex.Unicode.Numeric
import DeviceRegex.Unicode.Printable
import DeviceRegex.Unicode.RangeTable
import DeviceRegex.Unicode.WhiteSpace
