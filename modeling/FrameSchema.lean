import FrameSchema.Codec
import FrameSchema.Main
import FrameSchema.Proofs.Bindings.Decoders
import FrameSchema.Proofs.Bindings.DefaultLiterals
import FrameSchema.Proofs.Bindings.Encoders
import FrameSchema.Proofs.Bindings.Extraction
import FrameSchema.Proofs.Bindings.FieldLists
import FrameSchema.Proofs.Bindings.Labels
import FrameSchema.Proofs.Bindings.PrintedFunctions
import FrameSchema.Proofs.Codec.Dispatch
import FrameSchema.Proofs.Codec.EncodeOutcome
import FrameSchema.Proofs.Codec.Normalization
import FrameSchema.Proofs.Codec.RoundTrip
import FrameSchema.Proofs.CommandLine.Modes
import FrameSchema.Proofs.IdentifierForms
import FrameSchema.Proofs.IdentifierSyntax
import FrameSchema.Proofs.Schema.Acceptance
import FrameSchema.Proofs.Schema.Documents
import FrameSchema.Proofs.Schema.KeptDefaults
import FrameSchema.Proofs.Text.Quoted
import FrameSchema.Proofs.Wire.BitRuns
import FrameSchema.Proofs.Wire.Buffer
import FrameSchema.Proofs.Wire.CanonicalTables
import FrameSchema.Proofs.Wire.Cursor
import FrameSchema.Proofs.Wire.DepthLimit
import FrameSchema.Proofs.Wire.FlagLayout
import FrameSchema.Proofs.Wire.SelfDelimiting
import FrameSchema.Proofs.Wire.SlicedTables
