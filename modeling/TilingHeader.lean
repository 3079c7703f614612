import TilingHeader.Command.Arguments
import TilingHeader.Command.Display
import TilingHeader.Command.Ending
import TilingHeader.Command.Snapshot
import TilingHeader.Command.Verbosity
import TilingHeader.Description
import TilingHeader.Discovery
import TilingHeader.Generation
import TilingHeader.Main
import TilingHeader.Proofs.Command.Execution
import TilingHeader.Proofs.Description.Arguments
import TilingHeader.Proofs.Description.Concatenation
import TilingHeader.Proofs.Description.Diagnosis
import TilingHeader.Proofs.Description.Grammar
import TilingHeader.Proofs.Description.Reformatting
import TilingHeader.Proofs.Directive.Keywords
import TilingHeader.Proofs.Directive.Printing
import TilingHeader.Proofs.Generation.Isolation
import TilingHeader.Proofs.Generation.Packing
import TilingHeader.Proofs.Generation.Regeneration
import TilingHeader.Proofs.Generation.Reproducibility
import TilingHeader.Proofs.Generation.Succession
import TilingHeader.Proofs.Layout.Decoding
import TilingHeader.Proofs.Layout.Reconstruction
import TilingHeader.Proofs.Settings.Loading
import TilingHeader.Settings.Load
