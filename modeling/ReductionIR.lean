import ReductionIR.ElemKind.Spelling
import ReductionIR.Main
import ReductionIR.Proofs.Numbering
import ReductionIR.Proofs.Drafting
import ReductionIR.Proofs.Building
import ReductionIR.Proofs.Atomicity
import ReductionIR.Proofs.Committing
import ReductionIR.Proofs.Frame
import ReductionIR.Proofs.Conversions
import ReductionIR.Proofs.Freshness
import ReductionIR.Proofs.Evaluation
import ReductionIR.Proofs.IntegerArrays
import ReductionIR.Proofs.Reading
import ReductionIR.Proofs.Lowered
import ReductionIR.Proofs.Parts
import ReductionIR.Proofs.Meaning
import ReductionIR.Proofs.Shadowing
import ReductionIR.Proofs.Sorting
import ReductionIR.Proofs.Describing
import ReductionIR.Proofs.Wiring
import ReductionIR.Proofs.Solving
import ReductionIR.Proofs.ModelRuns
import ReductionIR.Proofs.Stepping
import ReductionIR.Proofs.Encoding
import ReductionIR.Proofs.Exportable
import ReductionIR.Proofs.Exporting
import ReductionIR.Proofs.Preservation
import ReductionIR.Proofs.Reasons
import ReductionIR.Proofs.Deciding
import ReductionIR.Proofs.Acceptance
import ReductionIR.Proofs.Unsourced
import ReductionIR.Proofs.Collecting
import ReductionIR.Proofs.Isolation
import ReductionIR.Proofs.Totality
import ReductionIR.Proofs.Closing
import ReductionIR.Proofs.Agreement
import ReductionIR.Proofs.Outputs
import ReductionIR.Proofs.Editing
import ReductionIR.Proofs.Reordering
import ReductionIR.Proofs.Moving
import ReductionIR.Proofs.Shaping
import ReductionIR.Proofs.Soundness
import ReductionIR.Proofs.Regimes
import ReductionIR.Proofs.Readable
import ReductionIR.Proofs.Relowering
import ReductionIR.Proofs.Recording
import ReductionIR.Proofs.Roundtrip
import ReductionIR.Proofs.Broadcasting
import ReductionIR.Proofs.BroadcastSoundness
import ReductionIR.Proofs.StaticAxes
import ReductionIR.Proofs.WrittenNames
import ReductionIR.Proofs.Cycles
import ReductionIR.Proofs.Registering
import ReductionIR.Proofs.Validity
import ReductionIR.Proofs.Issuing
import ReductionIR.Proofs.Spelling
import ReductionIR.Proofs.Fingerprinting
import ReductionIR.Proofs.Importing
import ReductionIR.Proofs.Tagging
import ReductionIR.Proofs.Answering
