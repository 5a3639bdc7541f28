import SecurityMarking.Main
import SecurityMarking.Comparison
import SecurityMarking.Scenario.Run
import SecurityMarking.Proofs.Registry.PrefixQuestions
import SecurityMarking.Proofs.Sci.Rendering
import SecurityMarking.Proofs.Sci.Canonical
import SecurityMarking.Proofs.Sap.Normalisation
import SecurityMarking.Proofs.Sap.Generated
import SecurityMarking.Proofs.Aea.Spellings
import SecurityMarking.Proofs.Catalogue.Runs
import SecurityMarking.Proofs.Vocabulary.Faults
import SecurityMarking.Proofs.Segment.Trailing
import SecurityMarking.Proofs.Segment.Aea
import SecurityMarking.Proofs.CommandLine.Run
import SecurityMarking.Proofs.Scenario.Runs
import SecurityMarking.Proofs.Registry.Shadowing
import SecurityMarking.Proofs.Registry.Reordering
import SecurityMarking.Proofs.Registry.Refusal
import SecurityMarking.Proofs.Text.Delimiter
import SecurityMarking.Proofs.Aea.Sigmas
import SecurityMarking.Proofs.Scenario.ListedNames
