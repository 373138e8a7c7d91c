import SourceFacts.Main
import SourceFacts.Proofs.Analysis.Decoding
import SourceFacts.Proofs.Analysis.Messages
import SourceFacts.Proofs.Analysis.Outcomes
import SourceFacts.Proofs.Analysis.SyntaxErrors
import SourceFacts.Proofs.Cache.Clearing
import SourceFacts.Proofs.Cache.Expiry
import SourceFacts.Proofs.Cache.Fidelity
import SourceFacts.Proofs.Cache.Keys
import SourceFacts.Proofs.Cache.Signatures
import SourceFacts.Proofs.Config.Loading
import SourceFacts.Proofs.Extraction.Conservation
import SourceFacts.Proofs.Extraction.Cuts
import SourceFacts.Proofs.Extraction.Decorators
import SourceFacts.Proofs.Extraction.Growth
import SourceFacts.Proofs.Extraction.Imports
import SourceFacts.Proofs.Extraction.Targets
import SourceFacts.Proofs.Failures.Bookkeeping
import SourceFacts.Proofs.Hints.InvalidPatterns
import SourceFacts.Proofs.Hints.Repeats
import SourceFacts.Proofs.Python.Docstrings
import SourceFacts.Proofs.Run.Containment
import SourceFacts.Proofs.Run.Delivery
import SourceFacts.Proofs.Run.FailFast
import SourceFacts.Proofs.Run.Framing
import SourceFacts.Proofs.Run.Metering
import SourceFacts.Proofs.Run.Paths
import SourceFacts.Proofs.Run.Resilience
import SourceFacts.Proofs.Run.Stopping
import SourceFacts.Proofs.Run.Transparency
import SourceFacts.Proofs.Scan.Completeness
import SourceFacts.Proofs.Scan.Times
import SourceFacts.Proofs.Syntax.Walks
