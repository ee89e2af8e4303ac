import Groth16.Arena.Scratch
import Groth16.Curve.Encoded
import Groth16.Host.Tree
import Groth16.Main
import Groth16.Poseidon.Permutation
import Groth16.Proofs.Accounting
import Groth16.Proofs.Arena.Runs
import Groth16.Proofs.Batch.Soundness
import Groth16.Proofs.Curve.EncodedGroup
import Groth16.Proofs.Curve.GroupLaw
import Groth16.Proofs.Curve.PointFormat
import Groth16.Proofs.Curve.Subgroup
import Groth16.Proofs.Field.Program
import Groth16.Proofs.Reputation.ExclusionTree
import Groth16.Proofs.Reputation.Policy
import Groth16.Proofs.Tower.Quotient
import Groth16.Proofs.Verification.KeyFormat
import Groth16.Proofs.Verification.KeySlot
import Groth16.Reputation.Policy
import Groth16.Proofs.Arena.Contents
import Groth16.Proofs.Arena.ScratchRuns
import Groth16.Proofs.Verification.ProofFormat
import Groth16.Proofs.Artifact.Numeral
import Groth16.Proofs.Reputation.EnvelopeFormat
import Groth16.Proofs.Artifact.Document
import Groth16.Proofs.Tower.Inversion
import Groth16.Proofs.CommandLine.Conversion
import Groth16.Proofs.CommandLine.BatchVerification
import Groth16.Proofs.Pairing.ReducedPower
import Groth16.Proofs.Pairing.Steps
import Groth16.Proofs.Curve.MultiScalarRoom
import Groth16.Proofs.Curve.Multiples
import Groth16.Proofs.CommandLine.KeyListing
import Groth16.Proofs.Poseidon.Permutation
import Groth16.Proofs.Curve.SharedInversion
import Groth16.Proofs.Field.Montgomery
import Groth16.Proofs.Curve.Comparison
