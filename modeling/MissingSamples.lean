import MissingSamples.Binary.Bits
import MissingSamples.Config
import MissingSamples.Dataset
import MissingSamples.Proofs.Binary.Nearest
import MissingSamples.Proofs.Comparison.Integers
import MissingSamples.Proofs.Comparison.Interval
import MissingSamples.Proofs.Config.Files
import MissingSamples.Proofs.Dataset
import MissingSamples.Proofs.Extraction.Containers
import MissingSamples.Proofs.Extraction.InForce
import MissingSamples.Proofs.Extraction.IntegerSentinels
import MissingSamples.Proofs.Extraction.LoneBound
import MissingSamples.Proofs.Extraction.OrderedBounds
import MissingSamples.Proofs.Extraction.RangeForms
import MissingSamples.Proofs.Extraction.Total
import MissingSamples.Proofs.Policy.Buffers
import MissingSamples.Proofs.Policy.Elementwise
import MissingSamples.Proofs.Policy.Monotone
import MissingSamples.Proofs.Policy.NarrowBounds
import MissingSamples.Proofs.Variable.Idempotence
import MissingSamples.Proofs.Variable.Sentinels
import MissingSamples.Proofs.Variable.Thresholds
import MissingSamples.Proofs.Variable.Unpacking
import MissingSamples.Proofs.Variable.ValidRange
