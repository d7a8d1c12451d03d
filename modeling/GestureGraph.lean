import GestureGraph.CommandLine
import GestureGraph.Main
import GestureGraph.Proofs.Admission
import GestureGraph.Proofs.Agreement
import GestureGraph.Proofs.Atomicity
import GestureGraph.Proofs.Buffering
import GestureGraph.Proofs.Ceilings
import GestureGraph.Proofs.Comments
import GestureGraph.Proofs.Commutation
import GestureGraph.Proofs.Conservation
import GestureGraph.Proofs.Containment
import GestureGraph.Proofs.Continuity
import GestureGraph.Proofs.Effects
import GestureGraph.Proofs.Faults
import GestureGraph.Proofs.Forms
import GestureGraph.Proofs.Glance
import GestureGraph.Proofs.Grammar
import GestureGraph.Proofs.Identity
import GestureGraph.Proofs.Lines
import GestureGraph.Proofs.Notices
import GestureGraph.Proofs.Partition
import GestureGraph.Proofs.Permanence
import GestureGraph.Proofs.Population
import GestureGraph.Proofs.Provenance
import GestureGraph.Proofs.Queries
import GestureGraph.Proofs.Rendering
import GestureGraph.Proofs.Representation
import GestureGraph.Proofs.Spelling
import GestureGraph.Proofs.Ties
import GestureGraph.Proofs.Tiling
import GestureGraph.Proofs.Unambiguity
