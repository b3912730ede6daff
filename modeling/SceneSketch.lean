import SceneSketch.Gallery.Effects
import SceneSketch.Gallery.Sketches
import SceneSketch.Main
import SceneSketch.Prompt.Review
import SceneSketch.Proofs.Acceptance
import SceneSketch.Proofs.AxisFaults
import SceneSketch.Proofs.Brackets
import SceneSketch.Proofs.CanvasCall
import SceneSketch.Proofs.CommandLine
import SceneSketch.Proofs.Declarations
import SceneSketch.Proofs.DrawingOrder
import SceneSketch.Proofs.EditLaws
import SceneSketch.Proofs.FaithfulText
import SceneSketch.Proofs.Fences
import SceneSketch.Proofs.FieldNames
import SceneSketch.Proofs.HazardScan
import SceneSketch.Proofs.Histories
import SceneSketch.Proofs.Irrelevance
import SceneSketch.Proofs.LiteralReading
import SceneSketch.Proofs.Locality
import SceneSketch.Proofs.Measures
import SceneSketch.Proofs.Overflow
import SceneSketch.Proofs.Precedence
import SceneSketch.Proofs.Problems
import SceneSketch.Proofs.Requests
import SceneSketch.Proofs.SectionRecovery
import SceneSketch.Proofs.Sections
import SceneSketch.Proofs.SharedNames
import SceneSketch.Proofs.Signs
import SceneSketch.Proofs.Strictness
import SceneSketch.Proofs.Tallies
