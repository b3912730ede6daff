import SceneSketch.Scene.Basic

/-!
# Checks of scenes

A scene may be compiled if its canvas is not empty and its elements have names of their own.
-/

namespace SceneSketch

inductive SceneProblem
  | emptyCanvas
  | missingId
  | duplicateId (id : Text)
deriving DecidableEq

def SceneProblem.message : SceneProblem → Text
  | emptyCanvas => "Canvas dimensions must be positive"
  | missingId => "Element missing ID"
  | duplicateId id => "Duplicate element ID: " ++ id

namespace Scene

def canvasProblems (scene : Scene) : List SceneProblem :=
  if scene.canvas.width.isNonpositive || scene.canvas.height.isNonpositive then [.emptyCanvas]
  else []

def missingIdProblems (scene : Scene) : List SceneProblem :=
  (scene.elements.filter fun (e : Element) => e.id = "").map fun _ => .missingId

/-- One problem for each name of several elements, in the order of their first elements. -/
def duplicateIdProblems (scene : Scene) : List SceneProblem :=
  let ids := (scene.elements.map Element.id).filter fun (id : Text) => id ≠ ""
  (ids.eraseDups.filter fun id => 1 < ids.count id).map .duplicateId

def problems (scene : Scene) : List SceneProblem :=
  scene.canvasProblems ++ scene.missingIdProblems ++ scene.duplicateIdProblems

def checked (scene : Scene) : Except (List SceneProblem) Scene :=
  if scene.problems.isEmpty then .ok scene else .error scene.problems

end Scene

end SceneSketch
