/-!
# Searching in text

A text contains a word if some suffix of it begins with the word. The patterns of the code checks
share this search.
-/

namespace SceneSketch

/-- Some suffix of `cs`, the empty one included, passes `p`. -/
def someSuffix (p : List Char → Bool) : List Char → Bool
  | [] => p []
  | c :: cs => p (c :: cs) || someSuffix p cs

def containsWord (word text : String) : Bool :=
  someSuffix (fun cs => word.toList.isPrefixOf cs) text.toList

end SceneSketch
