import SceneSketch.Check.Pattern

/-!
# Security check

Thirteen patterns that sketch code must not contain. Letters are compared without regard to case.
-/

namespace SceneSketch

inductive Hazard
  | evaluation
  | functionConstructor
  | fetching
  | httpRequest
  | importing
  | requiring
  | innerMarkup
  | documentAccess
  | windowAccess
  | scriptTag
  | localStorage
  | sessionStorage
  | database
deriving DecidableEq

namespace Hazard

def all : List Hazard :=
  [evaluation, functionConstructor, fetching, httpRequest, importing, requiring, innerMarkup,
    documentAccess, windowAccess, scriptTag, localStorage, sessionStorage, database]

def message : Hazard → String
  | evaluation => "eval() is not allowed"
  | functionConstructor => "Function constructor is not allowed"
  | fetching => "fetch() is not allowed"
  | httpRequest => "XMLHttpRequest is not allowed"
  | importing => "import statements are not allowed"
  | requiring => "require() is not allowed"
  | innerMarkup => "innerHTML manipulation is not allowed"
  | documentAccess => "Direct DOM manipulation is not allowed"
  | windowAccess => "Window object access is not allowed"
  | scriptTag => "Script tags are not allowed"
  | localStorage => "localStorage access is not allowed"
  | sessionStorage => "sessionStorage access is not allowed"
  | database => "indexedDB access is not allowed"

/-- A call of a function, blanks being allowed before the parenthesis. -/
def callPattern (name : String) : List PatternPart :=
  [.word name.toList, .blanks, .word ['(']]

def pattern : Hazard → List PatternPart
  | evaluation => callPattern "eval"
  | functionConstructor => callPattern "Function"
  | fetching => callPattern "fetch"
  | httpRequest => [.word "XMLHttpRequest".toList]
  | importing => [.word "import".toList, .someBlanks]
  | requiring => callPattern "require"
  | innerMarkup => [.word ".innerHTML".toList]
  | documentAccess => [.word "document.".toList]
  | windowAccess => [.word "window.".toList]
  | scriptTag => [.word "<script".toList]
  | localStorage => [.word "localStorage".toList]
  | sessionStorage => [.word "sessionStorage".toList]
  | database => [.word "indexedDB".toList]

def occursIn (code : String) (hazard : Hazard) : Bool :=
  matchesSomewhere sameLetter hazard.pattern code

end Hazard

def hazards (code : String) : List Hazard :=
  Hazard.all.filter (·.occursIn code)

end SceneSketch
