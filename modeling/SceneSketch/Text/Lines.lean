/-!
# Lines

A line ends with a line feed, a carriage return or both in this order. Text is brought into a form
where only line feeds end lines before anything else looks at it.
-/

namespace SceneSketch

def lineFeeds : List Char → List Char
  | [] => []
  | '\r' :: '\n' :: rest => '\n' :: lineFeeds rest
  | '\r' :: rest => '\n' :: lineFeeds rest
  | c :: rest => c :: lineFeeds rest

def afterLine (cs : List Char) : List Char :=
  (cs.dropWhile (· ≠ '\n')).drop 1

end SceneSketch
