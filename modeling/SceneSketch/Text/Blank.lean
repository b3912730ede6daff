/-!
# Blank characters

`isSpaceChar` is the Unicode property of white space; `isBlankChar` adds the four information
separators, which also separate words. `trimEnds` cuts a class of characters off both ends.
-/

namespace SceneSketch

/-- White space as a property of characters. -/
def isSpaceChar (c : Char) : Bool :=
  let n := c.toNat
  (9 ≤ n && n ≤ 13) || n = 0x20 || n = 0x85 || n = 0xA0 || n = 0x1680
    || (0x2000 ≤ n && n ≤ 0x200A) || n = 0x2028 || n = 0x2029 || n = 0x202F || n = 0x205F
    || n = 0x3000

/-- White space and the information separators. -/
def isBlankChar (c : Char) : Bool :=
  isSpaceChar c || (0x1C ≤ c.toNat && c.toNat ≤ 0x1F)

/-- The part between the first and the last character outside a class. -/
def trimEnds (p : Char → Bool) (cs : List Char) : List Char :=
  ((cs.dropWhile p).reverse.dropWhile p).reverse

end SceneSketch
