import SceneSketch.Text.Basic
import SceneSketch.Text.Printable

/-!
# Quoted text in messages

A text in single quotes, or in double quotes if it holds a single quote and no double one.
The quote and the backslash are escaped, and so is every character that is not printable and every
lone surrogate.
-/

namespace SceneSketch

/-- The escape of a character that is not printable: by its short name, or by as many
hexadecimal digits as its plane asks for. -/
def codePointEscape (c : Char) : List Char :=
  let n := c.toNat
  if c = '\n' then ['\\', 'n']
  else if c = '\r' then ['\\', 'r']
  else if c = '\t' then ['\\', 't']
  else if n < 0x100 then '\\' :: 'x' :: hexDigits 2 n
  else if n < 0x10000 then '\\' :: 'u' :: hexDigits 4 n
  else '\\' :: 'U' :: hexDigits 8 n

def quotedChar (quote c : Char) : List Char :=
  if c = quote ∨ c = '\\' then ['\\', c]
  else if isPrintable c then [c]
  else codePointEscape c

def quoted (text : Text) : String :=
  let cs := text.spell ([·]) fun _ => []
  let quote := if cs.contains '\'' && !cs.contains '"' then '"' else '\''
  String.ofList (quote :: (text.spell (quotedChar quote) (escapedUnit ·.unit) ++ [quote]))

end SceneSketch
