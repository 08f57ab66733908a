import LintBook.CodePoint.Printable
import LintBook.Text.Basic

/-! Quoted text on one line: a quote at either end, a backslash before what would end or break
the line, and a numbered escape for every other character that is not printable. -/
namespace LintBook.Text.Quoted

/-- The quote around a text: a double one only where that saves escaping single ones. -/
def quoteFor (t : Text) : CodePoint :=
  if t.contains CodePoint.singleQuote && !t.contains CodePoint.doubleQuote then
    CodePoint.doubleQuote
  else CodePoint.singleQuote

/-- The characters that stand for `c` between two `quote` characters. -/
def encodeChar (quote c : CodePoint) : Text :=
  if c = quote ∨ c = CodePoint.backslash then [CodePoint.backslash, c]
  else if c = '\n' then "\\n"
  else if c = '\r' then "\\r"
  else if c = '\t' then "\\t"
  else if c.isPrintable then [c]
  else if c.val < 0x100 then "\\x" ++ Text.hex 2 c.val
  else if c.val < 0x10000 then "\\u" ++ Text.hex 4 c.val
  else "\\U" ++ Text.hex 8 c.val

def encode (t : Text) : Text :=
  let quote := quoteFor t
  quote :: (t.flatMap (encodeChar quote) ++ [quote])

end LintBook.Text.Quoted
