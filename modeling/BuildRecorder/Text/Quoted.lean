import BuildRecorder.Text.Printable

/-!
# Quoted text in messages

Messages show a text between quotes, with everything that does not print written as an escape.
Single quotes are used unless the text holds a single quote and no double quote.
-/

namespace BuildRecorder.Text

def numericEscape (c : CodePoint) : Text :=
  if c.val < 0x100 then "\\x" ++ hex 2 c.val
  else if c.val < 0x10000 then "\\u" ++ hex 4 c.val
  else "\\U" ++ hex 8 c.val

/-- One character of a text that is shown between `quote`s. -/
def quotedChar (quote c : CodePoint) : Text :=
  if c = quote ∨ c = '\\' then ['\\', c]
  else if c = '\n' then "\\n"
  else if c = '\r' then "\\r"
  else if c = '\t' then "\\t"
  else if c.isPrintable then [c]
  else numericEscape c

def quoted (t : Text) : Text :=
  let quote : CodePoint := if t.any (· = '\'') && !t.any (· = '"') then '"' else '\''
  quote :: (t.flatMap (quotedChar quote) ++ [quote])

end BuildRecorder.Text
