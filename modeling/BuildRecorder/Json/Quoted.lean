import BuildRecorder.Text.Basic

/-!
# Writing JSON texts

Quotes, backslashes and control characters are escaped; every other character stands for itself.
-/

namespace BuildRecorder.Json

def escapeChar (c : CodePoint) : Text :=
  if c = '"' then "\\\""
  else if c = '\\' then "\\\\"
  else if c = '\n' then "\\n"
  else if c = '\r' then "\\r"
  else if c = '\t' then "\\t"
  else if c.val = 0x0C then "\\f"
  else if c.val = 0x08 then "\\b"
  else if c.val < 0x20 then "\\u" ++ Text.hex 4 c.val
  else [c]

/-- A text between quotes, as a JSON document holds it. -/
def quote (t : Text) : Text := "\"" ++ t.flatMap escapeChar ++ "\""

end BuildRecorder.Json
