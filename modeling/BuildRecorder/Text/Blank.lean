import BuildRecorder.Text.Basic

/-!
# White space

Trimming removes every character with the Unicode white-space property, the four information
separators included; zero-width characters are no white space.
-/

namespace BuildRecorder

def CodePoint.isBlank (c : CodePoint) : Bool :=
  (0x09 ≤ c.val && c.val ≤ 0x0D) || (0x1C ≤ c.val && c.val ≤ 0x20) || c.val = 0x85 ||
  c.val = 0xA0 || c.val = 0x1680 || (0x2000 ≤ c.val && c.val ≤ 0x200A) || c.val = 0x2028 ||
  c.val = 0x2029 || c.val = 0x202F || c.val = 0x205F || c.val = 0x3000

namespace Text

def trimStart (t : Text) : Text := t.dropWhile CodePoint.isBlank

def trimEnd (t : Text) : Text := t.dropEndWhile CodePoint.isBlank

def trim (t : Text) : Text := t.trimStart.trimEnd

def isBlank (t : Text) : Bool := t.all CodePoint.isBlank

end Text

end BuildRecorder
