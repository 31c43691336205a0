import BuildRecorder.Text.Basic
import BuildRecorder.Text.Case.Table

/-!
# Letter case

`Text.lower` is the full lower-casing of Unicode: the dotted capital I becomes two characters, and a
capital sigma at the end of a word becomes the final form. Searches that disregard case compare
single characters by `CodePoint.searchKey`, which also identifies the lower-case letters that share
a capital.
-/

namespace BuildRecorder

def inRanges (ranges : List (Nat × Nat)) (c : CodePoint) : Bool :=
  ranges.any fun range => range.1 ≤ c.val && c.val ≤ range.2

namespace CodePoint

/-- The simple lower-case form, one character for one. -/
def lower (c : CodePoint) : CodePoint :=
  if c.val < 0x80 then c.asciiLower
  else
    match lowerCaseRuns.find? fun run =>
      run.first ≤ c.val && c.val ≤ run.last && (c.val - run.first) % run.stride = 0 with
    | some run => ofNat ((c.val : Int) + run.shift).toNat
    | none => c

/-- Two characters are the same letter for a search that disregards case exactly if their search
keys agree. -/
def searchKey (c : CodePoint) : CodePoint :=
  if c.val < 0x80 then c.asciiLower
  else
    match sharedLetters.lookup c.lower.val with
    | some n => ofNat n
    | none => c.lower

def isCased (c : CodePoint) : Bool := inRanges casedRanges c

def isCaseIgnorable (c : CodePoint) : Bool := inRanges caseIgnorableRanges c

def capitalSigma : CodePoint := 'Σ'

def dottedCapitalI : CodePoint := 'İ'

end CodePoint

namespace Text

/-- Whether the first character that counts for casing is cased. -/
def meetsCased (t : Text) : Bool :=
  (t.dropWhile CodePoint.isCaseIgnorable).head?.any CodePoint.isCased

/-- Lower-cases what follows `before`, which is given from its end. -/
def lowerAfter : (before : Text) → Text → Text
  | _, [] => []
  | before, c :: rest =>
    let lowered : Text :=
      if c = CodePoint.capitalSigma then
        if meetsCased before && !meetsCased rest then "ς" else "σ"
      else if c = CodePoint.dottedCapitalI then "i̇"
      else [c.lower]
    lowered ++ lowerAfter (c :: before) rest

def lower (t : Text) : Text := lowerAfter [] t

def searchEq (a b : Text) : Bool := a.map CodePoint.searchKey = b.map CodePoint.searchKey

end Text

end BuildRecorder
