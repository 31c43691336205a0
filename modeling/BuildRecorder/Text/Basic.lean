/-!
# Text as a list of code points

Build logs and files written by other programs may hold lone surrogates, which no `Char` can be.
A `Text` is therefore a list of code points, surrogates included, and every rule of the library
that looks at characters is a function on such lists. Literals are written as strings.
-/

namespace BuildRecorder

/-- A number below `0x110000`: a Unicode scalar value or a surrogate. -/
structure CodePoint where
  val : Nat
  val_lt : val < 0x110000
deriving DecidableEq

namespace CodePoint

def ofChar (c : Char) : CodePoint :=
  ⟨c.toNat, by
    have h := c.valid
    have : c.toNat = c.val.toNat := rfl
    unfold UInt32.isValidChar Nat.isValidChar at h
    omega⟩

instance : Coe Char CodePoint := ⟨ofChar⟩

instance : Inhabited CodePoint := ⟨'?'⟩

/-- Numbers past the last code point become the replacement character. -/
def ofNat (n : Nat) : CodePoint :=
  if h : n < 0x110000 then ⟨n, h⟩ else ⟨0xFFFD, by decide⟩

def nul : CodePoint := ⟨0, by decide⟩

/-- Surrogates have no UTF-8 form. -/
def isSurrogate (c : CodePoint) : Bool := 0xD800 ≤ c.val && c.val < 0xE000

def isDigit (c : CodePoint) : Bool := 0x30 ≤ c.val && c.val ≤ 0x39

def digit (c : CodePoint) : Nat := c.val - 0x30

/-- The letters `A` to `Z` go to `a` to `z`, all else stays. -/
def asciiLower (c : CodePoint) : CodePoint :=
  if 0x41 ≤ c.val ∧ c.val ≤ 0x5A then ofNat (c.val + 0x20) else c

def isAsciiLetter (c : CodePoint) : Bool :=
  (0x41 ≤ c.val && c.val ≤ 0x5A) || (0x61 ≤ c.val && c.val ≤ 0x7A)

@[simp] theorem val_ofNat {n : Nat} (h : n < 0x110000) : (ofNat n).val = n := by
  simp [ofNat, h]

@[simp] theorem ofNat_val (c : CodePoint) : ofNat c.val = c := by
  simp [ofNat, c.val_lt]

theorem ext_val {c d : CodePoint} (h : c.val = d.val) : c = d := by
  cases c
  cases d
  cases h
  rfl

end CodePoint

abbrev Text := List CodePoint

namespace Text

def ofString (s : String) : Text := s.toList.map CodePoint.ofChar

instance : Coe String Text := ⟨ofString⟩

/-- Surrogates are replaced, so this is for showing a text, not for keeping it. -/
def toString (t : Text) : String := String.ofList (t.map fun c => Char.ofNat c.val)

def ofNat (n : Nat) : Text := (Nat.toDigits 10 n).map CodePoint.ofChar

def ofInt : Int → Text
  | .ofNat n => ofNat n
  | .negSucc n => '-' :: ofNat (n + 1)

/-- The last `width` hexadecimal digits of `n`, in lower case. -/
def hex : (width : Nat) → (n : Nat) → Text
  | 0, _ => []
  | w + 1, n => hex w (n / 16) ++ [CodePoint.ofChar (Nat.digitChar (n % 16))]

def digitsValue (t : Text) : Nat := t.foldl (fun n c => 10 * n + c.digit) 0

theorem dropWhile_eq_self {p : CodePoint → Bool} {t : Text} (h : ∀ c ∈ t.head?, p c = false) :
    t.dropWhile p = t := by
  cases t with
  | nil => rfl
  | cons c rest => exact List.dropWhile_cons_of_neg (by simp [h c rfl])

theorem takeWhile_eq_nil {p : CodePoint → Bool} {t : Text} (h : ∀ c ∈ t.head?, p c = false) :
    t.takeWhile p = [] := by
  cases t with
  | nil => rfl
  | cons c rest => exact List.takeWhile_cons_of_neg (by simp [h c rfl])

/-- The pieces between the separators; one piece more than there are separators. -/
def splitOn (sep : CodePoint → Bool) : Text → List Text
  | [] => [[]]
  | c :: rest =>
    if sep c then [] :: splitOn sep rest
    else match splitOn sep rest with
      | [] => [[c]]
      | piece :: pieces => (c :: piece) :: pieces

def join (sep : Text) (pieces : List Text) : Text := List.intercalate sep pieces

theorem join_cons_cons (sep first second : Text) (pieces : List Text) :
    join sep (first :: second :: pieces) = first ++ sep ++ join sep (second :: pieces) := by
  simp [join]

/-- What holds of the separator holds of a joined text if it holds of the pieces. -/
theorem all_join {α : Type} {p : CodePoint → Bool} (sep : Text) (hsep : sep.all p = true)
    (write : α → Text) (pieces : List α) :
    (join sep (pieces.map write)).all p = pieces.all fun a => (write a).all p := by
  induction pieces with
  | nil => rfl
  | cons first pieces ih =>
      cases pieces with
      | nil => simp [join]
      | cons second pieces =>
          rw [List.map_cons] at ih
          rw [List.map_cons, List.map_cons, join_cons_cons, List.all_append, List.all_append, ih,
            hsep, Bool.and_true]
          rfl

theorem join_concat (sep : Text) {pieces : List Text} (hne : pieces ≠ []) (piece : Text) :
    join sep (pieces ++ [piece]) = join sep pieces ++ sep ++ piece := by
  induction pieces with
  | nil => exact absurd rfl hne
  | cons first pieces ih =>
      cases pieces with
      | nil => simp [join]
      | cons second pieces =>
          have hrest := ih (by simp)
          rw [List.cons_append, List.cons_append, join_cons_cons, join_cons_cons,
            ← List.cons_append, hrest]
          simp only [List.append_assoc]

def startsWith (t start : Text) : Bool := start.isPrefixOf t

def endsWith (t ending : Text) : Bool := ending.isSuffixOf t

def dropEndWhile (p : CodePoint → Bool) (t : Text) : Text := (t.reverse.dropWhile p).reverse

def contains (part : Text) : Text → Bool
  | [] => part.isEmpty
  | c :: rest => part.isPrefixOf (c :: rest) || contains part rest

theorem splitOn_ne_nil (sep : CodePoint → Bool) (t : Text) : splitOn sep t ≠ [] := by
  cases t with
  | nil => simp [splitOn]
  | cons c rest =>
    unfold splitOn
    split
    · simp
    · split <;> simp

end Text

end BuildRecorder
