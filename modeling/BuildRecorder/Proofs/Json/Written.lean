import BuildRecorder.Json.Quoted
import BuildRecorder.Json.Reader

/-!
# Reading what was written

A piece of a document is described by the step of the reader it makes: from one state to another,
wherever the piece stands and whatever follows it. Pieces are put together as such steps, so a
writer is followed from its quoted texts up to a whole array without a look at lexemes or positions.
-/

namespace BuildRecorder.Json

/-! ## Quoted texts -/

theorem hexDigit?_digitChar {n : Nat} (h : n < 16) :
    hexDigit? (CodePoint.ofChar (Nat.digitChar n)) = some n := by
  have hall : ∀ n < 16, hexDigit? (CodePoint.ofChar (Nat.digitChar n)) = some n := by decide
  exact hall n h

theorem hexFour?_hex {n : Nat} (h : n < 0x10000) {rest : Text} (hrest : rest ≠ []) :
    hexFour? (Text.hex 4 n ++ rest) = some n := by
  obtain ⟨c, rest, rfl⟩ := List.exists_cons_of_ne_nil hrest
  have h₃ := hexDigit?_digitChar (n := n / 16 / 16 / 16 % 16) (by omega)
  have h₂ := hexDigit?_digitChar (n := n / 16 / 16 % 16) (by omega)
  have h₁ := hexDigit?_digitChar (n := n / 16 % 16) (by omega)
  have h₀ := hexDigit?_digitChar (n := n % 16) (by omega)
  simp only [Text.hex, List.nil_append, List.cons_append, hexFour?, h₃, h₂, h₁, h₀, bind,
    Option.bind, pure]
  congr 1
  omega

/-- The characters that escapes are made of. -/
def isGraphic (c : CodePoint) : Bool := 0x20 ≤ c.val && c.val < 0x80

theorem all_isGraphic_hex (width n : Nat) : (Text.hex width n).all isGraphic = true := by
  have hdigit : ∀ d < 16, isGraphic (CodePoint.ofChar (Nat.digitChar d)) = true := by decide
  induction width generalizing n with
  | zero => rfl
  | succ width ih => simp [Text.hex, ih, hdigit (n % 16) (by omega)]

/-- A character is written as a letter or a number behind a backslash, or as itself. -/
theorem escapeChar_cases (c : CodePoint) :
    (∃ d, escapeChar c = (['\\', d] : Text) ∧ simpleEscape? d = some c ∧ d ≠ 'u' ∧
        isGraphic d = true ∧ c.val < 0x80) ∨
      (escapeChar c = ('\\' :: 'u' :: Text.hex 4 c.val : Text) ∧ c.val < 0x20) ∨
      (escapeChar c = [c] ∧ c ≠ '"' ∧ c ≠ '\\' ∧ ¬ c.val < 0x20) := by
  unfold escapeChar
  split
  · next h =>
    subst h
    exact .inl ⟨'"', rfl, by decide⟩
  split
  · next h =>
    subst h
    exact .inl ⟨'\\', rfl, by decide⟩
  split
  · next h =>
    subst h
    exact .inl ⟨'n', rfl, by decide⟩
  split
  · next h =>
    subst h
    exact .inl ⟨'r', rfl, by decide⟩
  split
  · next h =>
    subst h
    exact .inl ⟨'t', rfl, by decide⟩
  split
  · next h =>
    have hc : c = .ofNat 0x0C := CodePoint.ext_val h
    subst hc
    exact .inl ⟨'f', rfl, by decide⟩
  split
  · next h =>
    have hc : c = .ofNat 0x08 := CodePoint.ext_val h
    subst hc
    exact .inl ⟨'b', rfl, by decide⟩
  split
  · next h => exact .inr (.inl ⟨rfl, h⟩)
  · next hquote hbackslash _ _ _ _ _ hcontrol =>
    exact .inr (.inr ⟨rfl, hquote, hbackslash, hcontrol⟩)

/-- Puts a character in front of a text that has been read. -/
def consRead (c : CodePoint) (width : Nat) (read : Text × Nat) : Text × Nat :=
  (c :: read.1, read.2 + width)

theorem readText_plain {c : CodePoint} (hquote : c ≠ '"') (hbackslash : c ≠ '\\')
    (hcontrol : ¬ c.val < 0x20) (opening position : Nat) (rest : Text) :
    readText opening position (c :: rest) =
      (readText opening (position + 1) rest).map (consRead c 1) := by
  rw [readText, if_neg hquote, if_neg hbackslash, if_neg hcontrol]
  rfl

theorem readText_escape {c d : CodePoint} {escape rest : Text} {opening position : Nat}
    (h : readEscape opening (position + 1) (d :: escape ++ rest) = .ok (c, escape.length + 1)) :
    readText opening position (('\\' :: d :: escape : Text) ++ rest) =
      (readText opening (position + (escape.length + 2)) rest).map
        (consRead c (escape.length + 2)) := by
  have hne : CodePoint.ofChar '\\' ≠ CodePoint.ofChar '"' := by decide
  rw [List.cons_append, readText, if_neg hne, if_pos rfl, h]
  simp only [List.cons_append, List.drop_succ_cons, List.drop_left]
  rw [show position + 1 + (escape.length + 1) = position + (escape.length + 2) by omega]
  rfl

theorem readText_simpleEscape {c d : CodePoint} (hd : simpleEscape? d = some c) (hu : d ≠ 'u')
    (opening position : Nat) (rest : Text) :
    readText opening position ('\\' :: d :: rest) =
      (readText opening (position + 2) rest).map (consRead c 2) := by
  have hread : readEscape opening (position + 1) (d :: [] ++ rest) = .ok (c, 1) := by
    simp [readEscape, hu, hd]
  exact readText_escape hread

theorem readText_numericEscape {c : CodePoint} (hc : c.val < 0x20) (opening position : Nat)
    {rest : Text} (hrest : rest ≠ []) :
    readText opening position (('\\' :: 'u' :: Text.hex 4 c.val : Text) ++ rest) =
      (readText opening (position + 6) rest).map (consRead c 6) := by
  have hread : readEscape opening (position + 1) (('u' :: Text.hex 4 c.val : Text) ++ rest) =
      .ok (c, 5) := by
    have hhigh : ¬ (0xD800 ≤ c.val ∧ c.val < 0xDC00) := by omega
    rw [List.cons_append, readEscape, if_pos rfl, hexFour?_hex (by omega) hrest]
    simp only [if_neg hhigh, CodePoint.ofNat_val]
  exact readText_escape hread

/-- The written form of a character is read as that character. -/
theorem readText_escapeChar (c : CodePoint) (opening position : Nat) {rest : Text}
    (hrest : rest ≠ []) :
    readText opening position (escapeChar c ++ rest) =
      (readText opening (position + (escapeChar c).length) rest).map
        (consRead c (escapeChar c).length) := by
  rcases escapeChar_cases c with
      ⟨d, heq, hd, hu, -, -⟩ | ⟨heq, hc⟩ | ⟨heq, hquote, hbackslash, hcontrol⟩
  · rw [heq]
    exact readText_simpleEscape hd hu opening position rest
  · rw [heq]
    exact readText_numericEscape hc opening position hrest
  · rw [heq]
    exact readText_plain hquote hbackslash hcontrol opening position rest

theorem readText_content (t : Text) (opening position : Nat) (rest : Text) :
    readText opening position (t.flatMap escapeChar ++ ('"' :: rest : Text)) =
      .ok (t, (t.flatMap escapeChar).length + 1) := by
  induction t generalizing position with
  | nil => rw [List.flatMap_nil, List.nil_append, readText, if_pos rfl]; rfl
  | cons c t ih =>
      rw [List.flatMap_cons, List.append_assoc, readText_escapeChar c opening position (by simp),
        ih]
      simp only [Except.map, consRead, List.length_append]
      congr 2
      omega

/-! ## Steps of the reader -/

/-- Reading a text leads from one state to another, wherever it stands and whatever follows it. -/
def Leads (t : Text) (state next : State) : Prop :=
  ∀ position rest, State.run state (lexemes position (t ++ rest)) =
    State.run next (lexemes (position + t.length) rest)

theorem Leads.nil (state : State) : Leads [] state state := fun _ _ => rfl

theorem Leads.append {t u : Text} {state middle next : State} (ht : Leads t state middle)
    (hu : Leads u middle next) : Leads (t ++ u) state next := by
  intro position rest
  rw [List.append_assoc, ht, hu, List.length_append, Nat.add_assoc]

theorem leads_space {c : CodePoint} (h : isSpace c = true) (state : State) :
    Leads [c] state state := by
  intro position rest
  rw [List.singleton_append, lexemes, if_pos h]
  rfl

theorem leads_blank {t : Text} (h : t.all isSpace = true) (state : State) :
    Leads t state state := by
  induction t with
  | nil => exact Leads.nil state
  | cons c t ih =>
      obtain ⟨hc, ht⟩ : isSpace c = true ∧ t.all isSpace = true := by simpa using h
      exact (leads_space hc state).append (ih ht)

theorem State.run_step {state next : State} {lexeme : Lexeme}
    (h : State.step lexeme.position state lexeme.kind = .ok next) (rest : List Lexeme) :
    State.run state (lexeme :: rest) = State.run next rest := by
  cases state with
  | done => simp [State.step] at h
  | _ => simp only [State.run, h]

theorem State.step_unknown_ne_ok (position : Nat) (state next : State) :
    State.step position state .unknown ≠ .ok next := by
  cases state <;> simp [State.step, State.stepValue, State.stepName]

theorem State.step_brokenText_ne_ok (position : Nat) (state next : State) (trouble : Trouble) :
    State.step position state (.brokenText trouble) ≠ .ok next := by
  cases state <;> simp [State.step, State.stepValue, State.stepName]

theorem leads_lexeme {c : CodePoint} {t : Text} {kind : Lexeme.Kind} {state next : State}
    (hspace : isSpace c = false)
    (hread : ∀ position rest, readLexeme position c (t ++ rest) = (kind, t.length))
    (hstep : ∀ position, State.step position state kind = .ok next) :
    Leads (c :: t) state next := by
  intro position rest
  have hcut : lexemes position (c :: t ++ rest) =
      ⟨kind, position⟩ :: lexemes (position + (t.length + 1)) rest := by
    rw [List.cons_append, lexemes, hspace, if_neg (by simp), hread]
    -- The list of lexemes ends at two kinds, which the reader takes in no state.
    split
    · next heq =>
      obtain ⟨rfl, -⟩ := Prod.mk.inj heq
      exact absurd (hstep position) (State.step_unknown_ne_ok position state next)
    · next trouble _ heq =>
      obtain ⟨rfl, -⟩ := Prod.mk.inj heq
      exact absurd (hstep position) (State.step_brokenText_ne_ok position state next trouble)
    · next heq =>
      obtain ⟨rfl, rfl⟩ := Prod.mk.inj heq
      rw [List.drop_left, show position + 1 + t.length = position + (t.length + 1) by omega]
  rw [hcut, State.run_step (hstep position)]
  rfl

theorem leads_quote {t : Text} {state next : State}
    (hstep : ∀ position, State.step position state (.text t) = .ok next) :
    Leads (quote t) state next := by
  have hread (position : Nat) (rest : Text) :
      readLexeme position '"' (t.flatMap escapeChar ++ Text.ofString "\"" ++ rest) =
        (.text t, (t.flatMap escapeChar ++ Text.ofString "\"").length) := by
    have hmark : Text.ofString "\"" = [CodePoint.ofChar '"'] := rfl
    rw [hmark, List.append_assoc, List.singleton_append, readLexeme, if_pos rfl, readText_content]
    simp
  exact leads_lexeme (by decide) hread hstep

/-! ## Values and fields -/

/-- A state in which the next lexeme is looked at as the start of a value. -/
inductive State.WantsValue : State → List Frame → Prop
  | anywhere (stack : List Frame) : WantsValue (.wantValue stack) stack
  | firstItem (stack : List Frame) : WantsValue (.wantFirstItem stack) (.array [] :: stack)

/-- A state in which the next lexeme is looked at as the name of a field. -/
inductive State.WantsName : State → Fields → List Frame → Prop
  | first (stack : List Frame) : WantsName (.wantFirstName stack) [] stack
  | later (fields : Fields) (stack : List Frame) : WantsName (.wantName fields stack) fields stack

/-- Reading a text wherever a value is wanted provides the value. -/
def ReadsAs (t : Text) (value : Json) : Prop :=
  ∀ state stack, State.WantsValue state stack → Leads t state (State.provide value stack)

theorem ReadsAs.blank_append {t : Text} {value : Json} (h : ReadsAs t value) (blank : Text)
    (hblank : blank.all isSpace = true) : ReadsAs (blank ++ t) value := by
  intro state stack hstate
  exact (leads_blank hblank state).append (h state stack hstate)

theorem readsAs_quote (t : Text) : ReadsAs (quote t) (.text t) := by
  intro state stack hstate
  cases hstate <;> exact leads_quote fun _ => rfl

theorem leads_beginObject {state : State} {stack : List Frame} (h : state.WantsValue stack) :
    Leads "\x7b" state (.wantFirstName stack) := by
  cases h <;> exact leads_lexeme (t := []) (by decide) (fun _ _ => rfl) fun _ => rfl

theorem leads_endObject (fields : Fields) (stack : List Frame) :
    Leads "\x7d" (.afterField fields stack) (State.provide (.object fields) stack) :=
  leads_lexeme (t := []) (by decide) (fun _ _ => rfl) fun _ => rfl

theorem leads_comma_fields {gap : Text} (hgap : gap.all isSpace = true) (fields : Fields)
    (stack : List Frame) :
    Leads ("," ++ gap) (.afterField fields stack) (.wantName fields stack) :=
  (leads_lexeme (t := []) (by decide) (fun _ _ => rfl) fun _ => rfl).append (leads_blank hgap _)

theorem leads_beginArray {state : State} {stack : List Frame} (h : state.WantsValue stack) :
    Leads "[" state (.wantFirstItem stack) := by
  cases h <;> exact leads_lexeme (t := []) (by decide) (fun _ _ => rfl) fun _ => rfl

theorem leads_endArray (items : List Json) (stack : List Frame) :
    Leads "]" (.afterItem items stack) (State.provide (.array items.reverse) stack) :=
  leads_lexeme (t := []) (by decide) (fun _ _ => rfl) fun _ => rfl

theorem leads_endEmptyArray (stack : List Frame) :
    Leads "]" (.wantFirstItem stack) (State.provide (.array []) stack) :=
  leads_lexeme (t := []) (by decide) (fun _ _ => rfl) fun _ => rfl

theorem leads_comma_items {gap : Text} (hgap : gap.all isSpace = true) (items : List Json)
    (stack : List Frame) :
    Leads ("," ++ gap) (.afterItem items stack) (.wantValue (.array items :: stack)) :=
  (leads_lexeme (t := []) (by decide) (fun _ _ => rfl) fun _ => rfl).append (leads_blank hgap _)

theorem leads_field {state : State} {fields : Fields} {stack : List Frame}
    (h : state.WantsName fields stack) (name value : Text) :
    Leads (quote name ++ ": " ++ quote value) state
      (.afterField (fields.put name (.text value)) stack) := by
  have hname : Leads (quote name) state (.wantColon fields name stack) := by
    cases h <;> exact leads_quote fun _ => rfl
  have hcolon : Leads ": " (.wantColon fields name stack)
      (.wantValue (.object fields name :: stack)) :=
    (leads_lexeme (c := ':') (t := []) (by decide) (fun _ _ => rfl) fun _ => rfl).append
      (leads_space (c := ' ') (by decide) _)
  exact (hname.append hcolon).append (readsAs_quote value _ _ (.anywhere _))

/-- Pieces with separators between them, each of which adds to what has been gathered. `wants` are
the states before a piece and `gathered` is the state after it. -/
theorem leads_join {α β : Type} {write : α → Text} {separator : Text}
    (wants : State → β → Prop) (gathered : β → State) (gather : β → α → β)
    (hpiece : ∀ state b a, wants state b → Leads (write a) state (gathered (gather b a)))
    (hseparator : ∀ b, ∃ state, wants state b ∧ Leads separator (gathered b) state)
    {pieces : List α} (hne : pieces ≠ []) {state : State} {b : β} (hstate : wants state b) :
    Leads (Text.join separator (pieces.map write)) state (gathered (pieces.foldl gather b)) := by
  induction pieces generalizing state b with
  | nil => exact absurd rfl hne
  | cons a pieces ih =>
      cases pieces with
      | nil => simpa [Text.join] using hpiece state b a hstate
      | cons a' pieces =>
          obtain ⟨later, hlater, hleads⟩ := hseparator (gather b a)
          have hrest := ih (by simp) hlater
          rw [List.map_cons, List.map_cons, Text.join_cons_cons]
          exact ((hpiece state b a hstate).append hleads).append hrest

theorem leads_items {α : Type} {write : α → Text} {value : α → Json} (gap : Text)
    (hwrite : ∀ a, ReadsAs (write a) (value a)) (hgap : gap.all isSpace = true) {pieces : List α}
    (hne : pieces ≠ []) (stack : List Frame) :
    Leads (Text.join ("," ++ gap) (pieces.map write)) (.wantFirstItem stack)
      (.afterItem (pieces.map value).reverse stack) := by
  have hpieces := leads_join (fun state items => state.WantsValue (.array items :: stack))
    (fun items => .afterItem items stack) (fun items a => value a :: items)
    (fun state items a hstate => hwrite a state _ hstate)
    (fun items => ⟨_, .anywhere _, leads_comma_items hgap items stack⟩) hne (.firstItem stack)
  simpa using hpieces

/-- Fields with commas between them make an object; a field is written with blanks around it at
most. -/
theorem readsAs_object {write : Text × Text → Text} (front gap back : Text)
    (hwrite : ∀ field state known stack, State.WantsName state known stack →
      Leads (write field) state (.afterField (known.put field.1 (.text field.2)) stack))
    (hfront : front.all isSpace = true) (hgap : gap.all isSpace = true)
    (hback : back.all isSpace = true) {fields : List (Text × Text)} (hne : fields ≠ []) :
    ReadsAs ("\x7b" ++ front ++ Text.join ("," ++ gap) (fields.map write) ++ back ++ "\x7d")
      (.object
        (fields.foldl (fun known field => Fields.put known field.1 (.text field.2)) [])) := by
  intro state stack hstate
  have hfields := leads_join (fun state known => state.WantsName known stack)
    (fun known => .afterField known stack)
    (fun known field => Fields.put known field.1 (.text field.2))
    (fun state known field hstate => hwrite field state known stack hstate)
    (fun known => ⟨_, .later known stack, leads_comma_fields hgap known stack⟩) hne (.first stack)
  exact ((((leads_beginObject hstate).append (leads_blank hfront _)).append hfields).append
    (leads_blank hback _)).append (leads_endObject _ stack)

theorem read_of_leads {t : Text} {value : Json} (h : Leads t (.wantValue []) (.done value))
    (hmark : t.head? ≠ some byteOrderMark) : read t = .ok value := by
  have hrun : State.run (.wantValue []) (lexemes 0 t) = .ok value := by
    have hend := h 0 []
    rw [List.append_nil] at hend
    rw [hend, lexemes, State.run]
  rw [read, if_neg hmark, hrun]

/-- Escapes are only for ASCII, and they are graphic. -/
theorem escapeChar_eq_or_graphic (c : CodePoint) :
    (escapeChar c = [c] ∧ 0x20 ≤ c.val) ∨
      (c.val < 0x80 ∧ (escapeChar c).all isGraphic = true) := by
  have hbackslash : isGraphic (CodePoint.ofChar '\\') = true := by decide
  have hu : isGraphic (CodePoint.ofChar 'u') = true := by decide
  rcases escapeChar_cases c with ⟨d, heq, -, -, hd, hc⟩ | ⟨heq, hc⟩ | ⟨heq, -, -, hc⟩
  · refine .inr ⟨hc, ?_⟩
    simp [heq, hbackslash, hd]
  · refine .inr ⟨by omega, ?_⟩
    simp only [heq, List.all_cons, hbackslash, hu, all_isGraphic_hex, Bool.and_self]
  · exact .inl ⟨heq, by omega⟩

/-- No control character stands in a written text. -/
theorem le_val_of_mem_quote {c : CodePoint} {t : Text} (h : c ∈ quote t) : 0x20 ≤ c.val := by
  have hmark (d : CodePoint) (hd : d ∈ Text.ofString "\"") : 0x20 ≤ d.val := by
    rw [List.mem_singleton.mp hd]
    decide
  simp only [quote, List.mem_append, List.mem_flatMap] at h
  rcases h with (h | ⟨d, -, h⟩) | h
  · exact hmark c h
  · rcases escapeChar_eq_or_graphic d with ⟨heq, hd⟩ | ⟨-, hall⟩
    · rw [heq, List.mem_singleton] at h
      exact h ▸ hd
    · have hc := List.all_eq_true.mp hall c h
      simp only [isGraphic, Bool.and_eq_true, decide_eq_true_eq] at hc
      exact hc.1
  · exact hmark c h

end BuildRecorder.Json
