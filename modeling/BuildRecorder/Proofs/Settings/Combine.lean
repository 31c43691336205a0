import BuildRecorder.Outcome
import BuildRecorder.Proofs.Path.Segments
import BuildRecorder.Proofs.Text.Case
import BuildRecorder.Settings

/-!
# Lists of options

A list of options is applied piece by piece. A piece sets one option, or nothing, or is refused, and
which of these it is does not depend on what was set before it. So the settings of a list lie over
those of the list in front of it, at the options that its pieces name.
-/

namespace BuildRecorder

namespace Text

/-- Lower-casing leaves a start alone that is in lower case already. -/
theorem lowerAfter_append {start : Text}
    (hstart : ∀ c ∈ start, c.val < 0x80 ∧ c.asciiLower = c) (before t : Text) :
    lowerAfter before (start ++ t) = start ++ lowerAfter (start.reverse ++ before) t := by
  induction start generalizing before with
  | nil => rfl
  | cons c start ih =>
      obtain ⟨⟨hlt, hlower⟩, hlater⟩ := List.forall_mem_cons.mp hstart
      have hsigma : c ≠ CodePoint.capitalSigma := by
        rintro rfl
        exact absurd hlt (by decide)
      have hdotted : c ≠ CodePoint.dottedCapitalI := by
        rintro rfl
        exact absurd hlt (by decide)
      have hsame : c.lower = c := by rw [CodePoint.lower, if_pos hlt, hlower]
      rw [List.cons_append, lowerAfter]
      simp only [if_neg hsigma, if_neg hdotted, hsame]
      rw [ih hlater, List.reverse_cons, List.append_assoc, List.singleton_append,
        List.singleton_append, List.cons_append]

/-- An unshared letter at the front of a text in lower case stands at the front of the text. -/
theorem asciiLower_of_lower_eq_cons {c d : CodePoint} {rest after : Text}
    (hd : d.isUnshared = true) (h : Text.lower (c :: rest) = d :: after) : c.asciiLower = d := by
  have hne {e : CodePoint} (he : e.isUnshared = false) : e ≠ d := by
    rintro rfl
    simp [hd] at he
  rw [lower, lowerAfter] at h
  by_cases hsigma : c = CodePoint.capitalSigma
  · rw [if_pos hsigma] at h
    split at h
    · exact absurd (List.cons.inj h).1 (hne (e := CodePoint.ofChar 'ς') (by decide))
    · exact absurd (List.cons.inj h).1 (hne (e := CodePoint.ofChar 'σ') (by decide))
  by_cases hdotted : c = CodePoint.dottedCapitalI
  · rw [if_neg hsigma, if_pos hdotted] at h
    exact absurd (List.cons.inj h).1 (hne (e := CodePoint.ofChar 'i') (by decide))
  · rw [if_neg hsigma, if_neg hdotted, List.singleton_append] at h
    exact (CodePoint.lower_eq_iff hd).mp (List.cons.inj h).1

end Text

namespace Settings

/-- The options that a list may set. -/
inductive Key where
  | path
  | task
  | mode
deriving DecidableEq

namespace Key

def mark : Key → Text
  | .path => pathOption
  | .task => taskOption
  | .mode => modeOption

/-- Whether a piece of a list names an option, in whatever case. -/
def marks (key : Key) (piece : Text) : Bool := piece.lower.startsWith key.mark

/-- Gives an option the value that is written for it. -/
def assign (key : Key) (settings : Settings) (value : Text) : Except Fault Settings :=
  match key with
  | .path => .ok { settings with outputPath := value }
  | .task => .ok { settings with customTask := some value }
  | .mode => (parseMode value).map fun mode => { settings with mode }

theorem marks_iff {key : Key} {piece : Text} :
    key.marks piece = true ↔ ∃ rest, piece.lower = key.mark ++ rest := by
  rw [marks, Text.startsWith, List.isPrefixOf_iff_prefix]
  exact ⟨fun ⟨rest, h⟩ => ⟨rest, h.symm⟩, fun ⟨rest, h⟩ => ⟨rest, h.symm⟩⟩

theorem marks_mark_append (key : Key) (value : Text) : key.marks (key.mark ++ value) = true := by
  have hmark : ∀ c ∈ key.mark, c.val < 0x80 ∧ c.asciiLower = c := by
    cases key <;> decide
  exact marks_iff.mpr ⟨_, Text.lowerAfter_append hmark [] value⟩

/-- The first letters tell the options apart, and no white space has a letter for its lower case. -/
theorem exists_mark_eq_cons (key : Key) :
    ∃ letter rest, key.mark = letter :: rest ∧ letter.isUnshared = true ∧
      letter.isBlank = false := by
  cases key <;> exact ⟨_, _, rfl, by decide, by decide⟩

theorem head?_mark_injective {key other : Key} (h : key.mark.head? = other.mark.head?) :
    key = other := by
  revert h
  cases key <;> cases other <;> decide

theorem eq_of_marks {key other : Key} {piece : Text} (h : key.marks piece = true)
    (hother : other.marks piece = true) : key = other := by
  obtain ⟨rest, hrest⟩ := marks_iff.mp h
  obtain ⟨rest', hrest'⟩ := marks_iff.mp hother
  obtain ⟨letter, after, hmark, -⟩ := exists_mark_eq_cons key
  obtain ⟨letter', after', hmark', -⟩ := exists_mark_eq_cons other
  rw [hrest, hmark, hmark', List.cons_append, List.cons_append] at hrest'
  apply head?_mark_injective
  rw [hmark, hmark', (List.cons.inj hrest').1]
  rfl

theorem not_isBlank_of_marks {key : Key} {piece : Text} (h : key.marks piece = true) :
    piece.isBlank = false := by
  obtain ⟨rest, hrest⟩ := marks_iff.mp h
  obtain ⟨letter, after, hmark, hunshared, hletter⟩ := exists_mark_eq_cons key
  rw [hmark, List.cons_append] at hrest
  cases piece with
  | nil => cases hrest
  | cons c piece =>
      have hlower := Text.asciiLower_of_lower_eq_cons hunshared hrest
      cases hc : c.isBlank with
      | false => simp [Text.isBlank, hc]
      | true =>
          rw [CodePoint.asciiLower_of_isBlank hc] at hlower
          rw [hlower, hletter] at hc
          cases hc

end Key

/-! ## One piece -/

variable {piece : Text} {key : Key}

theorem apply_of_isBlank (h : piece.isBlank = true) (settings : Settings) :
    settings.apply piece = .ok settings := by
  simp only [apply, h, if_true]

theorem apply_of_marks (h : key.marks piece = true) (settings : Settings) :
    settings.apply piece = key.assign settings (piece.drop key.mark.length) := by
  have hblank := Key.not_isBlank_of_marks h
  have hothers : ∀ other : Key, other ≠ key → other.marks piece = false := by
    intro other hne
    apply Bool.eq_false_iff.mpr
    exact fun hother => hne (Key.eq_of_marks hother h)
  unfold apply
  simp only [hblank, Bool.false_eq_true, if_false]
  cases key with
  | path =>
      have hpath : piece.lower.startsWith pathOption = true := h
      simp only [hpath, if_true]
      rfl
  | task =>
      have hpath : piece.lower.startsWith pathOption = false := hothers .path (by decide)
      have htask : piece.lower.startsWith taskOption = true := h
      simp only [hpath, htask, Bool.false_eq_true, if_false, if_true]
      rfl
  | mode =>
      have hpath : piece.lower.startsWith pathOption = false := hothers .path (by decide)
      have htask : piece.lower.startsWith taskOption = false := hothers .task (by decide)
      have hmode : piece.lower.startsWith modeOption = true := h
      simp only [hpath, htask, hmode, Bool.false_eq_true, if_false, if_true, Key.assign, Key.mark]
      cases parseMode (piece.drop modeOption.length) <;> rfl

theorem apply_of_not_marks (hblank : piece.isBlank = false)
    (h : ∀ key : Key, key.marks piece = false) (settings : Settings) :
    settings.apply piece = .error (.unknownOption piece) := by
  have hpath : piece.lower.startsWith pathOption = false := h .path
  have htask : piece.lower.startsWith taskOption = false := h .task
  have hmode : piece.lower.startsWith modeOption = false := h .mode
  simp only [apply, hblank, hpath, htask, hmode, Bool.false_eq_true, if_false]

/-- Settings that lie over others at some of the options. -/
def overlay (under upper : Settings) (named : Key → Bool) : Settings where
  outputPath := if named .path then upper.outputPath else under.outputPath
  customTask := if named .task then upper.customTask else under.customTask
  mode := if named .mode then upper.mode else under.mode

theorem overlay_overlay (a b c : Settings) (first second : Key → Bool) :
    (a.overlay b first).overlay c second =
      a.overlay (b.overlay c second) fun key => first key || second key := by
  have hfield {α : Type} (one two : Bool) (x y z : α) :
      (if two then z else if one then y else x) =
        if one || two then if two then z else y else x := by
    cases one <;> cases two <;> rfl
  simp only [overlay, hfield]

/-- What is covered once more does not show. -/
theorem overlay_overlay_of_imp (a b c : Settings) {first second : Key → Bool}
    (h : ∀ key, first key = true → second key = true) :
    (a.overlay b first).overlay c second = a.overlay c second := by
  have hfield {α : Type} (key : Key) (x y z : α) :
      (if second key then z else if first key then y else x) =
        if second key then z else x := by
    split
    · rfl
    · next hsecond => exact if_neg (mt (h key) hsecond)
  simp only [overlay, hfield]

theorem assign_eq (key : Key) (settings : Settings) (value : Text) :
    key.assign settings value =
      (key.assign {} value).map fun upper => settings.overlay upper fun other => other = key := by
  cases key with
  | path => rfl
  | task => rfl
  | mode =>
      simp only [Key.assign]
      cases parseMode value <;> rfl

/-- A piece is refused whatever was set before it, or it lies over that at the option it names. -/
theorem apply_eq (settings : Settings) (piece : Text) :
    settings.apply piece =
      (apply {} piece).map fun upper => settings.overlay upper fun key => key.marks piece := by
  by_cases hmarks : ∃ key : Key, key.marks piece = true
  · obtain ⟨key, hkey⟩ := hmarks
    have hnamed : (fun other : Key => other.marks piece) = fun other => decide (other = key) := by
      funext other
      by_cases hother : other = key
      · rw [hother, hkey, decide_eq_true rfl]
      · rw [decide_eq_false hother]
        exact Bool.eq_false_iff.mpr fun h => hother (Key.eq_of_marks h hkey)
    rw [apply_of_marks hkey, apply_of_marks hkey, assign_eq, hnamed]
  · have hmarks : ∀ key : Key, key.marks piece = false := by simpa using hmarks
    simp only [hmarks]
    cases hblank : piece.isBlank with
    | true => rw [apply_of_isBlank hblank, apply_of_isBlank hblank]; rfl
    | false => rw [apply_of_not_marks hblank hmarks, apply_of_not_marks hblank hmarks]; rfl

/-- Values for different options can be given in either order; only one of the two can be
refused. -/
theorem assign_comm {key other : Key} (h : key ≠ other) (settings : Settings)
    (value value' : Text) :
    ((key.assign settings value).bind fun settings => other.assign settings value') =
      (other.assign settings value').bind fun settings => key.assign settings value := by
  cases key with
  | path =>
      cases other with
      | path => exact absurd rfl h
      | task => rfl
      | mode =>
          simp only [Key.assign]
          cases parseMode value' <;> rfl
  | task =>
      cases other with
      | path => rfl
      | task => exact absurd rfl h
      | mode =>
          simp only [Key.assign]
          cases parseMode value' <;> rfl
  | mode =>
      cases other with
      | mode => exact absurd rfl h
      | _ =>
          simp only [Key.assign]
          cases parseMode value <;> rfl

/-! ## Lists of pieces -/

variable {pieces : List Text}

def isNamed (pieces : List Text) (key : Key) : Bool := pieces.any key.marks

theorem applyAll_cons (settings : Settings) (piece : Text) (pieces : List Text) :
    settings.applyAll (piece :: pieces) =
      (settings.apply piece).bind fun settings => settings.applyAll pieces := by
  rw [applyAll]
  cases settings.apply piece <;> rfl

theorem applyAll_append (settings : Settings) (pieces more : List Text) :
    settings.applyAll (pieces ++ more) =
      (settings.applyAll pieces).bind fun settings => settings.applyAll more := by
  induction pieces generalizing settings with
  | nil => rfl
  | cons piece pieces ih =>
      rw [List.cons_append, applyAll_cons, applyAll_cons]
      cases settings.apply piece with
      | error fault => rfl
      | ok settings => exact ih settings

/-- A list is refused whatever was set before it, or it lies over that at the options it names. -/
theorem applyAll_eq (settings : Settings) (pieces : List Text) :
    settings.applyAll pieces =
      (applyAll {} pieces).map fun upper => settings.overlay upper (isNamed pieces) := by
  induction pieces generalizing settings with
  | nil => rfl
  | cons piece pieces ih =>
      rw [applyAll_cons, applyAll_cons, apply_eq]
      cases apply {} piece with
      | error fault => rfl
      | ok set =>
          change (settings.overlay set _).applyAll pieces = (set.applyAll pieces).map _
          rw [ih, ih set]
          cases applyAll {} pieces with
          | error fault => rfl
          | ok upper => exact congrArg Except.ok (overlay_overlay settings set upper _ _)

/-- What a piece sets does not show where a later piece names the same option. -/
theorem applyAll_cons_of_named {set : Settings} (hset : apply {} piece = .ok set)
    (hnamed : ∀ key : Key, key.marks piece = true → isNamed pieces key = true)
    (settings : Settings) :
    settings.applyAll (piece :: pieces) = settings.applyAll pieces := by
  rw [applyAll_cons, apply_eq, hset]
  change (settings.overlay set _).applyAll pieces = _
  rw [applyAll_eq, applyAll_eq settings]
  cases applyAll {} pieces with
  | error fault => rfl
  | ok upper => exact congrArg Except.ok (overlay_overlay_of_imp settings set upper hnamed)

theorem applyAll_swap {first second : Text} {key other : Key} (hne : key ≠ other)
    (hfirst : key.marks first = true) (hsecond : other.marks second = true)
    (settings : Settings) (pieces : List Text) :
    settings.applyAll (first :: second :: pieces) =
      settings.applyAll (second :: first :: pieces) := by
  have htwo (first second : Text) : settings.applyAll (first :: second :: pieces) =
      ((settings.apply first).bind fun set => set.apply second).bind
        fun set => set.applyAll pieces := by
    rw [applyAll_cons]
    cases settings.apply first with
    | error fault => rfl
    | ok set => exact applyAll_cons set second pieces
  rw [htwo, htwo]
  simp only [apply_of_marks hfirst, apply_of_marks hsecond]
  rw [assign_comm hne]

/-! ## Lists as text -/

def comma : CodePoint := ','

/-- The pieces that a list is written in. -/
def piecesOf (parameters : Text) : List Text := parameters.splitOn (· = comma)

theorem parse_eq (parameters : Text) : parse parameters = applyAll {} (piecesOf parameters) := rfl

theorem piecesOf_append_comma (first second : Text) :
    piecesOf (first ++ comma :: second) = piecesOf first ++ piecesOf second :=
  Text.splitOn_append_cons (by decide) first second

theorem piecesOf_eq_singleton (h : comma ∉ piece) : piecesOf piece = [piece] := by
  apply Text.splitOn_eq_singleton
  intro c hc
  exact decide_eq_false (ne_of_mem_of_not_mem hc h)

/-- Pieces that a list can be written of. -/
def ArePieces (pieces : List Text) : Prop := ∀ piece ∈ pieces, comma ∉ piece

def listOf (pieces : List Text) : Text := Text.join [comma] pieces

/-- A list that is written of pieces is applied piece by piece; the empty text counts for no
piece. -/
theorem parse_listOf (h : ArePieces pieces) : parse (listOf pieces) = applyAll {} pieces := by
  cases pieces with
  | nil => rfl
  | cons piece pieces =>
      have hpieces : ∀ other ∈ piece :: pieces, ∀ c ∈ other, decide (c = comma) = false := by
        intro other hother c hc
        exact decide_eq_false (ne_of_mem_of_not_mem hc (h other hother))
      rw [parse_eq, piecesOf, listOf, Text.splitOn_join (by decide) (by simp) hpieces]

/-- Where the pieces behind a place are applied alike, so are the lists. -/
theorem parse_listOf_congr {front first second : List Text} (hfirst : ArePieces (front ++ first))
    (hsecond : ArePieces (front ++ second))
    (h : ∀ settings : Settings, settings.applyAll first = settings.applyAll second) :
    parse (listOf (front ++ first)) = parse (listOf (front ++ second)) := by
  rw [parse_listOf hfirst, parse_listOf hsecond, applyAll_append, applyAll_append]
  simp only [h]

theorem parse_append_comma (first second : Text) :
    parse (first ++ comma :: second) =
      (parse first).bind fun under => (parse second).map fun upper =>
        under.overlay upper (isNamed (piecesOf second)) := by
  rw [parse_eq, piecesOf_append_comma, applyAll_append, ← parse_eq]
  cases parse first with
  | error fault => rfl
  | ok under => exact applyAll_eq under (piecesOf second)

/-- A list of one piece is accepted only if the piece is. -/
theorem exists_apply_of_parse (hpiece : comma ∉ piece) (h : ∃ set, parse piece = .ok set) :
    ∃ set, apply {} piece = .ok set := by
  obtain ⟨set, hset⟩ := h
  rw [parse_eq, piecesOf_eq_singleton hpiece, applyAll_cons] at hset
  cases happly : apply {} piece with
  | error fault =>
      rw [happly] at hset
      cases hset
  | ok set => exact ⟨set, rfl⟩

theorem ArePieces.of_subset {more : List Text} (h : ArePieces pieces) (hsubset : more ⊆ pieces) :
    ArePieces more :=
  fun piece hpiece => h piece (hsubset hpiece)

/-- A list behind another one lies over it. It is refused if one of the two is, for what is wrong
with the first if something is; else each option is as the second list has it, if a piece of that
names the option, and as the first has it if none does. So options of different names can be written
in either order, an option has no effect before another one of its name, and a blank piece has
none anywhere. -/
theorem parse_eq_overlay (first second : Text) :
    (∀ fault, parse (first ++ comma :: second) = .error fault ↔
      parse first = .error fault ∨
        (∃ under, parse first = .ok under) ∧ parse second = .error fault) ∧
    (∀ under upper, parse first = .ok under → parse second = .ok upper →
      parse (first ++ comma :: second) =
        .ok (under.overlay upper (isNamed (piecesOf second)))) ∧
    (∀ front back one two (key other : Key), ArePieces (front ++ one :: two :: back) →
      key.marks one = true → other.marks two = true → key ≠ other →
        parse (listOf (front ++ one :: two :: back)) =
          parse (listOf (front ++ two :: one :: back))) ∧
    (∀ front between back one two (key : Key),
      ArePieces (front ++ one :: (between ++ two :: back)) →
      key.marks one = true → key.marks two = true → (∃ set, parse one = .ok set) →
        parse (listOf (front ++ one :: (between ++ two :: back))) =
          parse (listOf (front ++ (between ++ two :: back)))) ∧
    ∀ front back blank, ArePieces (front ++ blank :: back) → blank.isBlank = true →
      parse (listOf (front ++ blank :: back)) = parse (listOf (front ++ back)) := by
  refine ⟨?_, ?_, ?_, ?_, ?_⟩
  · intro fault
    rw [parse_append_comma]
    cases parse first with
    | error other => simp [Except.bind]
    | ok under => cases parse second <;> simp [Except.bind, Except.map]
  · intro under upper hunder hupper
    rw [parse_append_comma, hunder, hupper]
    rfl
  · intro front back one two key other hpieces hone htwo hne
    apply parse_listOf_congr hpieces
    · exact hpieces.of_subset ((List.Perm.swap one two back).append_left front).subset
    · exact fun settings => applyAll_swap hne hone htwo settings back
  · intro front between back one two key hpieces hone htwo haccepted
    apply parse_listOf_congr hpieces
    · exact hpieces.of_subset ((List.sublist_cons_self one _).append_left front).subset
    · intro settings
      obtain ⟨set, hset⟩ := exists_apply_of_parse (hpieces one (by simp)) haccepted
      apply applyAll_cons_of_named hset
      intro other hother
      rw [Key.eq_of_marks hother hone]
      exact List.any_eq_true.mpr ⟨two, by simp, htwo⟩
  · intro front back blank hpieces hblank
    apply parse_listOf_congr hpieces
    · exact hpieces.of_subset ((List.sublist_cons_self blank _).append_left front).subset
    · intro settings
      rw [applyAll_cons, apply_of_isBlank hblank]
      rfl

/-- Names in any case, a mode that is set twice, and a mode that is none behind one that is. -/
theorem parse_eq_overlay_mixed :
    parse (Text.ofString "mode:stream,path:a" ++ comma :: "Path:b, ") =
        .ok { outputPath := "b", mode := .stream } ∧
      parse (Text.ofString "mode:stream" ++ comma :: "mode:x,y") = .error (.unknownMode "x") ∧
      parse (listOf ["mode:x", "tasK:t", "path:p"]) =
        parse (listOf ["tasK:t", "mode:x", "path:p"]) ∧
      parse (listOf ["MODE:merge", "task:t", "mode:x"]) = parse (listOf ["task:t", "mode:x"]) ∧
      parse (listOf ["task:t", "\t ", "mode:x"]) = parse (listOf ["task:t", "mode:x"]) := by
  have hpieces (pieces : List Text) (h : (pieces.all fun piece => comma ∉ piece) = true) :
      ArePieces pieces := fun piece hpiece => of_decide_eq_true (List.all_eq_true.mp h piece hpiece)
  obtain ⟨-, hupper, hswap, hlast, hblank⟩ := parse_eq_overlay "mode:stream,path:a" "Path:b, "
  refine ⟨?_, ?_, ?_, ?_, ?_⟩
  · apply hupper { outputPath := "a", mode := .stream } { outputPath := "b" }
    · exact eq_ok_of_toOption (by decide +kernel)
    · exact eq_ok_of_toOption (by decide +kernel)
  · apply ((parse_eq_overlay "mode:stream" "mode:x,y").1 _).mpr
    exact .inr ⟨⟨{ mode := .stream }, eq_ok_of_toOption (by decide +kernel)⟩, rfl⟩
  · apply hswap [] ["path:p"] "mode:x" "tasK:t" .mode .task
    · exact hpieces _ (by decide)
    · exact Key.marks_mark_append .mode "x"
    · decide +kernel
    · decide
  · apply hlast [] ["task:t"] [] "MODE:merge" "mode:x" .mode
    · exact hpieces _ (by decide)
    · decide +kernel
    · exact Key.marks_mark_append .mode "x"
    · exact ⟨{}, eq_ok_of_toOption (by decide +kernel)⟩
  · exact hblank ["task:t"] ["mode:x"] "\t " (hpieces _ (by decide)) (by decide)

end Settings

end BuildRecorder
