import BuildRecorder.Proofs.Compiler.Invocation
import BuildRecorder.Session.Basic
import Mathlib.Data.List.TakeWhile

/-!
# Command lines with a NUL

A line that is split as a whole is refused if there is a NUL anywhere in it. A search for the marker
splits only what stands behind it, so there the line is refused for a NUL behind the marker, and one
in front of it stays in the compiler.
-/

namespace BuildRecorder

namespace Compiler

variable {strategy : Strategy} {marker cwd base line : Text}

theorem mem_dropWhile_of_neg {p : CodePoint → Bool} {c : CodePoint} {t : Text} (hc : p c = false)
    (h : c ∈ t) : c ∈ t.dropWhile p := by
  have hcut : t.takeWhile p ++ t.dropWhile p = t := List.takeWhile_append_dropWhile
  rw [← hcut, List.mem_append] at h
  apply h.resolve_left
  intro htake
  exact absurd (List.mem_takeWhile_imp htake) (by simp [hc])

theorem mem_dropEndWhile_of_neg {p : CodePoint → Bool} {c : CodePoint} {t : Text}
    (hc : p c = false) (h : c ∈ t) : c ∈ Text.dropEndWhile p t := by
  rw [Text.dropEndWhile, List.mem_reverse]
  exact mem_dropWhile_of_neg hc (List.mem_reverse.mpr h)

theorem nul_mem_trimStart {t : Text} (h : CodePoint.nul ∈ t) : CodePoint.nul ∈ t.trimStart :=
  mem_dropWhile_of_neg (by decide) h

/-- A NUL is neither white space nor a quote, so no trimming takes it off. -/
theorem nul_mem_trimQuotes_trim {t : Text} (h : CodePoint.nul ∈ t) :
    CodePoint.nul ∈ trimQuotes t.trim := by
  have htrim : CodePoint.nul ∈ t.trim := mem_dropEndWhile_of_neg (by decide) (nul_mem_trimStart h)
  exact mem_dropEndWhile_of_neg (by decide) (mem_dropWhile_of_neg (by decide) htrim)

theorem locate_of_nul (hnul : CodePoint.nul ∈ line) (hstrategy : strategy ≠ .marker) :
    locate strategy marker line = .error (.arguments (.nul line)) := by
  have hsplit : Arguments.splitFirst line = .error (.nul line) := by
    rw [Arguments.splitFirst, Arguments.validate_eq, if_pos hnul]
    rfl
  cases strategy with
  | marker => exact absurd rfl hstrategy
  | firstToken => rw [locate, locateFirst, hsplit]
  | auto => rw [locate, hsplit]

theorem locateMarker_of_nul {front back : Text}
    (hcut : cutAtMarker marker line = some (front, back)) (hfront : CodePoint.nul ∈ front) :
    locateMarker marker line = .ok (trimQuotes front.trim, back.trimStart) := by
  have hne : (trimQuotes front.trim).isEmpty = false :=
    List.isEmpty_eq_false_iff_exists_mem.mpr ⟨_, nul_mem_trimQuotes_trim hfront⟩
  rw [locateMarker, hcut]
  dsimp only
  rw [hne]
  rfl

theorem exists_classify_iff :
    (∃ invocation, classify strategy marker cwd base line = .ok invocation) ↔
      ∃ found, locate strategy marker line = .ok found ∧ CodePoint.nul ∉ found.2 := by
  constructor
  · rintro ⟨invocation, hclassify⟩
    obtain ⟨compiler, arguments, tokens, hlocate, hsplit, -⟩ := classify_eq_ok_iff.mp hclassify
    exact ⟨(compiler, arguments), hlocate, (Arguments.split_eq_ok_iff.mp hsplit).1⟩
  · rintro ⟨⟨compiler, arguments⟩, hlocate, hnul⟩
    exact ⟨_, classify_eq_ok_iff.mpr
      ⟨compiler, arguments, _, hlocate, Arguments.split_of_nul_notMem hnul, rfl⟩⟩

/-- No NUL stands in front of the marker alone: the line is split as a whole, or there is no marker
to be found, or there is a NUL behind it. -/
def SplitsNul (strategy : Strategy) (marker line : Text) : Prop :=
  strategy = .marker → ∀ cut ∈ cutAtMarker marker line, CodePoint.nul ∈ cut.2

instance (strategy : Strategy) (marker line : Text) : Decidable (SplitsNul strategy marker line) :=
  inferInstanceAs (Decidable (_ → ∀ cut ∈ cutAtMarker marker line, _))

/-- A line with a NUL is recognized only where nothing but the marker is searched for and every NUL
stands in front of it. -/
theorem exists_classify_of_nul_iff (hnul : CodePoint.nul ∈ line) :
    (∃ invocation, classify strategy marker cwd base line = .ok invocation) ↔
      ¬SplitsNul strategy marker line := by
  rw [exists_classify_iff, SplitsNul]
  by_cases hstrategy : strategy = .marker
  · subst hstrategy
    constructor
    · rintro ⟨⟨compiler, arguments⟩, hlocate, harguments⟩ hseen
      obtain ⟨front, back, hcut, -, rfl⟩ := locateMarker_cases hlocate
      exact harguments (nul_mem_trimStart (hseen rfl _ hcut))
    · intro hunseen
      cases hcut : cutAtMarker marker line with
      | none => exact (hunseen fun _ cut hmem => by simp [hcut] at hmem).elim
      | some cut =>
          obtain ⟨front, back⟩ := cut
          have hback : CodePoint.nul ∉ back := fun hback =>
            hunseen fun _ cut hmem => by
              obtain rfl : (front, back) = cut := Option.some.inj (hcut.symm.trans hmem)
              exact hback
          have hfront : CodePoint.nul ∈ front := by
            rw [(cutAtMarker_eq_some hcut).1, List.mem_append] at hnul
            exact hnul.resolve_right hback
          exact ⟨_, locateMarker_of_nul hcut hfront, fun hmem =>
            hback ((List.dropWhile_suffix _).mem hmem)⟩
  · refine iff_of_false ?_ (fun hunseen => hunseen fun h => absurd h hstrategy)
    rintro ⟨found, hlocate, -⟩
    rw [locate_of_nul hnul hstrategy] at hlocate
    cases hlocate

end Compiler

namespace Session

theorem record_of_refusal {session : Session} {event : Event} {refusal : Compiler.Refusal}
    (hclassify : Compiler.classify session.recognition.strategy session.recognition.marker
      session.recognition.cwd (Path.parent event.projectFile) event.commandLine = .error refusal)
    (disk : Disk) :
    (session.record disk event).state.1 = disk ∧
      (session.record disk event).state.2.store = session.store ∧
      (session.record disk event).result = .ok 0 := by
  simp only [record, countMatched, hclassify, skip]
  exact ⟨trivial, trivial, trivial⟩

/-- A command line with a NUL is refused, from whatever directory it was run, just if the NUL is
split; then nothing of it reaches the store or the disk. -/
theorem record_of_nul (session : Session) (event : Event)
    (hnul : CodePoint.nul ∈ event.commandLine) :
    (∀ cwd base,
      (∃ refusal, Compiler.classify session.recognition.strategy session.recognition.marker cwd base
          event.commandLine = .error refusal) ↔
        Compiler.SplitsNul session.recognition.strategy session.recognition.marker
          event.commandLine) ∧
    (Compiler.SplitsNul session.recognition.strategy session.recognition.marker event.commandLine →
      ∀ disk,
        (session.record disk event).state.1 = disk ∧
          (session.record disk event).state.2.store = session.store ∧
          (session.record disk event).result = .ok 0) := by
  have hrefused : ∀ cwd base,
      (∃ refusal, Compiler.classify session.recognition.strategy session.recognition.marker cwd base
          event.commandLine = .error refusal) ↔
        Compiler.SplitsNul session.recognition.strategy session.recognition.marker
          event.commandLine := by
    intro cwd base
    rw [← not_iff_not, ← Compiler.exists_classify_of_nul_iff hnul]
    cases Compiler.classify session.recognition.strategy session.recognition.marker cwd base
        event.commandLine with
    | ok invocation => simp
    | error refusal => simp
  refine ⟨hrefused, fun hsplits disk => ?_⟩
  obtain ⟨refusal, hclassify⟩ := (hrefused _ _).mpr hsplits
  exact record_of_refusal hclassify disk

/-- A session that only searches for the marker. -/
def searching : Session := create {} { strategy := .marker, cwd := "/work" }

/-- A line with a NUL among the arguments. -/
def tornEvent : Event :=
  { taskName := "CL", projectFile := "C:\\src\\app.vcxproj"
    commandLine := "C:\\My VC\\cl.exe /c a\x00.cpp" }

theorem record_of_nul_tornEvent :
    CodePoint.nul ∈ tornEvent.commandLine ∧
      (∃ refusal, Compiler.classify .marker Compiler.defaultMarker "/work" "C:\\src"
        tornEvent.commandLine = .error refusal) ∧
      (searching.record {} tornEvent).state.2.store = searching.store ∧
      (searching.record {} tornEvent).result = .ok 0 := by
  have hnul : CodePoint.nul ∈ tornEvent.commandLine := by decide
  have hsplits : Compiler.SplitsNul .marker Compiler.defaultMarker tornEvent.commandLine := by
    decide +kernel
  obtain ⟨hrefused, hrecord⟩ := record_of_nul searching tornEvent hnul
  obtain ⟨-, hstore, hresult⟩ := hrecord hsplits {}
  exact ⟨hnul, (hrefused "/work" "C:\\src").mpr hsplits, hstore, hresult⟩

/-- A NUL in front of the marker stays in the compiler, and so in what is recorded. -/
theorem recordsOf_nul_in_front :
    CodePoint.nul ∈ Text.ofString "C:\\VC\x00\\cl.exe /c a.cpp" ∧
      ∃ invocation,
        Compiler.classify .marker Compiler.defaultMarker "/work" "C:\\src"
            "C:\\VC\x00\\cl.exe /c a.cpp" = .ok invocation ∧
          recordsOf "C:\\src" invocation =
            [⟨"C:\\src", "\"C:\\VC\x00\\cl.exe\" /c a.cpp", "a.cpp"⟩] := by
  have hclassify : Compiler.classify .marker Compiler.defaultMarker "/work" "C:\\src"
      "C:\\VC\x00\\cl.exe /c a.cpp" =
        .ok
          { compiler := "C:\\VC\x00\\cl.exe"
            arguments := "/c a.cpp"
            command := "\"C:\\VC\x00\\cl.exe\" /c a.cpp"
            sources := ["a.cpp"] } :=
    eq_ok_of_toOption (by decide +kernel)
  exact ⟨by decide, _, hclassify, rfl⟩

end Session

end BuildRecorder
