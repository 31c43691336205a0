import BuildRecorder.Compiler.Invocation
import BuildRecorder.Proofs.Compiler.Location
import BuildRecorder.Proofs.Path.Characters

/-!
# What is recognized in a command line

A command line that was joined from a compiler and its arguments is taken apart again. The command
that is rebuilt has the same arguments behind a compiler in quotes, so it is read as the invocation
it was built for as long as the compiler itself holds no quote.
-/

namespace BuildRecorder.Compiler

open Arguments (split quote backslash PlainQuotes)

variable {strategy : Strategy} {marker cwd base line : Text} {invocation : Invocation}

theorem classify_eq_ok_iff :
    classify strategy marker cwd base line = .ok invocation ↔
      ∃ compiler arguments tokens, locate strategy marker line = .ok (compiler, arguments) ∧
        split arguments = .ok tokens ∧
        invocation =
          { compiler := Path.canonical (baseDirectory cwd base) compiler
            arguments
            command := buildCommand (Path.canonical (baseDirectory cwd base) compiler) arguments
            sources := sources tokens } := by
  unfold classify
  cases locate strategy marker line with
  | error refusal => simp
  | ok found =>
      obtain ⟨compiler, arguments⟩ := found
      cases hsplit : split arguments with
      | error fault => simp [hsplit]
      | ok tokens =>
          constructor
          · intro h
            exact ⟨compiler, arguments, tokens, rfl, hsplit, by simpa [hsplit, eq_comm] using h⟩
          · rintro ⟨_, _, tokens', hlocate, hsplit', rfl⟩
            cases hlocate
            obtain rfl : tokens = tokens' := Except.ok.inj (hsplit.symm.trans hsplit')
            simp [hsplit]

/-! ## Joined command lines -/

theorem namesMarker_defaultMarker (compiler : Text) :
    namesMarker compiler defaultMarker = true ↔
      (Path.basename compiler).lower = "cl.exe" ∨ (Path.basename compiler).lower = "cl" := by
  have hlower : defaultMarker.lower = "cl.exe" := by decide
  have hending : (Text.ofString "cl.exe").endsWith executableEnding = true := by decide
  have hstem : (Text.ofString "cl.exe").take
      ((Text.ofString "cl.exe").length - executableEnding.length) = "cl" := by decide
  simp [namesMarker, hlower, hending, hstem]

/-- A joined command line gives back its compiler and its arguments, however they had to be quoted,
if the compiler is asked for as the first argument or bears the name that is looked for. -/
theorem classify_join {compiler : Text} {arguments : List Text}
    (hcompiler : CodePoint.nul ∉ compiler)
    (harguments : ∀ argument ∈ arguments, CodePoint.nul ∉ argument)
    (hfound : strategy = .firstToken ∧ compiler ≠ [] ∨
      strategy = .auto ∧ marker = defaultMarker ∧
        ((Path.basename compiler).lower = "cl.exe" ∨ (Path.basename compiler).lower = "cl")) :
    locate strategy marker (Arguments.join (compiler :: arguments)) =
        .ok (compiler, Arguments.join arguments) ∧
      ∃ invocation,
        classify strategy marker cwd base (Arguments.join (compiler :: arguments)) =
          .ok invocation ∧
        invocation.arguments = Arguments.join arguments ∧
        invocation.sources = sources arguments := by
  have hnul : CodePoint.nul ∉ Arguments.join (compiler :: arguments) := by
    rw [Arguments.nul_mem_join]
    simpa [hcompiler] using harguments
  have hnul' : CodePoint.nul ∉ Arguments.join arguments := by
    rw [Arguments.nul_mem_join]
    simpa using harguments
  have hne : compiler ≠ [] := by
    rcases hfound with ⟨-, hne⟩ | ⟨-, -, hnamed⟩
    · exact hne
    · rintro rfl
      exact absurd hnamed (by decide)
  have hnamed : strategy = .firstToken ∨
      strategy = .auto ∧ namesMarker compiler marker = true := by
    rcases hfound with ⟨rfl, -⟩ | ⟨rfl, rfl, hnamed⟩
    · exact .inl rfl
    · exact .inr ⟨rfl, (namesMarker_defaultMarker compiler).mpr hnamed⟩
  have hlocate := locate_of_splitFirst (Arguments.splitFirst_join hnul) hne hnamed
  have hsplit : split (Arguments.join arguments) = .ok arguments :=
    Arguments.split_eq_ok_iff.mpr ⟨hnul', Arguments.scan_join arguments⟩
  exact ⟨hlocate, _, classify_eq_ok_iff.mpr ⟨_, _, _, hlocate, hsplit, rfl⟩, rfl, rfl⟩

theorem classify_join_quoted :
    locate .auto defaultMarker
        (Arguments.join ["C:\\My VC\\CL.EXE", "/DX=\"a b\\\"", "", "my file.cpp", "x\\"]) =
      .ok ("C:\\My VC\\CL.EXE", Arguments.join ["/DX=\"a b\\\"", "", "my file.cpp", "x\\"]) ∧
      ∃ invocation,
        classify .auto defaultMarker "/work" "C:\\src"
            (Arguments.join ["C:\\My VC\\CL.EXE", "/DX=\"a b\\\"", "", "my file.cpp", "x\\"]) =
          .ok invocation ∧
        invocation.arguments = Arguments.join ["/DX=\"a b\\\"", "", "my file.cpp", "x\\"] ∧
        invocation.sources = sources ["/DX=\"a b\\\"", "", "my file.cpp", "x\\"] :=
  classify_join (by decide +kernel) (by decide +kernel)
    (.inr ⟨rfl, rfl, .inl (by decide +kernel)⟩)

/-! ## Rebuilt commands -/

/-- What follows the compiler in a rebuilt command. -/
def behindCompiler (arguments : Text) : Text :=
  if arguments.isEmpty then [] else CodePoint.ofChar ' ' :: arguments

theorem buildCommand_eq (compiler arguments : Text) :
    buildCommand compiler arguments =
      quote :: (compiler ++ quote :: behindCompiler arguments) := by
  have hquote : Text.ofString "\"" = [quote] := rfl
  have hspace : Text.ofString " " = [CodePoint.ofChar ' '] := rfl
  unfold buildCommand behindCompiler
  cases arguments with
  | nil => simp [hquote]
  | cons c rest => simp [hquote, hspace]

theorem nul_notMem_buildCommand {compiler arguments : Text} (hcompiler : CodePoint.nul ∉ compiler)
    (harguments : CodePoint.nul ∉ arguments) : CodePoint.nul ∉ buildCommand compiler arguments := by
  have hquote : CodePoint.nul ≠ quote := by decide
  have hspace : CodePoint.nul ≠ CodePoint.ofChar ' ' := by decide
  rw [buildCommand_eq, behindCompiler]
  split <;> simp [hquote, hspace, hcompiler, harguments]

theorem scan_buildCommand {compiler : Text} (arguments : Text) (hquote : quote ∉ compiler)
    (hend : compiler.getLast? ≠ some backslash) :
    (Arguments.scan (buildCommand compiler arguments)).map (·.1) =
      compiler :: (Arguments.scan arguments).map (·.1) := by
  cases arguments with
  | nil =>
      have hend' : Arguments.EndsArgument [] := by simp [Arguments.EndsArgument]
      rw [buildCommand_eq, behindCompiler]
      simp [Arguments.scan_between_quotes hquote hend hend']
  | cons c rest =>
      have hend' := Arguments.endsArgument_space (c :: rest)
      rw [buildCommand_eq, behindCompiler]
      simp [Arguments.scan_between_quotes hquote hend hend',
        Arguments.scan_separator _ Arguments.isSeparator_space]

/-- The rebuilt command is split into the compiler and the arguments that were found behind it, so
the same sources are found in it. -/
theorem split_command (hclassify : classify strategy marker cwd base line = .ok invocation)
    (hquote : quote ∉ invocation.compiler) (hnul : CodePoint.nul ∉ invocation.compiler)
    (hend : invocation.compiler.getLast? ≠ some backslash) :
    ∃ tokens, split invocation.arguments = .ok tokens ∧
      split invocation.command = .ok (invocation.compiler :: tokens) ∧
      sources tokens = invocation.sources := by
  obtain ⟨compiler, arguments, tokens, hlocate, hsplit, rfl⟩ := classify_eq_ok_iff.mp hclassify
  obtain ⟨hnul', hscan⟩ := Arguments.split_eq_ok_iff.mp hsplit
  have hcommand := scan_buildCommand arguments hquote hend
  rw [hscan] at hcommand
  exact ⟨tokens, hsplit,
    Arguments.split_eq_ok_iff.mpr ⟨nul_notMem_buildCommand hnul hnul', hcommand⟩, rfl⟩

/-- What is recognized in a line whose last quote is never closed. -/
def unclosedInvocation : Invocation :=
  { compiler := "C:\\My VC\\cl.exe"
    arguments := "/c  \"a b.cpp"
    command := "\"C:\\My VC\\cl.exe\" /c  \"a b.cpp"
    sources := ["a b.cpp"] }

theorem split_command_unclosed :
    classify .auto defaultMarker "/work" [] "C:\\My VC\\bin\\..\\cl.exe /c  \"a b.cpp" =
        .ok unclosedInvocation ∧
      ∃ tokens, split unclosedInvocation.arguments = .ok tokens ∧
        split unclosedInvocation.command = .ok (unclosedInvocation.compiler :: tokens) ∧
        sources tokens = unclosedInvocation.sources := by
  have hclassify : classify .auto defaultMarker "/work" []
      "C:\\My VC\\bin\\..\\cl.exe /c  \"a b.cpp" = .ok unclosedInvocation :=
    eq_ok_of_toOption (by decide +kernel)
  exact ⟨hclassify, split_command hclassify (by decide) (by decide) (by decide)⟩

/-! ## Quotes in the compiler -/

/-- Where quotes are plain delimiters, the compiler that is put between quotes holds none, unless it
was found by a marker with a quote in front of it that does not open the line. -/
theorem quote_notMem_compiler (hplain : PlainQuotes line)
    (hbase : quote ∉ baseDirectory cwd base)
    (hclassify : classify strategy marker cwd base line = .ok invocation)
    (hfront : FindsFirst strategy marker line ∨ ¬QuoteBeforeMarker marker line) :
    quote ∉ invocation.compiler := by
  obtain ⟨compiler, arguments, tokens, hlocate, hsplit, rfl⟩ := classify_eq_ok_iff.mp hclassify
  have hcompiler := quote_notMem_of_locate hplain hlocate hfront
  have hcanonical : ∀ c ∈ Path.canonical (baseDirectory cwd base) compiler, c ≠ quote :=
    Path.forall_mem_canonical (by decide) (by decide) (by decide)
      (fun c hc => ne_of_mem_of_not_mem hc hbase)
      (fun c hc => ne_of_mem_of_not_mem hc hcompiler)
  exact fun h => hcanonical quote h rfl

theorem quote_notMem_compiler_opened :
    ∃ invocation,
      classify .auto defaultMarker "/work" "C:\\src" "\"C:\\My VC\\cl.exe /c \"a b.cpp\"" =
          .ok invocation ∧
        quote ∉ invocation.compiler := by
  have hclassify : classify .auto defaultMarker "/work" "C:\\src"
      "\"C:\\My VC\\cl.exe /c \"a b.cpp\"" =
        .ok
          { compiler := "C:\\My VC\\cl.exe"
            arguments := "/c \"a b.cpp\""
            command := "\"C:\\My VC\\cl.exe\" /c \"a b.cpp\""
            sources := ["a b.cpp"] } :=
    eq_ok_of_toOption (by decide +kernel)
  exact ⟨_, hclassify,
    quote_notMem_compiler (by decide +kernel) (by decide) hclassify (.inr (by decide +kernel))⟩

/-- A launcher in quotes in front of a compiler without them: only the opening quote is taken off,
and the closing one is left inside what is taken for the path of the compiler. -/
theorem quote_mem_compiler_launched :
    PlainQuotes "\"C:\\run.exe\" C:\\VC\\cl.exe /c a.cpp" ∧
      CodePoint.nul ∉ Text.ofString "\"C:\\run.exe\" C:\\VC\\cl.exe /c a.cpp" ∧
      quote ∉ Text.ofString "C:\\src" ∧
      ∃ invocation,
        classify .auto defaultMarker "/work" "C:\\src"
            "\"C:\\run.exe\" C:\\VC\\cl.exe /c a.cpp" = .ok invocation ∧
          quote ∈ invocation.compiler := by
  have hclassify : classify .auto defaultMarker "/work" "C:\\src"
      "\"C:\\run.exe\" C:\\VC\\cl.exe /c a.cpp" =
        .ok
          { compiler := "C:\\run.exe\" C:\\VC\\cl.exe"
            arguments := "/c a.cpp"
            command := "\"C:\\run.exe\" C:\\VC\\cl.exe\" /c a.cpp"
            sources := ["a.cpp"] } :=
    eq_ok_of_toOption (by decide +kernel)
  exact ⟨by decide +kernel, by decide, by decide, _, hclassify, by decide⟩

end BuildRecorder.Compiler
