import BuildRecorder.Proofs.Compiler.Invocation
import BuildRecorder.Proofs.Path.Absolute
import BuildRecorder.Proofs.Session.Run

/-!
# The compilers that are recorded

Every recorded command begins with the path of its compiler, in quotes. It is absolute if the
compiler was written with a root or if the directory of its project gives it one; a project whose
own path is relative gives none.
-/

namespace BuildRecorder.Session

variable {invocation : Compiler.Invocation}

/-- The directory that the compiler of an event was run in. -/
def directoryOf (recognition : Recognition) (event : Event) : Text :=
  Compiler.baseDirectory recognition.cwd (Path.parent event.projectFile)

theorem command_of_mem_recordsOf {directory : Text} {record : Record}
    (h : record ∈ recordsOf directory invocation) : record.command = invocation.command := by
  obtain ⟨file, -, rfl⟩ := List.mem_map.mp h
  rfl

/-- The compiler that is recorded is absolute if it, or the directory it was run in, fixes a root,
and, where no colon stands but behind a drive letter, only then. -/
theorem isAbsolute_recorded (recognition : Recognition) (event : Event)
    (hclassify : Compiler.classify recognition.strategy recognition.marker recognition.cwd
      (Path.parent event.projectFile) event.commandLine = .ok invocation) :
    (∀ record ∈ recordsOfEvent recognition event,
      record.command = Compiler.buildCommand invocation.compiler invocation.arguments) ∧
    ∃ compiler,
      Compiler.locate recognition.strategy recognition.marker event.commandLine =
          .ok (compiler, invocation.arguments) ∧
        (Path.Anchored (directoryOf recognition event) compiler →
          Path.IsAbsolute invocation.compiler) ∧
        (CodePoint.ofChar ':' ∉ (directoryOf recognition event).drop 2 →
          CodePoint.ofChar ':' ∉ compiler.drop 2 →
            Path.IsAbsolute invocation.compiler →
              Path.Anchored (directoryOf recognition event) compiler) := by
  refine ⟨fun record hrecord => ?_, ?_⟩
  · rw [recordsOfEvent, hclassify] at hrecord
    rw [command_of_mem_recordsOf hrecord]
    obtain ⟨_, _, _, -, -, rfl⟩ := Compiler.classify_eq_ok_iff.mp hclassify
    rfl
  · obtain ⟨compiler, arguments, tokens, hlocate, -, rfl⟩ :=
      Compiler.classify_eq_ok_iff.mp hclassify
    exact ⟨compiler, hlocate, Path.isAbsolute_canonical, Path.anchored_of_isAbsolute_canonical⟩

/-- A compiler that is reached from the directory of its project. -/
def climbingEvent : Event :=
  { taskName := "CL", projectFile := "C:\\src\\app\\app.vcxproj"
    commandLine := "..\\VC\\bin\\cl.exe /c a.cpp" }

theorem isAbsolute_recorded_climbing :
    ∃ invocation,
      Compiler.classify .auto Compiler.defaultMarker "/work" (Path.parent climbingEvent.projectFile)
          climbingEvent.commandLine = .ok invocation ∧
        Path.IsAbsolute invocation.compiler ∧
        ∀ record ∈ recordsOfEvent { cwd := "/work" } climbingEvent,
          record.command = Compiler.buildCommand invocation.compiler invocation.arguments := by
  have hclassify : Compiler.classify .auto Compiler.defaultMarker "/work"
      (Path.parent climbingEvent.projectFile) climbingEvent.commandLine =
        .ok
          { compiler := "C:\\src\\VC\\bin\\cl.exe"
            arguments := "/c a.cpp"
            command := "\"C:\\src\\VC\\bin\\cl.exe\" /c a.cpp"
            sources := ["a.cpp"] } :=
    eq_ok_of_toOption (by decide +kernel)
  obtain ⟨hcommands, compiler, hlocate, habsolute, -⟩ :=
    isAbsolute_recorded { cwd := "/work" } climbingEvent hclassify
  have hlocated : Compiler.locate .auto Compiler.defaultMarker climbingEvent.commandLine =
      .ok ("..\\VC\\bin\\cl.exe", "/c a.cpp") :=
    eq_ok_of_toOption (by decide +kernel)
  obtain rfl : compiler = "..\\VC\\bin\\cl.exe" :=
    congrArg Prod.fst (Except.ok.inj (hlocate.symm.trans hlocated))
  refine ⟨_, hclassify, habsolute ?_, hcommands⟩
  have hbase : directoryOf { cwd := "/work" } climbingEvent = "C:\\src\\app" := by
    decide +kernel
  rw [hbase]
  apply Path.Windows.Anchored.ofBase
  · exact ⟨by decide, by decide⟩
  · exact .inr ⟨CodePoint.ofChar 'C', "\\src\\app", by decide, by decide, rfl⟩

/-- The path of this project fixes no root, and the working directory is not put in front of it. -/
def relativeEvent : Event :=
  { taskName := "CL", projectFile := "app/app.vcxproj", commandLine := "cl.exe /c a.cpp" }

/-- A project with a relative path passes it on to the compiler. -/
theorem not_isAbsolute_recorded_relativeEvent :
    Path.Posix.isAbsolute "/work" = true ∧
      ∃ invocation,
        Compiler.classify .auto Compiler.defaultMarker "/work"
            (Path.parent relativeEvent.projectFile) relativeEvent.commandLine = .ok invocation ∧
          ¬Path.IsAbsolute invocation.compiler ∧
          recordsOfEvent { cwd := "/work" } relativeEvent =
            [⟨"app", "\"app/cl.exe\" /c a.cpp", "a.cpp"⟩] := by
  have hclassify : Compiler.classify .auto Compiler.defaultMarker "/work"
      (Path.parent relativeEvent.projectFile) relativeEvent.commandLine =
        .ok
          { compiler := "app/cl.exe"
            arguments := "/c a.cpp"
            command := "\"app/cl.exe\" /c a.cpp"
            sources := ["a.cpp"] } :=
    eq_ok_of_toOption (by decide +kernel)
  have hrecords : recordsOfEvent { cwd := "/work" } relativeEvent =
      [⟨"app", "\"app/cl.exe\" /c a.cpp", "a.cpp"⟩] := by
    rw [recordsOfEvent, hclassify]
    decide
  exact ⟨by decide, _, hclassify, Path.not_isAbsolute_plain (by decide) (by decide), hrecords⟩

end BuildRecorder.Session
