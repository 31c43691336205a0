import BuildRecorder.Proofs.Compiler.Scan

/-!
# Arguments in their context

Behind arguments that are scanned to their very end the scan starts anew, so what is found in all of
them is what is found in the two parts. An option with its value, one that the grammar does not know
and a response file can then be left out, what follows the linker's option does not matter, and an
option that turns every bare argument into a source can stand anywhere.
-/

namespace BuildRecorder.Compiler

variable {front rest : List Text} {argument : Text}

/-- The scan comes to the very end of the arguments: it does not stop before, and no option asks for
an argument behind it. -/
def RunsThrough (arguments : List Text) : Prop := Reaches arguments arguments.length

theorem runsThrough_cons_iff :
    RunsThrough (argument :: rest) ↔
      ∃ n, stride argument = some n ∧ n ≤ rest.length + 1 ∧ RunsThrough (rest.drop (n - 1)) := by
  rw [RunsThrough, List.length_cons, reaches_cons_iff]
  constructor
  · rintro (hzero | ⟨n, j, hstride, hj, hlength⟩)
    · cases hzero
    · have hpos := stride_pos hstride
      have hend : j = (rest.drop (n - 1)).length := by
        rw [List.length_drop]
        omega
      rw [hend] at hj
      exact ⟨n, hstride, by omega, hj⟩
  · rintro ⟨n, hstride, hle, hrest⟩
    have hpos := stride_pos hstride
    refine .inr ⟨n, _, hstride, hrest, ?_⟩
    rw [List.length_drop]
    omega

theorem RunsThrough.drop {n : Nat} (h : RunsThrough (argument :: rest))
    (hstride : stride argument = some n) :
    n ≤ rest.length + 1 ∧ RunsThrough (rest.drop (n - 1)) := by
  obtain ⟨m, hstride', hle, hrest⟩ := runsThrough_cons_iff.mp h
  obtain rfl : n = m := Option.some.inj (hstride.symm.trans hstride')
  exact ⟨hle, hrest⟩

/-- No scanned argument leaves the rest to the linker, and none takes one from behind the end. -/
theorem runsThrough_iff {arguments : List Text} :
    RunsThrough arguments ↔ ∀ i ∈ scanned arguments, ∀ argument ∈ arguments[i]?,
      ∃ n ∈ stride argument, i + n ≤ arguments.length := by
  fun_induction scanned arguments with
  | case1 => simp [RunsThrough, Reaches.start]
  | case2 argument rest hstop => simp [runsThrough_cons_iff, hstop]
  | case3 argument rest n hstride ih =>
      have hpos := stride_pos hstride
      have hlength : (rest.drop (n - 1)).length = rest.length - (n - 1) := List.length_drop
      rw [List.forall_mem_cons, List.forall_mem_map, List.length_cons]
      simp only [getElem?_add_stride hstride]
      constructor
      · intro h
        obtain ⟨hle, hrest⟩ := h.drop hstride
        refine ⟨?_, ?_⟩
        · rintro _ ⟨⟩
          exact ⟨n, hstride, by omega⟩
        · intro i hi later hlater
          obtain ⟨m, hm, hend⟩ := ih.mp hrest i hi later hlater
          exact ⟨m, hm, by omega⟩
      · rintro ⟨hfirst, hlater⟩
        obtain ⟨m, hm, hle⟩ := hfirst argument rfl
        obtain rfl : n = m := Option.some.inj (hstride.symm.trans hm)
        refine runsThrough_cons_iff.mpr ⟨n, hstride, by omega, ih.mpr ?_⟩
        intro i hi later hargument
        obtain ⟨m, hm, hend⟩ := hlater i hi later hargument
        exact ⟨m, hm, by omega⟩

instance (arguments : List Text) : Decidable (RunsThrough arguments) :=
  decidable_of_iff _ runsThrough_iff.symm

/-- What stands at the start depends on no argument but those that the first one passes over. -/
theorem findingAt_append {n : Nat} (hstride : stride argument = some n)
    (hle : n ≤ front.length + 1) (rest : List Text) :
    findingAt (argument :: (front ++ rest)) 0 = findingAt (argument :: front) 0 := by
  cases hrole : roleOf argument with
  | takesSource =>
      obtain rfl : 2 = n := by simpa [stride_of_role hrole, Role.stride] using hstride
      obtain ⟨source, front, rfl⟩ :=
        List.exists_cons_of_length_pos (Nat.le_of_succ_le_succ hle)
      simp [findingAt, hrole]
  | link => simp [stride_of_role hrole, Role.stride] at hstride
  | _ => simp [findingAt, hrole]

/-- Behind arguments that are scanned to their end the scan starts anew. -/
theorem findings_append (h : RunsThrough front) (rest : List Text) :
    findings (front ++ rest) = findings front ++ findings rest := by
  fun_induction scanned front with
  | case1 => simp [findings]
  | case2 argument front hstop =>
      obtain ⟨n, hstride, -⟩ := runsThrough_cons_iff.mp h
      simp [hstop] at hstride
  | case3 argument front n hstride ih =>
      obtain ⟨hle, hfront⟩ := h.drop hstride
      have hdrop : (front ++ rest).drop (n - 1) = front.drop (n - 1) ++ rest :=
        List.drop_append_of_le_length (by omega)
      rw [List.cons_append, findings_cons_of_stride hstride, findings_cons_of_stride hstride,
        findingAt_append hstride hle, hdrop, ih hfront, List.append_assoc]

/-! ## What the sources depend on -/

theorem sources_congr {arguments arguments' : List Text}
    (hforced : forcedSources (findings arguments) = forcedSources (findings arguments'))
    (hbare : bareArguments (findings arguments) = bareArguments (findings arguments'))
    (hall : .allSources ∈ findings arguments ↔ .allSources ∈ findings arguments') :
    sources arguments = sources arguments' := by
  have haccepts : acceptsBare (findings arguments) = acceptsBare (findings arguments') := by
    funext argument
    have hcontains : (findings arguments).contains .allSources =
        (findings arguments').contains .allSources := by
      rw [Bool.eq_iff_iff, List.contains_iff_mem, List.contains_iff_mem, hall]
    rw [acceptsBare, acceptsBare, hcontains]
  simp only [sources, hforced, hbare, haccepts]

/-- An option that the grammar does not know. -/
def isUnknown (argument : Text) : Bool :=
  argument.head?.any isOptionMark &&
    !isOption (valueOptions ++ sourceOptions ++ allSourcesOptions ++ [linkOption]) argument &&
    !isOption sourceOptions (argument.take 3)

theorem roleOf_of_isUnknown (h : isUnknown argument = true) : roleOf argument = .other := by
  cases argument with
  | nil => cases h
  | cons mark name =>
      cases hmark : isOptionMark mark with
      | true =>
          rw [roleOf_option hmark]
          simp [isUnknown, hmark] at h
          unfold optionRole
          grind
      | false => simp [isUnknown, hmark] at h

/-! ## Arguments between two parts -/

theorem findings_insert (hfront : RunsThrough front) (inserted rest : List Text) :
    findings (front ++ inserted ++ rest) = findings front ++ findings (inserted ++ rest) := by
  rw [List.append_assoc, findings_append hfront]

theorem sources_insert {inserted : List Text} (hfront : RunsThrough front)
    (h : findings (inserted ++ rest) = findings rest) :
    sources (front ++ inserted ++ rest) = sources (front ++ rest) := by
  have hfound : findings (front ++ inserted ++ rest) = findings (front ++ rest) := by
    rw [findings_insert hfront, h, findings_append hfront]
  simp only [sources, hfound]

theorem sources_insert_response (hfront : RunsThrough front) (name : Text) :
    sources (front ++ [CodePoint.ofChar '@' :: name] ++ rest) = sources (front ++ rest) := by
  have hrole : roleOf (CodePoint.ofChar '@' :: name) = .response :=
    roleOf_of_not_mark (by decide) name
  have hfound : findings ([CodePoint.ofChar '@' :: name] ++ rest) =
      .response (CodePoint.ofChar '@' :: name) :: findings rest := by
    rw [List.singleton_append, findings_cons_of_stride (stride_of_role hrole)]
    simp [findingAt, hrole]
  apply sources_congr <;> rw [findings_insert hfront, hfound, findings_append hfront] <;>
    simp [forcedSources, bareArguments]

theorem sources_insert_link (hfront : RunsThrough front) (hrole : roleOf argument = .link) :
    sources (front ++ [argument] ++ rest) = sources front := by
  have hfound : findings ([argument] ++ rest) = [.link argument rest.length] := by
    rw [List.singleton_append, findings.eq_def]
    simp only [hrole]
  apply sources_congr <;> rw [findings_insert hfront, hfound] <;>
    simp [forcedSources, bareArguments]

theorem sources_insert_allSources (hfront : RunsThrough front)
    (hrole : roleOf argument = .allSources) :
    sources (front ++ [argument] ++ rest) = sources (argument :: (front ++ rest)) := by
  have hfound (arguments : List Text) :
      findings (argument :: arguments) = .allSources :: findings arguments := by
    rw [findings_cons_of_stride (stride_of_role hrole)]
    simp [findingAt, hrole]
  apply sources_congr <;>
    rw [findings_insert hfront, List.singleton_append, hfound, hfound, findings_append hfront] <;>
    simp [forcedSources, bareArguments]

/-- Arguments that are scanned to their end leave what follows them its meaning. -/
theorem sources_context (hfront : RunsThrough front) (rest : List Text) :
    (∀ option value, isOption valueOptions option = true →
        sources (front ++ [option, value] ++ rest) = sources (front ++ rest)) ∧
      (∀ option, isUnknown option = true →
        sources (front ++ [option] ++ rest) = sources (front ++ rest)) ∧
      (∀ name : Text,
        sources (front ++ [CodePoint.ofChar '@' :: name] ++ rest) = sources (front ++ rest)) ∧
      (∀ option, isOption [linkOption] option = true →
        sources (front ++ [option] ++ rest) = sources front) ∧
      (∀ option, isOption allSourcesOptions option = true →
        sources (front ++ [option] ++ rest) = sources (option :: (front ++ rest))) := by
  refine ⟨?_, ?_, sources_insert_response hfront, ?_, ?_⟩
  · intro option value hoption
    have hrole := (isOption_iff .takesValue (by decide)).mp hoption
    exact sources_insert hfront (by simp [findings, hrole])
  · intro option hoption
    have hrole := roleOf_of_isUnknown hoption
    exact sources_insert hfront (by simp [findings.eq_def (option :: rest), hrole])
  · intro option hoption
    exact sources_insert_link hfront ((isOption_iff .link (by decide)).mp hoption)
  · intro option hoption
    exact sources_insert_allSources hfront ((isOption_iff .allSources (by decide)).mp hoption)

/-- An option that takes what looks like the linker's option, and sources named in all ways. -/
def mixedArguments : List Text := ["/D", "/link", "a.h", "-Tpx.txt", "-Tc", "y.txt"]

def laterArguments : List Text := ["b.h", "c.cpp"]

theorem sources_context_mixed :
    RunsThrough mixedArguments ∧
      sources (mixedArguments ++ (["-FI", "/TC"] : List Text) ++ laterArguments) =
        sources (mixedArguments ++ laterArguments) ∧
      sources (mixedArguments ++ (["/W4"] : List Text) ++ laterArguments) =
        sources (mixedArguments ++ laterArguments) ∧
      sources (mixedArguments ++ (["@x.cpp"] : List Text) ++ laterArguments) =
        sources (mixedArguments ++ laterArguments) ∧
      sources (mixedArguments ++ (["-link"] : List Text) ++ laterArguments) =
        sources mixedArguments ∧
      sources (mixedArguments ++ (["-TP"] : List Text) ++ laterArguments) =
        sources ("-TP" :: (mixedArguments ++ laterArguments)) := by
  have hfront : RunsThrough mixedArguments := by decide +kernel
  obtain ⟨hvalue, hunknown, hresponse, hlink, hall⟩ := sources_context hfront laterArguments
  exact ⟨hfront, hvalue "-FI" "/TC" (by decide), hunknown "/W4" (by decide), hresponse "x.cpp",
    hlink "-link" (by decide), hall "-TP" (by decide)⟩

end BuildRecorder.Compiler
