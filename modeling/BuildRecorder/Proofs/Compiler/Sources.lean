import BuildRecorder.Proofs.Compiler.Invocation
import BuildRecorder.Proofs.Compiler.Scan

/-!
# Where the characters of a source come from

A source is an argument, or what an option holds behind its name, and an argument has no characters
but those of the line it was read from. That line stands in the rebuilt command, so whatever the
characters of a command are like, those of its sources are like that too.
-/

namespace BuildRecorder

namespace Arguments

theorem mem_of_mem_readArgument {quoted : Bool} {t : Text} {c : CodePoint}
    (h : c ∈ (readArgument quoted t).1) : c ∈ t := by
  have hafter {rest : Text} (hc : c ∈ afterBackslashes rest) : c ∈ rest :=
    (List.dropWhile_suffix _).subset hc
  have hrun {n : Nat} (hc : c ∈ backslashes n) : c = backslash := List.eq_of_mem_replicate hc
  fun_induction readArgument quoted t
  case case1 => exact h
  case case2 hquote _ ih =>
    simp only [prepend_fst, List.mem_append, List.mem_singleton] at h
    rcases h with (hc | rfl) | hc
    · exact hrun hc ▸ List.mem_cons_self
    · exact List.mem_cons_of_mem _ (hafter (List.mem_of_mem_head? hquote))
    · exact List.mem_cons_of_mem _ (hafter (List.mem_of_mem_drop (ih hc)))
  case case3 ih | case4 ih =>
    rcases List.mem_append.mp h with hc | hc
    · exact hrun hc ▸ List.mem_cons_self
    · exact List.mem_cons_of_mem _ (hafter (ih hc))
  case case5 ih =>
    rcases List.mem_append.mp h with hc | hc
    · exact List.mem_singleton.mp hc ▸ List.mem_cons_self
    · exact List.mem_cons_of_mem _ (List.mem_of_mem_drop (ih hc))
  case case6 ih => exact List.mem_cons_of_mem _ (ih h)
  case case7 => cases h
  case case8 ih =>
    rcases List.mem_append.mp h with hc | hc
    · exact List.mem_singleton.mp hc ▸ List.mem_cons_self
    · exact List.mem_cons_of_mem _ (ih hc)

theorem mem_of_mem_scan {t : Text} {entry : Text × Text} {c : CodePoint} (hentry : entry ∈ scan t)
    (hc : c ∈ entry.1) : c ∈ t := by
  fun_induction scan t with
  | case1 => cases hentry
  | case2 t d rest heq ih =>
      have hstart : (d :: rest) <:+ t := heq ▸ List.dropWhile_suffix _
      rcases List.mem_cons.mp hentry with rfl | hlater
      · exact hstart.subset (mem_of_mem_readArgument hc)
      · exact hstart.subset ((readArgument_suffix false _).subset (ih hlater))

theorem mem_of_mem_split {line argument : Text} {arguments : List Text} {c : CodePoint}
    (hsplit : split line = .ok arguments) (hargument : argument ∈ arguments)
    (hc : c ∈ argument) : c ∈ line := by
  obtain ⟨-, rfl⟩ := split_eq_ok_iff.mp hsplit
  obtain ⟨entry, hentry, rfl⟩ := List.mem_map.mp hargument
  exact mem_of_mem_scan hentry hc

end Arguments

namespace Compiler

theorem subset_of_roleOf {argument source : Text} (h : roleOf argument = .holdsSource source) :
    source ⊆ argument := by
  cases argument with
  | nil => simp [roleOf] at h
  | cons mark name =>
      have hsource : source = name.drop 2 := by
        unfold roleOf optionRole at h
        grind
      rw [hsource]
      exact List.Subset.trans (List.drop_subset 2 name) (List.subset_cons_self mark name)

/-- What is found to be a source is an argument or stands in one. -/
theorem subset_of_mem_findings {arguments : List Text} {found : Finding} {source : Text}
    (hfound : found ∈ findings arguments)
    (hsource : found = .source source ∨ found = .bare source) :
    ∃ argument ∈ arguments, source ⊆ argument := by
  rw [findings_eq_filterMap] at hfound
  obtain ⟨i, -, hat⟩ := List.mem_filterMap.mp hfound
  obtain ⟨argument, hargument, hat⟩ := Option.bind_eq_some_iff.mp hat
  have hmem := List.mem_of_getElem? hargument
  cases hrole : roleOf argument with
  | bare =>
      obtain rfl : .bare argument = found := by simpa [hrole] using hat
      obtain rfl : argument = source := by simpa using hsource
      exact ⟨argument, hmem, List.Subset.refl _⟩
  | takesSource =>
      obtain ⟨value, hvalue, rfl⟩ : ∃ value, arguments[i + 1]? = some value ∧
          .source value = found := by simpa [hrole] using hat
      obtain rfl : value = source := by simpa using hsource
      exact ⟨value, List.mem_of_getElem? hvalue, List.Subset.refl _⟩
  | holdsSource held =>
      obtain rfl : .source held = found := by simpa [hrole] using hat
      obtain rfl : held = source := by simpa using hsource
      exact ⟨argument, hmem, subset_of_roleOf hrole⟩
  | _ => rcases hsource with rfl | rfl <;> simp [hrole] at hat

theorem mem_forcedSources_iff {found : List Finding} {source : Text} :
    source ∈ forcedSources found ↔ .source source ∈ found := by
  rw [forcedSources, List.mem_filterMap]
  constructor
  · rintro ⟨finding, hfinding, heq⟩
    cases finding with
    | source argument =>
        cases heq
        exact hfinding
    | _ => cases heq
  · intro h
    exact ⟨_, h, rfl⟩

theorem mem_bareArguments_iff {found : List Finding} {argument : Text} :
    argument ∈ bareArguments found ↔ .bare argument ∈ found := by
  rw [bareArguments, List.mem_filterMap]
  constructor
  · rintro ⟨finding, hfinding, heq⟩
    cases finding with
    | bare argument =>
        cases heq
        exact hfinding
    | _ => cases heq
  · intro h
    exact ⟨_, h, rfl⟩

theorem subset_of_mem_sources {arguments : List Text} {source : Text}
    (h : source ∈ sources arguments) : ∃ argument ∈ arguments, source ⊆ argument := by
  rcases List.mem_append.mp h with hforced | hbare
  · exact subset_of_mem_findings (mem_forcedSources_iff.mp hforced) (.inl rfl)
  · have hfound := mem_bareArguments_iff.mp (List.mem_filter.mp hbare).1
    exact subset_of_mem_findings hfound (.inr rfl)

theorem subset_buildCommand (compiler arguments : Text) :
    arguments ⊆ buildCommand compiler arguments := by
  intro c hc
  have hne : arguments.isEmpty = false := by
    cases arguments with
    | nil => cases hc
    | cons => rfl
  simp [buildCommand_eq, behindCompiler, hne, hc]

/-- The sources of an invocation have no characters but those of its command. -/
theorem source_subset_command {strategy : Strategy} {marker cwd base line source : Text}
    {invocation : Invocation} (hclassify : classify strategy marker cwd base line = .ok invocation)
    (h : source ∈ invocation.sources) : source ⊆ invocation.command := by
  obtain ⟨compiler, arguments, tokens, -, hsplit, rfl⟩ := classify_eq_ok_iff.mp hclassify
  obtain ⟨argument, hargument, hsubset⟩ := subset_of_mem_sources h
  intro c hc
  exact subset_buildCommand _ _ (Arguments.mem_of_mem_split hsplit hargument (hsubset hc))

end Compiler

end BuildRecorder
