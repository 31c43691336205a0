import BuildRecorder.Compiler.Sources
import Mathlib.Data.List.Nodup
import Mathlib.Data.List.Pairwise

/-!
# Where a scan of arguments looks

A scan starts at the first argument. From each argument that it looks at it goes on by one position
or by two, or it stops there. All that is found stands where the scan looks or right behind, and no
position is passed over from two places, so every source that the grammar gives is found once.
-/

namespace BuildRecorder.Compiler

variable {arguments : List Text} {argument : Text} {i : Nat}

/-- Whether an argument is an option with one of these names, behind either mark. -/
def isOption (names : List Text) (argument : Text) : Bool :=
  argument.head?.any isOptionMark && names.contains argument.tail

@[simp] theorem isOption_nil (names : List Text) : isOption names [] = false := rfl

@[simp] theorem isOption_cons (names : List Text) (mark : CodePoint) (name : Text) :
    isOption names (mark :: name) = (isOptionMark mark && decide (name ∈ names)) := by
  rw [isOption, List.contains_eq_mem]
  rfl

/-- Whether an argument is neither an option nor a response file. -/
def isBare (argument : Text) : Bool :=
  argument.head?.all fun c : CodePoint => !isOptionMark c && c ≠ '@'

/-- How far the scan goes on from an argument, unless it stops there. -/
def stride (argument : Text) : Option Nat :=
  if isOption valueOptions argument || isOption sourceOptions argument then some 2
  else if isOption [linkOption] argument then none
  else some 1

/-- The positions that the scan comes to. The last one may lie behind the end. -/
inductive Reaches (arguments : List Text) : Nat → Prop
  | start : Reaches arguments 0
  | next {i n : Nat} {argument : Text} (h : Reaches arguments i)
      (hargument : arguments[i]? = some argument) (hstride : stride argument = some n) :
      Reaches arguments (i + n)

/-- The positions of the arguments that the scan looks at, in order. -/
def scanned : List Text → List Nat
  | [] => []
  | argument :: rest =>
    match stride argument with
    | none => [0]
    | some n => 0 :: (scanned (rest.drop (n - 1))).map (· + n)
termination_by arguments => arguments.length
decreasing_by
  simp only [List.length_drop, List.length_cons]
  omega

theorem stride_pos {n : Nat} (h : stride argument = some n) : 0 < n := by
  unfold stride at h
  grind

theorem getElem?_add_stride {n : Nat} (h : stride argument = some n) (rest : List Text) (j : Nat) :
    (argument :: rest)[j + n]? = (rest.drop (n - 1))[j]? := by
  obtain ⟨m, rfl⟩ := Nat.exists_eq_succ_of_ne_zero (Nat.ne_of_gt (stride_pos h))
  simp [Nat.add_comm, ← Nat.add_assoc]

/-- Behind the first argument the scan goes on as at the start of what is left. -/
theorem reaches_cons_iff {rest : List Text} :
    Reaches (argument :: rest) i ↔
      i = 0 ∨ ∃ n j, stride argument = some n ∧ Reaches (rest.drop (n - 1)) j ∧ i = j + n := by
  constructor
  · intro h
    induction h with
    | start => exact .inl rfl
    | @next i m later h hargument hstride ih =>
        right
        rcases ih with rfl | ⟨n, j, hfirst, hj, rfl⟩
        · obtain rfl : argument = later := by simpa using hargument
          exact ⟨m, 0, hstride, .start, by omega⟩
        · rw [getElem?_add_stride hfirst] at hargument
          exact ⟨n, j + m, hfirst, .next hj hargument hstride, by omega⟩
  · rintro (rfl | ⟨n, j, hfirst, hj, rfl⟩)
    · exact .start
    · induction hj with
      | start => exact .next .start rfl hfirst
      | @next j m later h hargument hstride ih =>
          rw [← getElem?_add_stride hfirst] at hargument
          rw [Nat.add_right_comm]
          exact .next ih hargument hstride

theorem mem_scanned_iff : i ∈ scanned arguments ↔ Reaches arguments i ∧ i < arguments.length := by
  fun_induction scanned arguments generalizing i with
  | case1 => simp
  | case2 argument rest hstop =>
      simp only [List.mem_singleton, reaches_cons_iff, hstop, List.length_cons]
      constructor
      · rintro rfl
        exact ⟨.inl rfl, Nat.succ_pos _⟩
      · rintro ⟨rfl | ⟨_, _, hnone, -⟩, -⟩
        · rfl
        · cases hnone
  | case3 argument rest n hstride ih =>
      have hpos := stride_pos hstride
      simp only [List.mem_cons, List.mem_map, ih, reaches_cons_iff, hstride, List.length_drop,
        List.length_cons]
      constructor
      · rintro (rfl | ⟨j, ⟨hj, hlt⟩, rfl⟩)
        · exact ⟨.inl rfl, by omega⟩
        · exact ⟨.inr ⟨n, j, rfl, hj, rfl⟩, by omega⟩
      · rintro ⟨rfl | ⟨_, j, ⟨⟩, hj, rfl⟩, hlt⟩
        · exact .inl rfl
        · exact .inr ⟨j, ⟨hj, by omega⟩, rfl⟩

/-- Where the scan looks it goes on by its stride, so what lies in between is passed over. -/
theorem pairwise_scanned (arguments : List Text) :
    (scanned arguments).Pairwise fun i j =>
      ∃ argument n, arguments[i]? = some argument ∧ stride argument = some n ∧ i + n ≤ j := by
  fun_induction scanned arguments with
  | case1 => exact .nil
  | case2 => exact List.pairwise_singleton _ _
  | case3 argument rest n hstride ih =>
      refine .cons ?_ ?_
      · intro j hj
        obtain ⟨j, -, rfl⟩ := List.mem_map.mp hj
        exact ⟨argument, n, rfl, hstride, by omega⟩
      · rw [List.pairwise_map]
        refine ih.imp ?_
        rintro i j ⟨later, m, hargument, hlater, hle⟩
        exact ⟨later, m, (getElem?_add_stride hstride rest i).trans hargument, hlater, by omega⟩

/-! ## Options and roles -/

/-- The roles that an option has by its whole name, and these names. -/
def namedRoles : List (Role × List Text) :=
  [(.takesValue, valueOptions), (.takesSource, sourceOptions), (.allSources, allSourcesOptions),
    (.link, [linkOption])]

theorem optionRole_eq_iff {role : Role} {names : List Text} (hrole : (role, names) ∈ namedRoles)
    {name : Text} : optionRole name = role ↔ name ∈ names := by
  have hnamed : ∀ entry ∈ namedRoles, ∀ name ∈ entry.2, optionRole name = entry.1 := by
    decide +kernel
  constructor
  · intro h
    unfold optionRole at h
    grind [namedRoles]
  · exact hnamed (role, names) hrole name

theorem roleOf_option {mark : CodePoint} (hmark : isOptionMark mark = true) (name : Text) :
    roleOf (mark :: name) = optionRole name := if_pos hmark

theorem roleOf_of_not_mark {mark : CodePoint} (hmark : isOptionMark mark = false) (name : Text) :
    roleOf (mark :: name) = if mark = CodePoint.ofChar '@' then .response else .bare :=
  if_neg (by simp [hmark])

theorem isOption_iff (role : Role) {names : List Text} (hrole : (role, names) ∈ namedRoles) :
    isOption names argument = true ↔ roleOf argument = role := by
  have hother : ∀ entry ∈ namedRoles, entry.1 ≠ .response ∧ entry.1 ≠ .bare := by decide
  obtain ⟨hresponse, hbare⟩ := hother _ hrole
  cases argument with
  | nil => simpa [roleOf] using hbare.symm
  | cons mark name =>
      cases hmark : isOptionMark mark with
      | true =>
          rw [roleOf_option hmark, optionRole_eq_iff hrole]
          simp [hmark]
      | false =>
          rw [roleOf_of_not_mark hmark]
          simp only [isOption_cons, hmark, Bool.false_and, Bool.false_eq_true, false_iff]
          split
          · exact hresponse.symm
          · exact hbare.symm

theorem isBare_iff : isBare argument = true ↔ roleOf argument = .bare := by
  cases argument with
  | nil => simp [isBare, roleOf]
  | cons mark name =>
      cases hmark : isOptionMark mark with
      | true =>
          have hrole : optionRole name ≠ .bare := by
            unfold optionRole
            grind
          simpa [isBare, roleOf_option hmark, hmark] using hrole
      | false =>
          rw [roleOf_of_not_mark hmark]
          simp [isBare, hmark]

/-- The name of an attached option stands in the first three characters. -/
theorem holdsSource_iff {source : Text} :
    roleOf argument = .holdsSource source ↔
      isOption sourceOptions argument = false ∧
        isOption sourceOptions (argument.take 3) = true ∧ source = argument.drop 3 := by
  cases argument with
  | nil => simp [roleOf]
  | cons mark name =>
      cases hmark : isOptionMark mark with
      | true =>
          have hvalue : ∀ name ∈ valueOptions, name.take 2 ∉ sourceOptions := by decide
          rw [roleOf_option hmark]
          simp only [isOption_cons, hmark, Bool.true_and, decide_eq_false_iff_not,
            decide_eq_true_eq, List.take_succ_cons, List.drop_succ_cons]
          unfold optionRole
          grind
      | false =>
          rw [roleOf_of_not_mark hmark]
          simp only [isOption_cons, hmark, Bool.false_and, Bool.false_eq_true, List.take_succ_cons,
            false_and, and_false, iff_false]
          split <;> simp

/-- How far the scan goes on from an argument with a role. -/
def Role.stride : Role → Option Nat
  | .takesValue | .takesSource => some 2
  | .link => none
  | _ => some 1

theorem stride_of_role {role : Role} (h : roleOf argument = role) :
    stride argument = role.stride := by
  have hvalue := @isOption_iff argument .takesValue valueOptions (by decide)
  have hsource := @isOption_iff argument .takesSource sourceOptions (by decide)
  have hlink := @isOption_iff argument .link [linkOption] (by decide)
  simp only [stride, Bool.or_eq_true, hvalue, hsource, hlink, h]
  cases role <;> simp [Role.stride]

/-! ## What stands where the scan looks -/

/-- What is found at a position that the scan looks at. -/
def findingAt (arguments : List Text) (i : Nat) : Option Finding :=
  arguments[i]?.bind fun argument =>
    match roleOf argument with
    | .response => some (.response argument)
    | .bare => some (.bare argument)
    | .takesSource => arguments[i + 1]?.map .source
    | .holdsSource source => some (.source source)
    | .allSources => some .allSources
    | .link => some (.link argument (arguments.length - (i + 1)))
    | .takesValue | .other => none

theorem findingAt_add_stride {n : Nat} (h : stride argument = some n) (rest : List Text) (i : Nat) :
    findingAt (argument :: rest) (i + n) = findingAt (rest.drop (n - 1)) i := by
  have hpos := stride_pos h
  have hlength :
      (argument :: rest).length - (i + n + 1) = (rest.drop (n - 1)).length - (i + 1) := by
    simp only [List.length_cons, List.length_drop]
    omega
  rw [findingAt, findingAt, getElem?_add_stride h, Nat.add_right_comm, getElem?_add_stride h,
    Nat.add_right_comm, hlength]

theorem filterMap_scanned_cons {n : Nat} (h : stride argument = some n) (rest : List Text) :
    (scanned (argument :: rest)).filterMap (findingAt (argument :: rest)) =
      (findingAt (argument :: rest) 0).toList ++
        (scanned (rest.drop (n - 1))).filterMap (findingAt (rest.drop (n - 1))) := by
  rw [scanned, h]
  simp only [List.filterMap_cons, List.filterMap_map, Function.comp_def, findingAt_add_stride h]
  cases findingAt (argument :: rest) 0 <;> rfl

/-- The findings are what stands at the positions that the scan looks at. -/
theorem findings_eq_filterMap (arguments : List Text) :
    findings arguments = (scanned arguments).filterMap (findingAt arguments) := by
  fun_induction findings arguments
  case case1 => simp [scanned]
  case case4 hrole | case6 hrole =>
    rw [filterMap_scanned_cons (stride_of_role hrole)]
    simp [findingAt, hrole, scanned]
  case case10 hrole =>
    rw [scanned, stride_of_role hrole]
    simp [findingAt, hrole, Role.stride]
  case case2 hrole ih | case3 hrole ih | case8 hrole ih | case9 hrole ih | case11 hrole ih =>
    rw [filterMap_scanned_cons (stride_of_role hrole), ih]
    simp [findingAt, hrole]
  case case5 hrole _ _ ih | case7 hrole _ _ ih =>
    rw [filterMap_scanned_cons (stride_of_role hrole), ih]
    simp [findingAt, hrole]

theorem findings_cons_of_stride {n : Nat} (h : stride argument = some n) (rest : List Text) :
    findings (argument :: rest) =
      (findingAt (argument :: rest) 0).toList ++ findings (rest.drop (n - 1)) := by
  rw [findings_eq_filterMap, filterMap_scanned_cons h, ← findings_eq_filterMap]

/-! ## Sources -/

/-- The source that the option at a position names, behind the position where it is written: that of
the next argument, or, if it is attached, that of the option. -/
def namedAt (arguments : List Text) (i : Nat) : Option (Nat × Text) :=
  arguments[i]?.bind fun argument =>
    if isOption sourceOptions argument then arguments[i + 1]?.map fun source => (i + 1, source)
    else if isOption sourceOptions (argument.take 3) then some (i, argument.drop 3)
    else none

/-- Whether an option is scanned that turns every bare argument into a source. -/
def takesAll (arguments : List Text) : Bool :=
  (scanned arguments).any fun i => arguments[i]?.any (isOption allSourcesOptions)

/-- The bare argument at a position, if it is a source. -/
def bareAt (arguments : List Text) (i : Nat) : Option (Nat × Text) :=
  arguments[i]?.bind fun argument =>
    if isBare argument && (takesAll arguments || isSourceFile argument) then some (i, argument)
    else none

/-- The sources by the grammar, each behind the position where it is written. -/
def written (arguments : List Text) : List (Nat × Text) :=
  (scanned arguments).filterMap (namedAt arguments) ++
    (scanned arguments).filterMap (bareAt arguments)

theorem namedAt_eq (arguments : List Text) (i : Nat) :
    namedAt arguments i = arguments[i]?.bind fun argument =>
      match roleOf argument with
      | .takesSource => arguments[i + 1]?.map fun source => (i + 1, source)
      | .holdsSource source => some (i, source)
      | _ => none := by
  unfold namedAt
  congr 1
  funext argument
  have hsource := @isOption_iff argument .takesSource sourceOptions (by decide)
  by_cases hexact : isOption sourceOptions argument = true
  · rw [if_pos hexact, hsource.mp hexact]
  rw [if_neg hexact]
  by_cases hattached : isOption sourceOptions (argument.take 3) = true
  · rw [if_pos hattached, holdsSource_iff.mpr ⟨by simpa using hexact, hattached, rfl⟩]
  rw [if_neg hattached]
  cases hrole : roleOf argument with
  | takesSource => exact absurd (hsource.mpr hrole) hexact
  | holdsSource source => exact absurd (holdsSource_iff.mp hrole).2.1 hattached
  | _ => rfl

theorem forcedSources_findings (arguments : List Text) :
    forcedSources (findings arguments) =
      ((scanned arguments).filterMap (namedAt arguments)).map (·.2) := by
  rw [findings_eq_filterMap, forcedSources, List.filterMap_filterMap, List.map_filterMap]
  congr 1
  funext i
  rw [findingAt, namedAt_eq]
  cases arguments[i]? with
  | none => rfl
  | some argument =>
      simp only [Option.bind_some]
      cases roleOf argument with
      | takesSource => cases arguments[i + 1]? <;> rfl
      | _ => rfl

theorem findingAt_eq_allSources_iff :
    findingAt arguments i = some .allSources ↔
      ∃ argument, arguments[i]? = some argument ∧ isOption allSourcesOptions argument = true := by
  have hall (argument : Text) := @isOption_iff argument .allSources allSourcesOptions (by decide)
  simp only [hall]
  unfold findingAt
  cases hargument : arguments[i]? with
  | none => simp
  | some argument => cases hrole : roleOf argument <;> simp [hrole]

theorem contains_allSources_findings (arguments : List Text) :
    (findings arguments).contains .allSources = takesAll arguments := by
  rw [Bool.eq_iff_iff, List.contains_iff_mem, findings_eq_filterMap, List.mem_filterMap, takesAll,
    List.any_eq_true]
  simp only [findingAt_eq_allSources_iff, Option.any_eq_true]

theorem bareSources_findings (arguments : List Text) :
    (bareArguments (findings arguments)).filter (acceptsBare (findings arguments)) =
      ((scanned arguments).filterMap (bareAt arguments)).map (·.2) := by
  have haccepts (argument : Text) : acceptsBare (findings arguments) argument =
      (takesAll arguments || isSourceFile argument) := by
    rw [acceptsBare, contains_allSources_findings]
  rw [funext haccepts]
  rw [findings_eq_filterMap, bareArguments, List.filterMap_filterMap, List.map_filterMap,
    List.filter_filterMap]
  congr 1
  funext i
  cases hargument : arguments[i]? with
  | none => simp [findingAt, bareAt, hargument]
  | some argument =>
      simp only [findingAt, bareAt, hargument, Option.bind_some]
      cases hbare : isBare argument with
      | true =>
          rw [isBare_iff.mp hbare]
          simp only [Bool.true_and, Option.bind_some, Option.filter_some]
          split <;> rfl
      | false =>
          rw [Bool.false_and, if_neg Bool.false_ne_true]
          cases hrole : roleOf argument with
          | bare => simp [isBare_iff.mpr hrole] at hbare
          | takesSource => cases arguments[i + 1]? <;> rfl
          | _ => rfl

/-! ## Every position gives at most one source -/

/-- The positions that the scan passes over by looking at one of them. -/
def Covers (arguments : List Text) (i position : Nat) : Prop :=
  i ≤ position ∧
    ∃ argument n, arguments[i]? = some argument ∧ stride argument = some n ∧ position < i + n

theorem covers_of_namedAt {entry : Nat × Text} (h : namedAt arguments i = some entry) :
    Covers arguments i entry.1 := by
  rw [namedAt_eq] at h
  obtain ⟨argument, hargument, h⟩ := Option.bind_eq_some_iff.mp h
  split at h
  · next hrole =>
    obtain ⟨source, -, rfl⟩ := Option.map_eq_some_iff.mp h
    exact ⟨Nat.le_succ i, argument, 2, hargument, stride_of_role hrole, Nat.lt_succ_self _⟩
  · next hrole =>
    cases h
    exact ⟨Nat.le_refl i, argument, 1, hargument, stride_of_role hrole, Nat.lt_succ_self _⟩
  · cases h

theorem covers_of_bareAt {entry : Nat × Text} (h : bareAt arguments i = some entry) :
    Covers arguments i entry.1 := by
  unfold bareAt at h
  obtain ⟨argument, hargument, h⟩ := Option.bind_eq_some_iff.mp h
  split at h
  · next hbare =>
    cases h
    have hrole := isBare_iff.mp (Bool.and_eq_true_iff.mp hbare).1
    exact ⟨Nat.le_refl i, argument, 1, hargument, stride_of_role hrole, Nat.lt_succ_self _⟩
  · cases h

theorem lt_of_covers {j p q : Nat}
    (hbefore : ∃ argument n, arguments[i]? = some argument ∧ stride argument = some n ∧ i + n ≤ j)
    (hp : Covers arguments i p) (hq : Covers arguments j q) : p < q := by
  obtain ⟨argument, n, hargument, hstride, hle⟩ := hbefore
  obtain ⟨-, argument', n', hargument', hstride', hlt⟩ := hp
  obtain rfl : argument = argument' := Option.some.inj (hargument.symm.trans hargument')
  obtain rfl : n = n' := Option.some.inj (hstride.symm.trans hstride')
  exact Nat.lt_of_lt_of_le hlt (Nat.le_trans hle hq.1)

/-- No position is covered from two places. -/
theorem eq_of_covers {j p : Nat} (hi : i ∈ scanned arguments) (hj : j ∈ scanned arguments)
    (hp : Covers arguments i p) (hp' : Covers arguments j p) : i = j := by
  have hpairwise : (scanned arguments).Pairwise fun i j =>
      Covers arguments i p → Covers arguments j p → i = j :=
    (pairwise_scanned arguments).imp fun hbefore hp hp' =>
      absurd (lt_of_covers hbefore hp hp') (Nat.lt_irrefl p)
  refine hpairwise.forall_of_forall_of_flip (fun _ _ _ _ => rfl) ?_ hi hj hp hp'
  exact hpairwise.imp fun h hp hp' => (h hp' hp).symm

theorem nodup_map_filterMap_scanned {f : Nat → Option (Nat × Text)}
    (hcovers : ∀ i entry, f i = some entry → Covers arguments i entry.1) :
    (((scanned arguments).filterMap f).map (·.1)).Nodup := by
  rw [List.Nodup, List.pairwise_map, List.pairwise_filterMap]
  refine (pairwise_scanned arguments).imp ?_
  intro i j hbefore entry hentry entry' hentry'
  exact Nat.ne_of_lt (lt_of_covers hbefore (hcovers i entry hentry) (hcovers j entry' hentry'))

/-- An option is not bare. -/
theorem bareAt_of_namedAt {entry : Nat × Text} (h : namedAt arguments i = some entry) :
    bareAt arguments i = none := by
  rw [namedAt_eq] at h
  obtain ⟨argument, hargument, h⟩ := Option.bind_eq_some_iff.mp h
  have hbare : isBare argument = false := by
    rw [← Bool.not_eq_true, isBare_iff]
    intro hrole
    simp [hrole] at h
  simp [bareAt, hargument, hbare]

theorem nodup_written (arguments : List Text) : ((written arguments).map (·.1)).Nodup := by
  rw [written, List.map_append, List.nodup_append']
  refine ⟨nodup_map_filterMap_scanned fun _ _ => covers_of_namedAt,
    nodup_map_filterMap_scanned fun _ _ => covers_of_bareAt, ?_⟩
  intro p hnamed hbare
  obtain ⟨entry, hentry, rfl⟩ := List.mem_map.mp hnamed
  obtain ⟨entry', hentry', heq⟩ := List.mem_map.mp hbare
  obtain ⟨i, hi, hnamedAt⟩ := List.mem_filterMap.mp hentry
  obtain ⟨j, hj, hbareAt⟩ := List.mem_filterMap.mp hentry'
  obtain rfl : i = j :=
    eq_of_covers hi hj (covers_of_namedAt hnamedAt) (heq ▸ covers_of_bareAt hbareAt)
  rw [bareAt_of_namedAt hnamedAt] at hbareAt
  cases hbareAt

/-- The sources are those that the grammar gives where the scan looks, and no argument gives two. -/
theorem sources_eq_written (arguments : List Text) :
    (∀ i, i ∈ scanned arguments ↔ Reaches arguments i ∧ i < arguments.length) ∧
      (scanned arguments).Pairwise (· < ·) ∧
      sources arguments = (written arguments).map (·.2) ∧
      ((written arguments).map (·.1)).Nodup := by
  refine ⟨fun i => mem_scanned_iff, ?_, ?_, nodup_written arguments⟩
  · refine (pairwise_scanned arguments).imp ?_
    rintro i j ⟨argument, n, -, hstride, hle⟩
    have := stride_pos hstride
    omega
  · rw [sources, written, List.map_append, ← forcedSources_findings, ← bareSources_findings]

end BuildRecorder.Compiler
