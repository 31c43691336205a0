import BuildRecorder.Path.Segments

/-!
# The names along a path

A walk from a root drops empty segments, `.` and every `..` that has nothing to take off, so what is
left of a path are names. Walking along them once more changes nothing, and a walk can be broken off
anywhere and taken up again from the names that are left so far.
-/

namespace BuildRecorder

variable {separates : CodePoint → Bool} {separator : CodePoint}

namespace Text

theorem splitOn_eq_splitOnP (separates : CodePoint → Bool) (t : Text) :
    Text.splitOn separates t = List.splitOnP separates t := by
  induction t with
  | nil => rfl
  | cons c rest ih =>
      rw [splitOn, List.splitOnP_cons_eq_if_modifyHead, ← ih]
      cases hpieces : splitOn separates rest with
      | nil => exact absurd hpieces (splitOn_ne_nil separates rest)
      | cons piece pieces => rfl

theorem splitOn_append_cons (hseparator : separates separator = true) (front back : Text) :
    Text.splitOn separates (front ++ separator :: back) =
      Text.splitOn separates front ++ Text.splitOn separates back := by
  rw [splitOn_eq_splitOnP, List.splitOnP_append_cons front back hseparator, ← splitOn_eq_splitOnP,
    ← splitOn_eq_splitOnP]

theorem splitOn_cons_separator (hseparator : separates separator = true) (t : Text) :
    Text.splitOn separates (separator :: t) = [] :: Text.splitOn separates t := by
  rw [splitOn, if_pos hseparator]

theorem splitOn_eq_singleton {t : Text} (h : ∀ c ∈ t, separates c = false) :
    Text.splitOn separates t = [t] := by
  rw [splitOn_eq_splitOnP, List.splitOnP_eq_singleton h]

theorem splitOn_join (hseparator : separates separator = true) {pieces : List Text}
    (hne : pieces ≠ []) (hpieces : ∀ piece ∈ pieces, ∀ c ∈ piece, separates c = false) :
    Text.splitOn separates (Text.join [separator] pieces) = pieces := by
  induction pieces with
  | nil => exact absurd rfl hne
  | cons first pieces ih =>
      obtain ⟨hfirst, hlater⟩ := List.forall_mem_cons.mp hpieces
      cases pieces with
      | nil => simpa [join] using splitOn_eq_singleton hfirst
      | cons second pieces =>
          rw [join_cons_cons, List.append_assoc, List.singleton_append,
            splitOn_append_cons hseparator, splitOn_eq_singleton hfirst, ih (by simp) hlater]
          rfl

/-- A joined text starts as its first piece does, if no piece is empty. -/
theorem head?_join (sep : Text) {pieces : List Text} (hne : ∀ piece ∈ pieces, piece ≠ []) :
    (Text.join sep pieces).head? = pieces.head?.bind List.head? := by
  cases pieces with
  | nil => rfl
  | cons first pieces =>
      obtain ⟨c, rest, rfl⟩ := List.exists_cons_of_ne_nil (hne first (by simp))
      cases pieces with
      | nil => simp [join]
      | cons second pieces =>
          rw [join_cons_cons]
          rfl

theorem not_separates_head?_join (sep : Text) {pieces : List Text}
    (hpieces : ∀ piece ∈ pieces, piece ≠ [] ∧ ∀ c ∈ piece, separates c = false) :
    ∀ c ∈ (Text.join sep pieces).head?, separates c = false := by
  intro c hc
  rw [head?_join sep fun piece hpiece => (hpieces piece hpiece).1] at hc
  obtain ⟨first, hfirst, hhead⟩ := Option.bind_eq_some_iff.mp hc
  exact (hpieces first (List.mem_of_mem_head? hfirst)).2 c (List.mem_of_mem_head? hhead)

/-- A piece of a text begins with its first character, or is empty in front of it, or is a piece of
what stands behind it. -/
theorem mem_splitOn_cons {c : CodePoint} {rest piece : Text}
    (h : piece ∈ Text.splitOn separates (c :: rest)) :
    (separates c = false ∧ ∃ start ∈ Text.splitOn separates rest, piece = c :: start) ∨
      piece = [] ∨ piece ∈ Text.splitOn separates rest := by
  rw [splitOn] at h
  split at h
  · exact .inr (List.mem_cons.mp h)
  · next hc =>
    split at h
    · next hempty => exact absurd hempty (splitOn_ne_nil separates rest)
    · next first pieces heq =>
      rw [heq]
      rcases List.mem_cons.mp h with rfl | h
      · exact .inl ⟨by simpa using hc, first, List.mem_cons_self, rfl⟩
      · exact .inr (.inr (List.mem_cons_of_mem first h))

theorem not_separates_of_mem_splitOn (t : Text) :
    ∀ piece ∈ Text.splitOn separates t, ∀ c ∈ piece, separates c = false := by
  induction t with
  | nil => simp [splitOn]
  | cons c rest ih =>
      intro piece hpiece
      rcases mem_splitOn_cons hpiece with ⟨hc, start, hstart, rfl⟩ | rfl | hpiece
      · exact List.forall_mem_cons.mpr ⟨hc, ih start hstart⟩
      · simp
      · exact ih piece hpiece

end Text

namespace Path

/-- A segment that stands for a file or a directory of this name. -/
structure IsName (separates : CodePoint → Bool) (segment : Text) : Prop where
  ne_nil : segment ≠ []
  ne_current : segment ≠ current
  ne_up : segment ≠ up
  plain : ∀ c ∈ segment, separates c = false

variable {rooted : Bool} {stack written segments : List Text} {segment : Text}

@[simp] theorem push_nil (rooted : Bool) (stack : List Text) : push rooted stack [] = stack := by
  simp [push]

theorem push_of_isName (h : IsName separates segment) :
    push rooted stack segment = segment :: stack := by
  unfold push
  rw [if_neg (not_or.mpr ⟨h.ne_nil, h.ne_current⟩), if_neg h.ne_up]

/-- A step from the root keeps to names: `..` takes one off or finds nothing to take off. -/
theorem isName_of_mem_push (hstack : ∀ name ∈ stack, IsName separates name)
    (hsegment : ∀ c ∈ segment, separates c = false) :
    ∀ name ∈ push true stack segment, IsName separates name := by
  unfold push
  split
  · exact hstack
  · next hordinary =>
    obtain ⟨hne, hcurrent⟩ := not_or.mp hordinary
    split
    · cases stack with
      | nil => simp
      | cons top below =>
          obtain ⟨htop, hbelow⟩ := List.forall_mem_cons.mp hstack
          simpa [htop.ne_up] using hbelow
    · next hup => exact List.forall_mem_cons.mpr ⟨⟨hne, hcurrent, hup, hsegment⟩, hstack⟩

theorem isName_of_mem_foldl_push (hstack : ∀ name ∈ stack, IsName separates name)
    (hsegments : ∀ segment ∈ segments, ∀ c ∈ segment, separates c = false) :
    ∀ name ∈ segments.foldl (push true) stack, IsName separates name := by
  induction segments generalizing stack with
  | nil => exact hstack
  | cons segment segments ih =>
      obtain ⟨hsegment, hlater⟩ := List.forall_mem_cons.mp hsegments
      exact ih (isName_of_mem_push hstack hsegment) hlater

theorem isName_of_mem_resolve
    (hsegments : ∀ segment ∈ segments, ∀ c ∈ segment, separates c = false) :
    ∀ name ∈ resolve true segments, IsName separates name := by
  intro name hname
  exact isName_of_mem_foldl_push (by simp) hsegments name (List.mem_reverse.mp hname)

theorem foldl_push_of_isName (hwritten : ∀ name ∈ written, IsName separates name) :
    written.foldl (push rooted) stack = written.reverse ++ stack := by
  induction written generalizing stack with
  | nil => rfl
  | cons name written ih =>
      obtain ⟨hname, hlater⟩ := List.forall_mem_cons.mp hwritten
      rw [List.foldl_cons, push_of_isName hname, ih hlater, List.reverse_cons, List.append_assoc,
        List.singleton_append]

theorem resolve_of_isName (hwritten : ∀ name ∈ written, IsName separates name) :
    resolve rooted written = written := by
  rw [resolve, foldl_push_of_isName hwritten, List.append_nil, List.reverse_reverse]

theorem resolve_append_nil_cons (rooted : Bool) (segments later : List Text) :
    resolve rooted (segments ++ [] :: later) = resolve rooted (segments ++ later) := by
  simp only [resolve, List.foldl_append, List.foldl_cons, push_nil]

theorem resolve_nil_cons (rooted : Bool) (segments : List Text) :
    resolve rooted ([] :: segments) = resolve rooted segments :=
  resolve_append_nil_cons rooted [] segments

/-- A walk from the root can be taken up from the names that are left half-way. -/
theorem resolve_resolve_append (segments later : List Text) :
    resolve true (resolve true segments ++ later) = resolve true (segments ++ later) := by
  -- No character separates here, so that every segment will do.
  have hnames : ∀ name ∈ resolve true segments, IsName (fun _ => false) name :=
    isName_of_mem_resolve (by simp)
  have hstack : (resolve true segments).foldl (push true) [] = segments.foldl (push true) [] := by
    rw [foldl_push_of_isName hnames, List.append_nil, resolve, List.reverse_reverse]
  rw [resolve, List.foldl_append, hstack, ← List.foldl_append, ← resolve]

/-! ## Names of a path from the root -/

/-- What is left of a path that is walked along from the root. -/
def names (separates : CodePoint → Bool) (path : Text) : List Text :=
  resolve true (Text.splitOn separates path)

theorem isName_of_mem_names (separates : CodePoint → Bool) (path : Text) :
    ∀ name ∈ names separates path, IsName separates name :=
  isName_of_mem_resolve (Text.not_separates_of_mem_splitOn path)

@[simp] theorem names_nil (separates : CodePoint → Bool) : names separates [] = [] := by
  rw [names, Text.splitOn, resolve_nil_cons]
  rfl

theorem names_cons_separator (hseparator : separates separator = true) (path : Text) :
    names separates (separator :: path) = names separates path := by
  rw [names, Text.splitOn_cons_separator hseparator, resolve_nil_cons, ← names]

@[simp] theorem names_dropWhile (separates : CodePoint → Bool) (path : Text) :
    names separates (path.dropWhile separates) = names separates path := by
  induction path with
  | nil => rfl
  | cons c rest ih =>
      by_cases hc : separates c = true
      · rw [List.dropWhile_cons_of_pos hc, ih, names_cons_separator hc]
      · rw [List.dropWhile_cons_of_neg hc]

theorem names_join (hseparator : separates separator = true)
    (hwritten : ∀ name ∈ written, IsName separates name) :
    names separates (Text.join [separator] written) = written := by
  cases written with
  | nil => exact names_nil separates
  | cons name written =>
      have hplain : ∀ piece ∈ name :: written, ∀ c ∈ piece, separates c = false :=
        fun piece hpiece => (hwritten piece hpiece).plain
      rw [names, Text.splitOn_join hseparator (by simp) hplain, resolve_of_isName hwritten]

theorem names_append_cons (hseparator : separates separator = true) (front back : Text) :
    names separates (front ++ separator :: back) =
      resolve true (names separates front ++ Text.splitOn separates back) := by
  rw [names, Text.splitOn_append_cons hseparator, names, resolve_resolve_append]

/-- A path that ends in a separator, or is empty, needs none before what is put behind it. -/
theorem names_append {front : Text} (hfront : ∀ c ∈ front.getLast?, separates c = true)
    (back : Text) :
    names separates (front ++ back) =
      resolve true (names separates front ++ Text.splitOn separates back) := by
  rcases List.eq_nil_or_concat front with rfl | ⟨start, last, rfl⟩
  · rw [List.nil_append, names_nil, List.nil_append, ← names]
  · have hlast : separates last = true := hfront last (by simp)
    rw [List.concat_eq_append, List.append_assoc, List.singleton_append, names_append_cons hlast,
      names_append_cons hlast, Text.splitOn, resolve_resolve_append, List.append_assoc,
      List.singleton_append, resolve_append_nil_cons]

end Path

end BuildRecorder
