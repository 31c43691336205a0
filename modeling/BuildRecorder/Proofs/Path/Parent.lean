import BuildRecorder.Proofs.Path.Slashes
import Mathlib.Data.List.DropRight

/-!
# The directory of a path

A path as it is written has a last segment and the directory before it. The parent of a path is
that directory without the slashes at its end, so both stand for the same segments but for empty
ones. For a path without `..` these are, but for segments that lead nowhere else, the names of the
absolute path as well.
-/

namespace BuildRecorder.Path

variable {start segments : List Text} {separates : CodePoint → Bool}

/-- Whether a segment leads nowhere else. -/
def isStay (segment : Text) : Bool := segment = [] || segment = current

theorem IsName.not_isStay {segment : Text} (h : IsName separates segment) :
    isStay segment = false := by
  simp [isStay, h.ne_nil, h.ne_current]

theorem push_of_isStay {segment : Text} (h : isStay segment = true) (rooted : Bool)
    (stack : List Text) : push rooted stack segment = stack := by
  unfold push
  rw [if_pos (by simpa [isStay] using h)]

theorem push_of_not_isStay {segment : Text} (h : isStay segment = false) (hup : segment ≠ up)
    (rooted : Bool) (stack : List Text) : push rooted stack segment = segment :: stack := by
  unfold push
  rw [if_neg (by simpa [isStay] using h), if_neg hup]

/-- Without `..` a walk from some names goes through all segments that lead somewhere else. -/
theorem resolve_append_of_up_notMem (hstart : ∀ name ∈ start, IsName separates name)
    (hup : up ∉ segments) :
    resolve true (start ++ segments) = start ++ segments.filter (!isStay ·) := by
  have hwalk (stack : List Text) : segments.foldl (push true) stack =
      (segments.filter (!isStay ·)).reverse ++ stack := by
    induction segments generalizing stack with
    | nil => rfl
    | cons segment segments ih =>
        obtain ⟨hsegment, hlater⟩ := not_or.mp (mt List.mem_cons.mpr hup)
        rw [List.foldl_cons, ih hlater]
        cases hstays : isStay segment with
        | true => rw [push_of_isStay hstays, List.filter_cons_of_neg (by simp [hstays])]
        | false =>
            rw [push_of_not_isStay hstays (Ne.symm hsegment),
              List.filter_cons_of_pos (by simp [hstays]), List.reverse_cons, List.append_assoc,
              List.singleton_append]
  rw [resolve, List.foldl_append, foldl_push_of_isName hstart, hwalk, List.append_nil,
    List.reverse_append, List.reverse_reverse, List.reverse_reverse]

namespace Posix

variable {path : Text}

/-- What stands before the basename, slashes and all. -/
def front (path : Text) : Text := path.rdropWhile (!isSeparator ·)

/-- The segments before the last one. -/
def directories (path : Text) : List Text := (path.splitOn isSeparator).dropLast

/-- The directory that a path is written in, as the path names it. -/
def writtenIn (path : Text) : Text := if (parent path).isEmpty then current else parent path

theorem front_append_basename (path : Text) : front path ++ basename path = path :=
  List.rdropWhile_append_rtakeWhile

theorem not_separates_basename (path : Text) : ∀ c ∈ basename path, isSeparator c = false := by
  intro c hc
  simpa using List.mem_rtakeWhile_imp hc

theorem front_cases (path : Text) : front path = [] ∨ ∃ before, front path = before ++ [slash] := by
  by_cases hne : front path = []
  · exact .inl hne
  · have hlast : isSeparator ((front path).getLast hne) = true := by
      simpa [front] using List.rdropWhile_last_not (!isSeparator ·) path hne
    refine .inr ⟨(front path).dropLast, ?_⟩
    rw [← of_decide_eq_true hlast, List.dropLast_append_getLast hne]

/-- The segments before the last one do not change with it. -/
theorem splitOn_front_append (path : Text) {name : Text}
    (hname : ∀ c ∈ name, isSeparator c = false) :
    (front path ++ name).splitOn isSeparator = directories path ++ [name] := by
  have hsplit : ∃ before, ∀ name : Text, (∀ c ∈ name, isSeparator c = false) →
      (front path ++ name).splitOn isSeparator = before ++ [name] := by
    rcases front_cases path with hfront | ⟨before, hfront⟩
    · refine ⟨[], fun name hname => ?_⟩
      rw [hfront]
      exact Text.splitOn_eq_singleton hname
    · refine ⟨before.splitOn isSeparator, fun name hname => ?_⟩
      rw [hfront, List.append_assoc, List.singleton_append,
        Text.splitOn_append_cons isSeparator_slash, Text.splitOn_eq_singleton hname]
  obtain ⟨before, hbefore⟩ := hsplit
  have hpath := hbefore (basename path) (not_separates_basename path)
  rw [front_append_basename] at hpath
  rw [directories, hpath, List.dropLast_concat]
  exact hbefore name hname

theorem splitOn_eq_concat (path : Text) :
    path.splitOn isSeparator = directories path ++ [basename path] := by
  have hsplit := splitOn_front_append path (not_separates_basename path)
  rwa [front_append_basename] at hsplit

theorem splitOn_front (path : Text) :
    (front path).splitOn isSeparator = directories path ++ [[]] := by
  have hsplit := splitOn_front_append path (List.forall_mem_nil _)
  rwa [List.append_nil] at hsplit

/-- A path that ends in a slash has an empty segment at its end. -/
theorem basename_eq_nil (hlast : path.getLast? = some slash) : basename path = [] := by
  obtain ⟨before, rfl⟩ := List.getLast?_eq_some_iff.mp hlast
  exact List.rtakeWhile_concat_neg (!isSeparator ·) before slash (by simp)

/-- A single segment stands in no directory that the path names. -/
theorem directories_of_front_eq_nil (h : front path = []) :
    directories path = [] ∧ isAbsolute path = false := by
  have hsplit := splitOn_front path
  have hpath := front_append_basename path
  rw [h] at hsplit
  rw [h, List.nil_append] at hpath
  constructor
  · exact List.dropLast_concat.symm.trans (congrArg List.dropLast hsplit.symm)
  · rw [← hpath]
    apply isAbsolute_eq_false_iff.mpr
    exact fun c hc => not_separates_basename path c (List.mem_of_mem_head? hc)

/-! ## Parents -/

theorem parent_eq (path : Text) :
    parent path =
      if (front path).all isSeparator then front path
      else (front path).rdropWhile isSeparator := rfl

theorem parent_eq_nil_iff : parent path = [] ↔ front path = [] := by
  rw [parent_eq]
  split
  · rfl
  · next hplain =>
    rw [List.rdropWhile_eq_nil_iff, ← List.all_eq_true]
    constructor
    · intro hall
      exact absurd hall hplain
    · intro hempty
      rw [hempty]
      rfl

theorem writtenIn_of_front_eq_nil (h : front path = []) : writtenIn path = current := by
  rw [writtenIn, parent_eq_nil_iff.mpr h]
  rfl

theorem writtenIn_of_front_ne_nil (h : front path ≠ []) : writtenIn path = parent path := by
  rw [writtenIn, if_neg (by simpa using mt parent_eq_nil_iff.mp h)]

/-- A parent lacks nothing but slashes at its end. -/
theorem exists_front_eq (path : Text) :
    ∃ n, front path = parent path ++ List.replicate n slash := by
  rw [parent_eq]
  split
  · exact ⟨0, (List.append_nil _).symm⟩
  · refine ⟨((front path).rtakeWhile isSeparator).length, ?_⟩
    have hslashes : (front path).rtakeWhile isSeparator =
        List.replicate ((front path).rtakeWhile isSeparator).length slash := by
      apply List.eq_replicate_length.mpr
      intro c hc
      have hseparator : isSeparator c = true := List.mem_rtakeWhile_imp hc
      exact of_decide_eq_true hseparator
    rw [← hslashes, List.rdropWhile_append_rtakeWhile]

theorem splitOn_append_replicate (path : Text) (n : Nat) :
    (path ++ List.replicate n slash).splitOn isSeparator =
      path.splitOn isSeparator ++ List.replicate n [] := by
  induction n with
  | zero => rw [List.replicate_zero, List.append_nil, List.replicate_zero, List.append_nil]
  | succ n ih =>
      rw [List.replicate_succ', ← List.append_assoc, Text.splitOn_append_cons isSeparator_slash, ih,
        List.replicate_succ', List.append_assoc]
      rfl

/-! ## Absolute paths -/

theorem directories_join {written : List Text}
    (hwritten : ∀ name ∈ written, IsName isSeparator name) :
    directories (Text.join [slash] written) = written.dropLast := by
  cases written with
  | nil => rfl
  | cons name written =>
      rw [directories, Text.splitOn_join isSeparator_slash (by simp)]
      exact fun piece hpiece => (hwritten piece hpiece).plain

/-- The directories of an absolute path are its names but the last. -/
theorem directories_normalize (habsolute : isAbsolute path = true) :
    ∃ n, directories (normalize path) =
      List.replicate n [] ++ (names isSeparator path).dropLast := by
  have hrest (t : Text) : directories (slash :: t) = [] :: directories t := by
    rw [directories, Text.splitOn_cons_separator isSeparator_slash,
      List.dropLast_cons_of_ne_nil (Text.splitOn_ne_nil isSeparator t), directories]
  have hjoin := directories_join (isName_of_mem_names isSeparator path)
  rw [normalize_of_isAbsolute habsolute]
  rcases root_cases habsolute with hroot | hroot
  · refine ⟨1, ?_⟩
    rw [hroot, List.singleton_append, hrest, hjoin]
    rfl
  · refine ⟨2, ?_⟩
    rw [hroot, List.cons_append, List.singleton_append, hrest, hrest, hjoin]
    rfl

end Posix

end BuildRecorder.Path
