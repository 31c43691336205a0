import BuildRecorder.Path.Canonical
import BuildRecorder.Proofs.Path.Segments

/-!
# Characters of a canonical path

Making a path canonical drops whole segments, and writes no characters of its own but separators and
dots. What holds of these, of the path and of its base holds of every character of the result.
-/

namespace BuildRecorder

variable {p : CodePoint → Prop}

theorem Text.forall_mem_of_mem_splitOn {sep : CodePoint → Bool} {t : Text} (ht : ∀ c ∈ t, p c) :
    ∀ piece ∈ t.splitOn sep, ∀ c ∈ piece, p c := by
  induction t with
  | nil => simp [splitOn]
  | cons d rest ih =>
      obtain ⟨hd, hrest⟩ := List.forall_mem_cons.mp ht
      intro piece hpiece
      rcases mem_splitOn_cons hpiece with ⟨-, start, hstart, rfl⟩ | rfl | hpiece
      · exact List.forall_mem_cons.mpr ⟨hd, ih hrest start hstart⟩
      · simp
      · exact ih hrest piece hpiece

theorem Text.forall_mem_join {sep : Text} {pieces : List Text} (hsep : ∀ c ∈ sep, p c)
    (hpieces : ∀ piece ∈ pieces, ∀ c ∈ piece, p c) : ∀ c ∈ Text.join sep pieces, p c := by
  induction pieces with
  | nil => simp [join]
  | cons first pieces ih =>
      obtain ⟨hfirst, hlater⟩ := List.forall_mem_cons.mp hpieces
      cases pieces with
      | nil => simpa [join] using hfirst
      | cons second pieces =>
          rw [join_cons_cons]
          exact List.forall_mem_append.mpr ⟨List.forall_mem_append.mpr ⟨hfirst, hsep⟩, ih hlater⟩

namespace Path

theorem forall_mem_push {q : Text → Prop} {rooted : Bool} {stack : List Text} {segment : Text}
    (hup : q up) (hstack : ∀ piece ∈ stack, q piece) (hsegment : segment ≠ [] → q segment) :
    ∀ piece ∈ push rooted stack segment, q piece := by
  unfold push
  split
  · exact hstack
  · next hordinary =>
    split
    · cases stack with
      | nil => cases rooted <;> simp [hup]
      | cons top below =>
          obtain ⟨htop, hbelow⟩ := List.forall_mem_cons.mp hstack
          dsimp only
          split
          · exact List.forall_mem_cons.mpr ⟨hup, List.forall_mem_cons.mpr ⟨htop, hbelow⟩⟩
          · exact hbelow
    · exact List.forall_mem_cons.mpr ⟨hsegment (not_or.mp hordinary).1, hstack⟩

/-- What holds of `..` and of the segments that are not empty holds of the segments that are left. -/
theorem forall_mem_resolve {q : Text → Prop} {rooted : Bool} {segments : List Text} (hup : q up)
    (hsegments : ∀ piece ∈ segments, piece ≠ [] → q piece) :
    ∀ piece ∈ resolve rooted segments, q piece := by
  have hfold : ∀ stack : List Text, (∀ piece ∈ stack, q piece) →
      ∀ piece ∈ segments.foldl (push rooted) stack, q piece := by
    induction segments with
    | nil => exact fun stack hstack => hstack
    | cons segment segments ih =>
        obtain ⟨hsegment, hlater⟩ := List.forall_mem_cons.mp hsegments
        exact fun stack hstack => ih hlater _ (forall_mem_push hup hstack hsegment)
  intro piece hpiece
  exact hfold [] (by simp) piece (List.mem_reverse.mp hpiece)

namespace Posix

theorem forall_mem_join {base path : Text} (hslash : p slash) (hbase : ∀ c ∈ base, p c)
    (hpath : ∀ c ∈ path, p c) : ∀ c ∈ join base path, p c := by
  unfold join
  split
  · exact hpath
  · split
    · exact List.forall_mem_append.mpr ⟨hbase, hpath⟩
    · exact List.forall_mem_append.mpr ⟨hbase, List.forall_mem_cons.mpr ⟨hslash, hpath⟩⟩

theorem forall_mem_root {path : Text} (hslash : p slash) : ∀ c ∈ root path, p c := by
  unfold root
  split <;> simp [hslash]

theorem forall_mem_normalize {path : Text} (hslash : p slash) (hdot : p (CodePoint.ofChar '.'))
    (hpath : ∀ c ∈ path, p c) : ∀ c ∈ normalize path, p c := by
  have hpieces : ∀ piece ∈ path.splitOn isSeparator, ∀ c ∈ piece, p c :=
    Text.forall_mem_of_mem_splitOn hpath
  have hsegments : ∀ piece ∈ resolve (isAbsolute path) (path.splitOn isSeparator),
      ∀ c ∈ piece, p c :=
    forall_mem_resolve (by simpa [up, Text.ofString] using hdot) fun piece hpiece _ =>
      hpieces piece hpiece
  unfold normalize
  dsimp only
  split
  · simpa [current, Text.ofString] using hdot
  · exact List.forall_mem_append.mpr
      ⟨forall_mem_root hslash, Text.forall_mem_join (by simpa using hslash) hsegments⟩

end Posix

namespace Windows

theorem forall_mem_unifySeparators {path : Text} (hbackslash : p backslash)
    (hpath : ∀ c ∈ path, p c) : ∀ c ∈ unifySeparators path, p c := by
  rw [unifySeparators, List.forall_mem_map]
  intro c hc
  split
  · exact hbackslash
  · exact hpath c hc

theorem forall_mem_drive {path : Text} (hpath : ∀ c ∈ path, p c) : ∀ c ∈ drive path, p c :=
  fun c hc => hpath c (List.mem_of_mem_take hc)

theorem forall_mem_afterDrive {path : Text} (hpath : ∀ c ∈ path, p c) :
    ∀ c ∈ afterDrive path, p c :=
  fun c hc => hpath c (List.mem_of_mem_drop hc)

theorem forall_mem_extend {path rest : Text} (hbackslash : p backslash)
    (hpath : ∀ c ∈ path, p c) (hrest : ∀ c ∈ rest, p c) : ∀ c ∈ extend path rest, p c := by
  unfold extend
  split
  · exact hrest
  · split
    · exact List.forall_mem_append.mpr ⟨hpath, hrest⟩
    · exact List.forall_mem_append.mpr ⟨hpath, List.forall_mem_cons.mpr ⟨hbackslash, hrest⟩⟩

theorem forall_mem_withDrive {drive path : Text} (hbackslash : p backslash)
    (hdrive : ∀ c ∈ drive, p c) (hpath : ∀ c ∈ path, p c) : ∀ c ∈ withDrive drive path, p c := by
  unfold withDrive
  split
  · exact List.forall_mem_append.mpr ⟨hdrive, List.forall_mem_cons.mpr ⟨hbackslash, hpath⟩⟩
  · exact List.forall_mem_append.mpr ⟨hdrive, hpath⟩

theorem forall_mem_join {base path : Text} (hbackslash : p backslash) (hbase : ∀ c ∈ base, p c)
    (hpath : ∀ c ∈ path, p c) : ∀ c ∈ join base path, p c := by
  have hextend :=
    forall_mem_extend hbackslash (forall_mem_afterDrive hbase) (forall_mem_afterDrive hpath)
  unfold join
  split
  · apply forall_mem_withDrive hbackslash _ (forall_mem_afterDrive hpath)
    split
    · exact forall_mem_drive hbase
    · exact forall_mem_drive hpath
  · split
    · exact forall_mem_withDrive hbackslash (forall_mem_drive hbase) hextend
    · split
      · exact forall_mem_withDrive hbackslash (forall_mem_drive hpath) hextend
      · exact forall_mem_withDrive hbackslash (forall_mem_drive hpath)
          (forall_mem_afterDrive hpath)

theorem forall_mem_normalize {path : Text} (hbackslash : p backslash)
    (hdot : p (CodePoint.ofChar '.')) (hpath : ∀ c ∈ path, p c) : ∀ c ∈ normalize path, p c := by
  have hunified := forall_mem_unifySeparators hbackslash hpath
  have hrest : ∀ c ∈ (afterDrive (unifySeparators path)).dropWhile isSeparator, p c :=
    fun c hc => forall_mem_afterDrive hunified c ((List.dropWhile_sublist _).mem hc)
  have hput : ∀ (front : Text) (segments : List Text), (∀ c ∈ front, p c) →
      (∀ piece ∈ segments, ∀ c ∈ piece, p c) →
      ∀ c ∈ (if front.isEmpty && segments.isEmpty then current
        else front ++ Text.join [backslash] segments), p c := by
    intro front segments hfront hsegments
    split
    · simpa [current, Text.ofString] using hdot
    · exact List.forall_mem_append.mpr
        ⟨hfront, Text.forall_mem_join (List.forall_mem_singleton.mpr hbackslash) hsegments⟩
  apply hput
  · split
    · exact List.forall_mem_append.mpr
        ⟨forall_mem_drive hunified, List.forall_mem_singleton.mpr hbackslash⟩
    · exact forall_mem_drive hunified
  · exact forall_mem_resolve (by simpa [up, Text.ofString] using hdot) fun piece hpiece _ =>
      Text.forall_mem_of_mem_splitOn hrest piece hpiece

end Windows

/-- Whatever holds of the separators, of the dot and of all that is given holds of the result. -/
theorem forall_mem_canonical {base path : Text} (hslash : p Posix.slash)
    (hbackslash : p Windows.backslash) (hdot : p (CodePoint.ofChar '.'))
    (hbase : ∀ c ∈ base, p c) (hpath : ∀ c ∈ path, p c) : ∀ c ∈ canonical base path, p c := by
  unfold canonical
  split
  · exact Windows.forall_mem_normalize hbackslash hdot
      (Windows.forall_mem_join hbackslash hbase hpath)
  · exact Posix.forall_mem_normalize hslash hdot (Posix.forall_mem_join hslash hbase hpath)

end Path

end BuildRecorder
