import BuildRecorder.Path.Canonical
import BuildRecorder.Proofs.Path.Drives
import Mathlib.Data.List.DropRight

/-!
# The last part of a path

The basename of a path stands at its end, and is what follows the last separator behind a drive.
-/

namespace BuildRecorder.Path

theorem basename_suffix (path : Text) : basename path <:+ path := by
  unfold basename
  split
  · exact (List.rtakeWhile_suffix _ _).trans (List.drop_suffix _ path)
  · exact List.rtakeWhile_suffix _ path

theorem rtakeWhile_append_cons {p : CodePoint → Bool} {c : CodePoint} {t : Text} (front : Text)
    (hc : p c = false) (ht : ∀ d ∈ t, p d = true) : (front ++ c :: t).rtakeWhile p = t := by
  have hreverse : (front ++ c :: t).reverse = t.reverse ++ c :: front.reverse := by simp
  rw [List.rtakeWhile, hreverse, List.takeWhile_append_of_pos (by simpa using ht),
    List.takeWhile_cons_of_neg (by simp [hc]), List.append_nil, List.reverse_reverse]

theorem basename_drive (letter : CodePoint) (front : Text) {name : Text}
    (hname : ∀ c ∈ name, Windows.isSeparator c = false) :
    basename (letter :: CodePoint.ofChar ':' :: (front ++ Windows.backslash :: name)) = name := by
  have hwindows : isWindows
      (letter :: CodePoint.ofChar ':' :: (front ++ Windows.backslash :: name)) = true := by
    simp [isWindows]
  rw [basename, if_pos hwindows, Windows.basename, Windows.afterDrive_colon]
  exact rtakeWhile_append_cons front (by simp) (by simpa using hname)

end BuildRecorder.Path
