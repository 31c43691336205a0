import BuildRecorder.Event.Limits
import BuildRecorder.Proofs.Event.Lines
import BuildRecorder.Proofs.Json.Limits

/-!
# Events within limits

An input is read as if there were no limits, as long as no line exceeds one. The first line that
does cuts the input, and of what stands behind it nothing counts, not even a fault in decoding it.
-/

namespace BuildRecorder.Event

variable {limits : Json.Limits} {bytes : Bytes}

theorem readWithin_of_within (h : ∀ line ∈ (readLines bytes).1, overrun? limits line = none) :
    readWithin limits bytes = ((read bytes).1, (read bytes).2.map .undecodable) := by
  simp only [readWithin, List.findSome?_eq_none_iff.mpr h]

theorem readWithin_of_overrun {front back : List Text} {line : Text} {exceeded : Json.Overrun}
    (hlines : (readLines bytes).1 = front ++ line :: back)
    (hfront : ∀ earlier ∈ front, overrun? limits earlier = none)
    (hline : overrun? limits line = some exceeded) :
    readWithin limits bytes = (numbered front, some (.overrun exceeded)) := by
  have hfound : (front ++ line :: back).findSome? (overrun? limits) = some exceeded := by
    rw [List.findSome?_append, List.findSome?_eq_none_iff.mpr hfront, List.findSome?_cons, hline]
    rfl
  have htaken : (front ++ line :: back).takeWhile (fun line => (overrun? limits line).isNone) =
      front := by
    rw [List.takeWhile_append_of_pos, List.takeWhile_cons_of_neg, List.append_nil]
    · simp [hline]
    · intro earlier hearlier
      simp [hfront earlier hearlier]
  simp only [readWithin, hlines, hfound, htaken]

/-- An input is either read to its end or its fault, or cut at the first line that exceeds a limit. -/
theorem readWithin_cases (limits : Json.Limits) (bytes : Bytes) :
    ((∀ line ∈ (readLines bytes).1, overrun? limits line = none) ∧
        readWithin limits bytes = ((read bytes).1, (read bytes).2.map .undecodable)) ∨
      ∃ front line back exceeded, (readLines bytes).1 = front ++ line :: back ∧
        (∀ earlier ∈ front, overrun? limits earlier = none) ∧
        overrun? limits line = some exceeded ∧
        readWithin limits bytes = (numbered front, some (.overrun exceeded)) := by
  cases hfound : (readLines bytes).1.findSome? (overrun? limits) with
  | none =>
      have hwithin := List.findSome?_eq_none_iff.mp hfound
      exact .inl ⟨hwithin, readWithin_of_within hwithin⟩
  | some exceeded =>
      obtain ⟨front, line, back, hlines, hline, hfront⟩ := List.findSome?_eq_some_iff.mp hfound
      exact .inr ⟨front, line, back, exceeded, hlines, hfront, hline,
        readWithin_of_overrun hlines hfront hline⟩

/-! ## Lines that exceed a limit -/

theorem trim_eq_self {t : Text} (h : ∀ c ∈ t, c.isBlank = false) : t.trim = t := by
  have hdrop {u : Text} (hu : ∀ c ∈ u, c.isBlank = false) : u.dropWhile CodePoint.isBlank = u :=
    Text.dropWhile_eq_self fun c hc => hu c (List.mem_of_mem_head? hc)
  rw [Text.trim, Text.trimStart, hdrop h, Text.trimEnd, Text.dropEndWhile, hdrop (by simpa using h),
    List.reverse_reverse]

/-- A line that opens more arrays than may be open exceeds the limit. -/
theorem overrun?_nested {n : Nat} (hn : limits.depth < n) :
    overrun? limits (Json.nested n) = some .array := by
  have htrim : Text.trim (Json.nested n) = Json.nested n := by
    apply trim_eq_self
    intro c hc
    rw [List.eq_of_mem_replicate hc]
    decide
  have h := Json.overrun?_nested hn []
  rw [List.append_nil] at h
  rw [overrun?, htrim, h]

end BuildRecorder.Event
