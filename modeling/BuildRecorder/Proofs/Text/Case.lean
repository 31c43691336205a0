import BuildRecorder.Text.Blank
import BuildRecorder.Text.Case

/-!
# Letter case in ASCII

Few characters outside ASCII lose their case to a letter of ASCII: the dotted capital I, the dotless
i, the Kelvin sign and the long s, which give `i`, `k` and `s`. Where a text holds none of these three
letters, lower-casing and searching without regard to case only undo the case of ASCII letters.
-/

namespace BuildRecorder

namespace CodePoint

/-- The letters of ASCII that characters outside ASCII go to when case is disregarded. -/
def sharedAscii : List CodePoint := [ofChar 'i', ofChar 'k', ofChar 's']

/-- Whether a character of ASCII is no capital, and none outside ASCII goes to it. -/
def isUnshared (c : CodePoint) : Bool := c.val < 0x80 && c.asciiLower = c && c ∉ sharedAscii

theorem le_val_ofNat {n : Nat} (h : 0x80 ≤ n) : 0x80 ≤ (ofNat n).val := by
  unfold ofNat
  split
  · exact h
  · decide

theorem lower_outside {c : CodePoint} (hc : 0x80 ≤ c.val) :
    0x80 ≤ c.lower.val ∨ c.lower ∈ sharedAscii := by
  have hruns : ∀ run ∈ lowerCaseRuns, (0x80 : Int) ≤ run.last →
      (0x80 : Int) ≤ run.first + run.shift ∨
        run.first = run.last ∧ ofNat (run.last + run.shift).toNat ∈ sharedAscii := by
    decide +kernel
  rw [lower, if_neg (by omega)]
  split
  · next run hfound =>
    have hrun := List.find?_some hfound
    simp only [Bool.and_eq_true, decide_eq_true_eq] at hrun
    rcases hruns run (List.mem_of_find?_eq_some hfound) (by omega) with hshift | ⟨hsingle, hletter⟩
    · exact .inl (le_val_ofNat (by omega))
    · have hval : c.val = run.last := by omega
      exact .inr (by rwa [hval])
  · exact .inl hc

theorem searchKey_outside {c : CodePoint} (hc : 0x80 ≤ c.val) :
    0x80 ≤ c.searchKey.val ∨ c.searchKey ∈ sharedAscii := by
  have hletters : ∀ letter ∈ sharedLetters, 0x80 ≤ letter.2 ∨ ofNat letter.2 ∈ sharedAscii := by
    decide
  rw [searchKey, if_neg (by omega)]
  split
  · next n hfound =>
    obtain ⟨before, after, hsplit, -⟩ := List.lookup_eq_some_iff.mp hfound
    exact (hletters (c.lower.val, n) (by simp [hsplit])).imp_left le_val_ofNat
  · exact lower_outside hc

/-- What disregards case as ASCII does, and outside ASCII meets only the shared letters, meets an
unshared character only where ASCII does. -/
theorem eq_iff_of_outside {form : CodePoint → CodePoint} {c d : CodePoint}
    (hinside : c.val < 0x80 → form c = c.asciiLower)
    (houtside : 0x80 ≤ c.val → 0x80 ≤ (form c).val ∨ form c ∈ sharedAscii)
    (hd : d.isUnshared = true) : form c = d ↔ c.asciiLower = d := by
  obtain ⟨⟨hlt, -⟩, hshared⟩ : (d.val < 0x80 ∧ d.asciiLower = d) ∧ d ∉ sharedAscii := by
    simpa [isUnshared] using hd
  by_cases hc : c.val < 0x80
  · rw [hinside hc]
  · have hlower : c.asciiLower = c := by rw [asciiLower, if_neg (by omega)]
    rw [hlower]
    constructor
    · rintro rfl
      rcases houtside (Nat.le_of_not_lt hc) with hle | hmem
      · omega
      · exact absurd hmem hshared
    · rintro rfl
      exact absurd hlt hc

theorem lower_eq_iff {c d : CodePoint} (hd : d.isUnshared = true) :
    c.lower = d ↔ c.asciiLower = d :=
  eq_iff_of_outside (fun hc => if_pos hc) lower_outside hd

theorem searchKey_eq_iff {c d : CodePoint} (hd : d.isUnshared = true) :
    c.searchKey = d ↔ c.asciiLower = d :=
  eq_iff_of_outside (fun hc => if_pos hc) searchKey_outside hd

theorem searchKey_of_isUnshared {d : CodePoint} (hd : d.isUnshared = true) : d.searchKey = d := by
  rw [searchKey_eq_iff hd]
  simp only [isUnshared, Bool.and_eq_true, decide_eq_true_eq] at hd
  exact hd.1.2

/-- White space has no case. -/
theorem asciiLower_of_isBlank {c : CodePoint} (h : c.isBlank = true) : c.asciiLower = c := by
  rw [asciiLower, if_neg]
  intro hcapital
  simp only [isBlank, Bool.or_eq_true, Bool.and_eq_true, decide_eq_true_eq] at h
  omega

theorem eq_space_of_asciiLower {c : CodePoint} (h : c.asciiLower = ofChar ' ') : c = ofChar ' ' := by
  unfold asciiLower at h
  split at h
  · have hval := congrArg val h
    rw [val_ofNat (by omega)] at hval
    have hspace : (ofChar ' ').val = 0x20 := rfl
    omega
  · exact h

theorem eq_space_of_searchKey {c : CodePoint} (h : c.searchKey = (ofChar ' ').searchKey) :
    c = ofChar ' ' := by
  have hspace : (ofChar ' ').isUnshared = true := by decide
  rw [searchKey_of_isUnshared hspace, searchKey_eq_iff hspace] at h
  exact eq_space_of_asciiLower h

end CodePoint

namespace Text

theorem lowerAfter_eq_iff {s : Text} (hs : ∀ c ∈ s, c.isUnshared = true) (before t : Text) :
    lowerAfter before t = s ↔ t.map CodePoint.asciiLower = s := by
  induction t generalizing before s with
  | nil => rfl
  | cons c rest ih =>
      have hne {d : CodePoint} (hd : d.isUnshared = false) (u : Text) : d :: u ≠ s := by
        rintro rfl
        simp [hd] at hs
      rw [lowerAfter, List.map_cons]
      by_cases hsigma : c = CodePoint.capitalSigma
      · subst hsigma
        refine iff_of_false ?_ (hne (by decide) _)
        rw [if_pos rfl]
        split
        · exact hne (d := CodePoint.ofChar 'ς') (by decide) _
        · exact hne (d := CodePoint.ofChar 'σ') (by decide) _
      by_cases hdotted : c = CodePoint.dottedCapitalI
      · subst hdotted
        exact iff_of_false (hne (d := CodePoint.ofChar 'i') (by decide) _) (hne (by decide) _)
      · rw [if_neg hsigma, if_neg hdotted, List.singleton_append]
        cases s with
        | nil => simp
        | cons d s =>
            obtain ⟨hd, hs⟩ := List.forall_mem_cons.mp hs
            rw [List.cons.injEq, List.cons.injEq, ih hs, CodePoint.lower_eq_iff hd]

theorem lower_eq_iff {s : Text} (hs : ∀ c ∈ s, c.isUnshared = true) (t : Text) :
    t.lower = s ↔ t.map CodePoint.asciiLower = s :=
  lowerAfter_eq_iff hs [] t

theorem map_searchKey_eq_iff {s : Text} (hs : ∀ c ∈ s, c.isUnshared = true) (t : Text) :
    t.map CodePoint.searchKey = s ↔ t.map CodePoint.asciiLower = s := by
  induction t generalizing s with
  | nil => rfl
  | cons c rest ih =>
      cases s with
      | nil => simp
      | cons d s =>
          obtain ⟨hd, hs⟩ := List.forall_mem_cons.mp hs
          simp only [List.map_cons, List.cons.injEq, ih hs, CodePoint.searchKey_eq_iff hd]

/-- A search that disregards case finds what lower-casing makes the text that is looked for. -/
theorem searchEq_iff {s : Text} (hs : ∀ c ∈ s, c.isUnshared = true) (t : Text) :
    searchEq s t = true ↔ t.map CodePoint.asciiLower = s := by
  have hself : s.map CodePoint.searchKey = s := by
    rw [List.map_congr_left fun c hc => CodePoint.searchKey_of_isUnshared (hs c hc), List.map_id']
  rw [searchEq, decide_eq_true_eq, hself, eq_comm, map_searchKey_eq_iff hs]

end Text

end BuildRecorder
