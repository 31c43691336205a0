import BuildRecorder.Text.Utf8

/-!
# Decoding and encoding

A text without surrogates comes back from its bytes, and bytes that are decoded come back from the
text. Each way, the four lengths of a sequence are four lemmas on one character; overlong forms,
surrogates and values past the last code point are never written, and the second byte of a long
sequence tells that none of them is read.
-/

namespace BuildRecorder

/-- Whether a text has a UTF-8 form. -/
def Text.isEncodable (t : Text) : Bool := t.all (!·.isSurrogate)

@[simp] theorem Text.isEncodable_append (t u : Text) :
    (t ++ u).isEncodable = (t.isEncodable && u.isEncodable) := List.all_append

theorem Text.isEncodable_iff (t : Text) :
    t.isEncodable = true ↔ ∀ c ∈ t, c.isSurrogate = false := by
  simp [Text.isEncodable]

namespace Utf8

theorem toNat_ofNat {n : Nat} (h : n < 256) : (UInt8.ofNat n).toNat = n :=
  UInt8.toNat_ofNat_of_lt' h

theorem ofNat_lt_iff {n : Nat} (h : n < 256) (b : UInt8) : UInt8.ofNat n < b ↔ n < b.toNat := by
  rw [UInt8.lt_iff_toNat_lt, toNat_ofNat h]

theorem le_ofNat_iff {n : Nat} (h : n < 256) (b : UInt8) : b ≤ UInt8.ofNat n ↔ b.toNat ≤ n := by
  rw [UInt8.le_iff_toNat_le, toNat_ofNat h]

theorem ofNat_eq_iff {n : Nat} (h : n < 256) (b : UInt8) : UInt8.ofNat n = b ↔ n = b.toNat := by
  rw [← UInt8.toNat_inj, toNat_ofNat h]

/-- A continuation byte with the last six bits of a number. -/
def tail (n : Nat) : UInt8 := UInt8.ofNat (0x80 + n % 64)

theorem toNat_tail (n : Nat) : (tail n).toNat = 0x80 + n % 64 := toNat_ofNat (by omega)

@[simp] theorem isContinuation_tail (n : Nat) : isContinuation (tail n) = true := by
  have hsize : 0x80 + n % 64 < 256 := by omega
  simp only [isContinuation, tail, Bool.and_eq_true, decide_eq_true_eq, le_ofNat_iff hsize,
    ofNat_lt_iff hsize, UInt8.toNat_ofNat]
  omega

@[simp] theorem payload_tail (n : Nat) : payload (tail n) = n % 64 := by
  rw [payload, toNat_tail]
  omega

/-- The second bytes that may follow a lead, in numbers. -/
theorem mayFollow_tail {lead : Nat} (h : lead < 256) (n : Nat) :
    mayFollow (UInt8.ofNat lead) (tail n) = true ↔
      (lead = 0xE0 → 0x20 ≤ n % 64) ∧ (lead = 0xED → n % 64 < 0x20) ∧
        (lead = 0xF0 → 0x10 ≤ n % 64) ∧ (lead = 0xF4 → n % 64 < 0x10) := by
  simp only [mayFollow, isContinuation_tail, Bool.true_and, Bool.and_eq_true, Bool.or_eq_true,
    bne_iff_ne, ne_eq, decide_eq_true_eq, ofNat_eq_iff h, UInt8.le_iff_toNat_le,
    UInt8.lt_iff_toNat_lt, toNat_tail, UInt8.toNat_ofNat]
  omega

theorem lead_bounds {n : Nat} (h : 0xC2 ≤ n) (h' : n < 0xF5) :
    ¬ UInt8.ofNat n < 0x80 ∧ ¬ (UInt8.ofNat n < 0xC2 ∨ 0xF5 ≤ UInt8.ofNat n) ∧
      (UInt8.ofNat n < 0xE0 ↔ n < 0xE0) ∧ (UInt8.ofNat n < 0xF0 ↔ n < 0xF0) := by
  have hsize : n < 256 := by omega
  have hascii : UInt8.ofNat n < 0x80 ↔ n < 0x80 := ofNat_lt_iff hsize 0x80
  have hlow : UInt8.ofNat n < 0xC2 ↔ n < 0xC2 := ofNat_lt_iff hsize 0xC2
  have hhigh : 0xF5 ≤ UInt8.ofNat n ↔ 0xF5 ≤ n := le_ofNat_iff hsize 0xF5
  refine ⟨?_, ?_, ofNat_lt_iff hsize 0xE0, ofNat_lt_iff hsize 0xF0⟩
  · rw [hascii]
    omega
  · rw [hlow, hhigh]
    omega

theorem ofNat_eq {c : CodePoint} {n : Nat} (h : n = c.val) : CodePoint.ofNat n = c := by
  rw [h, CodePoint.ofNat_val]

/-- The bytes of a character come back as the character, whatever follows them. -/
def Decodes (c : CodePoint) : Prop :=
  ∀ position rest, decodeFrom position (encodeChar c ++ rest) =
    (decodeFrom (position + (encodeChar c).length) rest).map (c :: ·)

theorem decodes_one {c : CodePoint} (h : c.val < 0x80) : Decodes c := by
  intro position rest
  have hsize : c.val < 256 := by omega
  have hlt : UInt8.ofNat c.val < 0x80 := (ofNat_lt_iff hsize 0x80).mpr h
  rw [encodeChar, if_pos h, List.singleton_append, decodeFrom.eq_def]
  simp only [if_pos hlt, toNat_ofNat hsize, CodePoint.ofNat_val]
  rfl

theorem decodes_two {c : CodePoint} (h : ¬ c.val < 0x80) (h' : c.val < 0x800) : Decodes c := by
  intro position rest
  obtain ⟨hfirst, hbounds, htwo, -⟩ := lead_bounds (n := 0xC0 + c.val / 64) (by omega) (by omega)
  have hlead := toNat_ofNat (n := 0xC0 + c.val / 64) (by omega)
  have hbytes : encodeChar c = [UInt8.ofNat (0xC0 + c.val / 64), tail c.val] := by
    rw [encodeChar, if_neg h, if_pos h']
    rfl
  rw [hbytes, List.cons_append, List.singleton_append, decodeFrom.eq_def]
  simp only [if_neg hfirst, if_neg hbounds, if_pos (htwo.mpr (by omega)), isContinuation_tail,
    if_true, hlead, payload_tail]
  rw [ofNat_eq (c := c) (by omega)]
  rfl

theorem decodes_three {c : CodePoint} (h : ¬ c.val < 0x800) (h' : c.val < 0x10000)
    (hsurrogate : c.isSurrogate = false) : Decodes c := by
  intro position rest
  obtain ⟨hfirst, hbounds, htwo, hthree⟩ :=
    lead_bounds (n := 0xE0 + c.val / 4096) (by omega) (by omega)
  have hlead := toNat_ofNat (n := 0xE0 + c.val / 4096) (by omega)
  have hfollow : mayFollow (UInt8.ofNat (0xE0 + c.val / 4096)) (tail (c.val / 64)) = true := by
    have hplain : 0xD800 ≤ c.val → 0xE000 ≤ c.val := by
      simpa [CodePoint.isSurrogate] using hsurrogate
    rw [mayFollow_tail (by omega)]
    omega
  have hbytes : encodeChar c =
      [UInt8.ofNat (0xE0 + c.val / 4096), tail (c.val / 64), tail c.val] := by
    rw [encodeChar, if_neg (by omega), if_neg h, if_pos h']
    rfl
  rw [hbytes, List.cons_append, List.cons_append, List.singleton_append, decodeFrom.eq_def]
  simp only [if_neg hfirst, if_neg hbounds, if_neg (mt htwo.mp (by omega)),
    if_pos (hthree.mpr (by omega)), hfollow, isContinuation_tail, Bool.not_true,
    Bool.false_eq_true, if_false, hlead, payload_tail]
  rw [ofNat_eq (c := c) (by omega)]
  rfl

theorem decodes_four {c : CodePoint} (h : ¬ c.val < 0x10000) : Decodes c := by
  intro position rest
  have hlast := c.val_lt
  obtain ⟨hfirst, hbounds, htwo, hthree⟩ :=
    lead_bounds (n := 0xF0 + c.val / 262144) (by omega) (by omega)
  have hlead := toNat_ofNat (n := 0xF0 + c.val / 262144) (by omega)
  have hfollow : mayFollow (UInt8.ofNat (0xF0 + c.val / 262144)) (tail (c.val / 4096)) = true := by
    rw [mayFollow_tail (by omega)]
    omega
  have hbytes : encodeChar c =
      [UInt8.ofNat (0xF0 + c.val / 262144), tail (c.val / 4096), tail (c.val / 64),
        tail c.val] := by
    rw [encodeChar, if_neg (by omega), if_neg (by omega), if_neg h]
    rfl
  rw [hbytes, List.cons_append, List.cons_append, List.cons_append, List.singleton_append,
    decodeFrom.eq_def]
  simp only [if_neg hfirst, if_neg hbounds, if_neg (mt htwo.mp (by omega)),
    if_neg (mt hthree.mp (by omega)), hfollow, isContinuation_tail, Bool.not_true,
    Bool.false_eq_true, if_false, hlead, payload_tail]
  rw [ofNat_eq (c := c) (by omega)]
  rfl

theorem decodes {c : CodePoint} (h : c.isSurrogate = false) : Decodes c := by
  by_cases h₁ : c.val < 0x80
  · exact decodes_one h₁
  by_cases h₂ : c.val < 0x800
  · exact decodes_two h₁ h₂
  by_cases h₃ : c.val < 0x10000
  · exact decodes_three h₂ h₃ h
  · exact decodes_four h₃

theorem decodeFrom_flatMap_encodeChar {t : Text} (h : t.isEncodable) (position : Nat) :
    decodeFrom position (t.flatMap encodeChar) = .ok t := by
  induction t generalizing position with
  | nil => rfl
  | cons c rest ih =>
      obtain ⟨hc, hrest⟩ : c.isSurrogate = false ∧ Text.isEncodable rest = true := by
        simpa [Text.isEncodable] using h
      rw [List.flatMap_cons, decodes hc, ih hrest]
      rfl

/-- Exactly the texts without surrogates are encoded, and their bytes are those of their
characters. -/
theorem encode_eq_ok_iff {t : Text} {bytes : Bytes} :
    encode t = .ok bytes ↔ t.isEncodable ∧ bytes = t.flatMap encodeChar := by
  have hnone : surrogateRun? 0 t = none ↔ t.isEncodable = true :=
    (surrogateRun?_eq_none_iff 0 t).trans (Text.isEncodable_iff t).symm
  cases hrun : surrogateRun? 0 t with
  | none =>
      have ht : t.isEncodable = true := hnone.mp hrun
      simp [encode, hrun, ht, eq_comm]
  | some fault =>
      have ht : ¬ t.isEncodable = true := by
        intro ht
        simp [hnone.mpr ht] at hrun
      simp [encode, hrun, ht]

theorem exists_encode_eq_error {t : Text} (h : t.isEncodable = false) :
    ∃ fault, encode t = .error fault := by
  cases hencode : encode t with
  | error fault => exact ⟨fault, rfl⟩
  | ok bytes => simp [(encode_eq_ok_iff.mp hencode).1] at h

theorem decode_encode {t : Text} {bytes : Bytes} (h : encode t = .ok bytes) :
    decode bytes = .ok t := by
  obtain ⟨ht, rfl⟩ := encode_eq_ok_iff.mp h
  exact decodeFrom_flatMap_encodeChar ht 0

theorem ne_nil_of_encode {t : Text} {bytes : Bytes} (h : encode t = .ok bytes) (hne : t ≠ []) :
    bytes ≠ [] := by
  rintro rfl
  exact hne (Except.ok.inj (decode_encode h)).symm

/-! ## Encoding what was decoded -/

theorem isContinuation_iff (b : UInt8) :
    isContinuation b = true ↔ 0x80 ≤ b.toNat ∧ b.toNat < 0xC0 := by
  simp [isContinuation, UInt8.le_iff_toNat_le, UInt8.lt_iff_toNat_lt]

theorem mayFollow_iff (lead second : UInt8) :
    mayFollow lead second = true ↔
      (0x80 ≤ second.toNat ∧ second.toNat < 0xC0) ∧
        (lead.toNat = 0xE0 → 0xA0 ≤ second.toNat) ∧ (lead.toNat = 0xED → second.toNat < 0xA0) ∧
        (lead.toNat = 0xF0 → 0x90 ≤ second.toNat) ∧ (lead.toNat = 0xF4 → second.toNat < 0x90) := by
  simp only [mayFollow, Bool.and_eq_true, Bool.or_eq_true, bne_iff_ne, ne_eq, decide_eq_true_eq,
    isContinuation_iff, ← UInt8.toNat_inj, UInt8.le_iff_toNat_le, UInt8.lt_iff_toNat_lt,
    UInt8.toNat_ofNat]
  omega

theorem ofNat_eq_of_toNat {b : UInt8} {n : Nat} (h : n = b.toNat) : UInt8.ofNat n = b := by
  rw [h, UInt8.ofNat_toNat]

theorem tail_eq_of_payload {b : UInt8} {n : Nat} (hb : isContinuation b = true)
    (h : n % 64 = payload b) : tail n = b := by
  have hbounds := (isContinuation_iff b).mp hb
  unfold payload at h
  exact ofNat_eq_of_toNat (by omega)

/-- A character with a UTF-8 form is written as some bytes. -/
def Writes (c : CodePoint) (bytes : Bytes) : Prop := c.isSurrogate = false ∧ encodeChar c = bytes

theorem writes_one {a : UInt8} (h : a < 0x80) : Writes (.ofNat a.toNat) [a] := by
  have ha : a.toNat < 0x80 := UInt8.lt_iff_toNat_lt.mp h
  have hval : (CodePoint.ofNat a.toNat).val = a.toNat := CodePoint.val_ofNat (by omega)
  refine ⟨by simp [CodePoint.isSurrogate, hval]; omega, ?_⟩
  rw [encodeChar, hval, if_pos ha, UInt8.ofNat_toNat]

theorem writes_two {a b : UInt8} (ha : 0xC2 ≤ a.toNat) (ha' : a.toNat < 0xE0)
    (hb : isContinuation b = true) :
    Writes (.ofNat (a.toNat % 32 * 64 + payload b)) [a, b] := by
  have hpayload : payload b < 64 := Nat.mod_lt _ (by decide)
  have hval := CodePoint.val_ofNat (n := a.toNat % 32 * 64 + payload b) (by omega)
  refine ⟨by simp [CodePoint.isSurrogate, hval]; omega, ?_⟩
  have hlead : UInt8.ofNat (0xC0 + (a.toNat % 32 * 64 + payload b) / 64) = a :=
    ofNat_eq_of_toNat (by omega)
  have htail : tail (a.toNat % 32 * 64 + payload b) = b := tail_eq_of_payload hb (by omega)
  rw [encodeChar, hval, if_neg (by omega), if_pos (by omega), hlead]
  change [a, tail _] = [a, b]
  rw [htail]

theorem writes_three {a b c : UInt8} (ha : 0xE0 ≤ a.toNat) (ha' : a.toNat < 0xF0)
    (hb : mayFollow a b = true) (hc : isContinuation c = true) :
    Writes (.ofNat ((a.toNat % 16 * 64 + payload b) * 64 + payload c)) [a, b, c] := by
  obtain ⟨hbounds, hoverlong, hsurrogate, -, -⟩ := (mayFollow_iff a b).mp hb
  have hsecond : b.toNat = 0x80 + payload b := by
    unfold payload
    omega
  have hpayload : payload c < 64 := Nat.mod_lt _ (by decide)
  have hval := CodePoint.val_ofNat (n := (a.toNat % 16 * 64 + payload b) * 64 + payload c)
    (by omega)
  refine ⟨by simp [CodePoint.isSurrogate, hval]; omega, ?_⟩
  have hlead : UInt8.ofNat
      (0xE0 + ((a.toNat % 16 * 64 + payload b) * 64 + payload c) / 4096) = a :=
    ofNat_eq_of_toNat (by omega)
  have hmiddle : tail (((a.toNat % 16 * 64 + payload b) * 64 + payload c) / 64) = b :=
    tail_eq_of_payload ((isContinuation_iff b).mpr hbounds) (by omega)
  have htail : tail ((a.toNat % 16 * 64 + payload b) * 64 + payload c) = c :=
    tail_eq_of_payload hc (by omega)
  rw [encodeChar, hval, if_neg (by omega), if_neg (by omega), if_pos (by omega), hlead]
  change [a, tail _, tail _] = [a, b, c]
  rw [hmiddle, htail]

theorem writes_four {a b c d : UInt8} (ha : 0xF0 ≤ a.toNat) (ha' : a.toNat < 0xF5)
    (hb : mayFollow a b = true) (hc : isContinuation c = true) (hd : isContinuation d = true) :
    Writes (.ofNat (((a.toNat % 8 * 64 + payload b) * 64 + payload c) * 64 + payload d))
      [a, b, c, d] := by
  obtain ⟨hbounds, -, -, hoverlong, hlast⟩ := (mayFollow_iff a b).mp hb
  have hsecond : b.toNat = 0x80 + payload b := by
    unfold payload
    omega
  have hthird : payload c < 64 := Nat.mod_lt _ (by decide)
  have hfourth : payload d < 64 := Nat.mod_lt _ (by decide)
  have hval := CodePoint.val_ofNat
    (n := ((a.toNat % 8 * 64 + payload b) * 64 + payload c) * 64 + payload d) (by omega)
  refine ⟨by simp [CodePoint.isSurrogate, hval]; omega, ?_⟩
  have hlead : UInt8.ofNat (0xF0 +
      (((a.toNat % 8 * 64 + payload b) * 64 + payload c) * 64 + payload d) / 262144) = a :=
    ofNat_eq_of_toNat (by omega)
  have hmiddle : tail ((((a.toNat % 8 * 64 + payload b) * 64 + payload c) * 64 + payload d) /
      4096) = b :=
    tail_eq_of_payload ((isContinuation_iff b).mpr hbounds) (by omega)
  have hlater : tail ((((a.toNat % 8 * 64 + payload b) * 64 + payload c) * 64 + payload d) / 64) =
      c := tail_eq_of_payload hc (by omega)
  have htail : tail (((a.toNat % 8 * 64 + payload b) * 64 + payload c) * 64 + payload d) = d :=
    tail_eq_of_payload hd (by omega)
  rw [encodeChar, hval, if_neg (by omega), if_neg (by omega), if_neg (by omega), hlead]
  change [a, tail _, tail _, tail _] = [a, b, c, d]
  rw [hmiddle, hlater, htail]

theorem Writes.decoded_cons {c : CodePoint} {bytes rest : Bytes} {t : Text}
    {decoded : Except DecodeFault Text} (hc : Writes c bytes)
    (ih : ∀ {t : Text}, decoded = .ok t → t.isEncodable = true ∧ t.flatMap encodeChar = rest)
    (h : decoded.map (c :: ·) = .ok t) :
    t.isEncodable = true ∧ t.flatMap encodeChar = bytes ++ rest := by
  obtain ⟨hplain, rfl⟩ := hc
  cases hdecoded : decoded with
  | error fault =>
      rw [hdecoded] at h
      cases h
  | ok later =>
      rw [hdecoded] at h
      obtain rfl : c :: later = t := Except.ok.inj h
      obtain ⟨hlater, rfl⟩ := ih hdecoded
      refine ⟨?_, List.flatMap_cons⟩
      rw [Text.isEncodable_iff] at hlater ⊢
      simpa [hplain] using hlater

theorem flatMap_encodeChar_of_decodeFrom {position : Nat} {bytes : Bytes} {t : Text}
    (h : decodeFrom position bytes = .ok t) :
    t.isEncodable = true ∧ t.flatMap encodeChar = bytes := by
  fun_induction decodeFrom position bytes generalizing t with
  | case1 =>
      cases h
      exact ⟨rfl, rfl⟩
  | case2 _ a rest hone ih => exact (writes_one hone).decoded_cons ih h
  | case5 _ a _ hlead b rest htwo hb ih =>
      rw [not_or, UInt8.not_lt, UInt8.not_le, UInt8.le_iff_toNat_le] at hlead
      exact (writes_two hlead.1 (UInt8.lt_iff_toNat_lt.mp htwo) hb).decoded_cons ih h
  | case10 _ a _ _ b htwo hb c rest hc hthree ih =>
      rw [UInt8.not_lt, UInt8.le_iff_toNat_le] at htwo
      have hwrites := writes_three htwo (UInt8.lt_iff_toNat_lt.mp hthree) (by simpa using hb)
        (by simpa using hc)
      exact hwrites.decoded_cons ih h
  | case13 _ a _ hlead b _ hb c hc hthree d rest hd ih =>
      rw [not_or, UInt8.not_lt, UInt8.not_le, UInt8.lt_iff_toNat_lt] at hlead
      rw [UInt8.not_lt, UInt8.le_iff_toNat_le] at hthree
      have hwrites := writes_four hthree hlead.2 (by simpa using hb) (by simpa using hc)
        (by simpa using hd)
      exact hwrites.decoded_cons ih h
  | _ => cases h

/-- Exactly the bytes of a text are decoded, and to that text. -/
theorem decode_eq_ok_iff {bytes : Bytes} {t : Text} :
    decode bytes = .ok t ↔ encode t = .ok bytes := by
  constructor
  · intro h
    obtain ⟨ht, hbytes⟩ := flatMap_encodeChar_of_decodeFrom h
    exact encode_eq_ok_iff.mpr ⟨ht, hbytes.symm⟩
  · exact decode_encode

end Utf8

end BuildRecorder
