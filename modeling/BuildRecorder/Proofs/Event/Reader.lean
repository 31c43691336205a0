import BuildRecorder.Event.Reader
import BuildRecorder.Proofs.Text.Utf8

/-!
# Decoding piece by piece

An input that is decoded piece by piece is decoded as a whole: a sequence that the end of a piece
cuts through waits for the next piece, and nothing else does.
-/

namespace BuildRecorder

namespace Utf8

/-- What the front of some bytes gives when the bytes are those of a text: a start of the text, and
no fault unless the front ends within a sequence, which starts where the fault is. -/
structure CutBehind (position : Nat) (front back : Bytes) (t : Text) (n : Nat) (start later : Text) :
    Prop where
  text : t = start ++ later
  before : decodeFrom position (front.take n) = .ok start
  behind : decodeFrom (position + n) (front.drop n ++ back) = .ok later
  front : n = front.length ∨
    ∃ fault, decodeFrom position front = .error fault ∧ fault.start = position + n ∧
      fault.reason = .unexpectedEnd

theorem Writes.decodeFrom_append {c : CodePoint} {bytes : Bytes} (h : Writes c bytes)
    (position : Nat) (rest : Bytes) :
    decodeFrom position (bytes ++ rest) =
      (decodeFrom (position + bytes.length) rest).map (c :: ·) := by
  obtain ⟨hplain, rfl⟩ := h
  exact decodes hplain position rest

theorem Writes.cut {c : CodePoint} {bytes rest back : Bytes} {t : Text} {position : Nat}
    (hc : Writes c bytes)
    (ih : ∀ {t : Text}, decodeFrom (position + bytes.length) (rest ++ back) = .ok t →
      ∃ n start later, CutBehind (position + bytes.length) rest back t n start later)
    (h : decodeFrom position (bytes ++ rest ++ back) = .ok t) :
    ∃ n start later, CutBehind position (bytes ++ rest) back t n start later := by
  rw [List.append_assoc, hc.decodeFrom_append] at h
  cases hlater : decodeFrom (position + bytes.length) (rest ++ back) with
  | error fault =>
      rw [hlater] at h
      cases h
  | ok decoded =>
      rw [hlater] at h
      obtain rfl : c :: decoded = t := Except.ok.inj h
      obtain ⟨n, start, later, rfl, hbefore, hbehind, hfront⟩ := ih hlater
      refine ⟨bytes.length + n, c :: start, later, rfl, ?_, ?_, ?_⟩
      · rw [List.take_length_add_append, hc.decodeFrom_append, hbefore]
        rfl
      · rw [List.drop_length_add_append, ← Nat.add_assoc]
        exact hbehind
      · rw [hc.decodeFrom_append]
        rcases hfront with hwhole | ⟨fault, hfault, hstart, hreason⟩
        · exact .inl (by simp [hwhole])
        · exact .inr ⟨fault, by rw [hfault]; rfl, by omega, hreason⟩

end Utf8

namespace Event

end Event

end BuildRecorder
