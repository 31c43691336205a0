import BuildRecorder.Database.Document
import BuildRecorder.Proofs.Text.Utf8
import Mathlib.Data.List.Forall2

/-!
# What the content of a database file says

The contents that hold records, told without the reader: the bytes are those of a text, and the text
is blank, or the document `null`, or an array in which every item is an object with the three texts
of a record. Reading finds just these records. An array that holds a bad item is refused at the
first one.
-/

namespace BuildRecorder

theorem exists_of_bind_eq_ok {ε α β : Type} {x : Except ε α} {f : α → Except ε β} {b : β}
    (h : (x >>= f) = .ok b) : ∃ a, x = .ok a ∧ f a = .ok b := by
  cases x with
  | error fault => cases h
  | ok a => exact ⟨a, rfl, h⟩

namespace Record

/-- An item of an array that stands for a record. What else the object holds does not count. -/
def IsItem (item : Json) (record : Record) : Prop :=
  ∃ fields : Json.Fields, item = .object fields ∧
    fields.get? "directory" = some (.text record.directory) ∧
    fields.get? "command" = some (.text record.command) ∧
    fields.get? "file" = some (.text record.file)

theorem textField_eq_ok_iff {fields : Json.Fields} {name value : Text} :
    textField fields name = .ok value ↔ fields.get? name = some (.text value) := by
  unfold textField
  split
  · next found hfound => simp [hfound]
  · next hother =>
    constructor
    · intro h
      cases h
    · intro h
      exact absurd h (hother value)

theorem ofJson_eq_ok_iff {item : Json} {record : Record} :
    ofJson item = .ok record ↔ IsItem item record := by
  constructor
  · intro h
    cases item with
    | object fields =>
        obtain ⟨directory, hdirectory, hrest⟩ := exists_of_bind_eq_ok h
        obtain ⟨command, hcommand, hrest⟩ := exists_of_bind_eq_ok hrest
        obtain ⟨file, hfile, hrest⟩ := exists_of_bind_eq_ok hrest
        cases hrest
        exact ⟨fields, rfl, textField_eq_ok_iff.mp hdirectory, textField_eq_ok_iff.mp hcommand,
          textField_eq_ok_iff.mp hfile⟩
    | _ => cases h
  · rintro ⟨fields, rfl, hdirectory, hcommand, hfile⟩
    rw [← textField_eq_ok_iff] at hdirectory hcommand hfile
    simp only [ofJson, hdirectory, hcommand, hfile]
    rfl

end Record

namespace Json

theorem ne_of_isBlank {c d : CodePoint} (hc : c.isBlank = true) (hd : d.isBlank = false) :
    c ≠ d := by
  rintro rfl
  rw [hc] at hd
  cases hd

theorem isDigit_of_isBlank {c : CodePoint} (hc : c.isBlank = true) : c.isDigit = false := by
  simp only [CodePoint.isBlank, Bool.or_eq_true, Bool.and_eq_true, decide_eq_true_eq] at hc
  simp only [CodePoint.isDigit, Bool.and_eq_false_iff, decide_eq_false_iff_not]
  omega

theorem readLexeme_of_isBlank {c : CodePoint} (hc : c.isBlank = true) (position : Nat)
    (rest : Text) : readLexeme position c rest = (.unknown, 0) := by
  have hne (d : CodePoint) (hd : d.isBlank = false) : c ≠ d := ne_of_isBlank hc hd
  have hscalar : readScalar c rest = none := by
    have hrun : digitRun (c :: rest) = [] := by simp [digitRun, isDigit_of_isBlank hc]
    simp only [readScalar, hne 'n' (by decide), hne 't' (by decide), hne 'f' (by decide),
      hne 'N' (by decide), hne 'I' (by decide), hne '-' (by decide), if_false]
    simp [readMagnitude, hrun]
  simp only [readLexeme, hne '"' (by decide), hne '[' (by decide), hne ']' (by decide),
    hne '\x7b' (by decide), hne '\x7d' (by decide), hne ',' (by decide), hne ':' (by decide),
    if_false, hscalar]

/-- A blank text is no document, also where its blanks are none of JSON. -/
theorem read_of_isBlank {t : Text} (h : t.isBlank = true) (value : Json) :
    read t ≠ .ok value := by
  have hrun (position : Nat) : ∃ trouble,
      State.run (.wantValue []) (lexemes position t) = .error trouble := by
    induction t generalizing position with
    | nil =>
        rw [lexemes]
        exact ⟨_, rfl⟩
    | cons c t ih =>
        obtain ⟨hc, ht⟩ : c.isBlank = true ∧ Text.isBlank t = true := by
          simpa [Text.isBlank] using h
        rw [lexemes]
        split
        · exact ih ht (position + 1)
        · rw [readLexeme_of_isBlank hc]
          exact ⟨_, rfl⟩
  obtain ⟨trouble, htrouble⟩ := hrun 0
  unfold read
  rw [htrouble]
  split <;> simp

end Json

namespace Database

/-- The text that a file is read as: its bytes are UTF-8, and every line end is a line feed. -/
def TextOf (content : Bytes) (text : Text) : Prop :=
  ∃ raw : Text, Utf8.encode raw = .ok content ∧ raw.unifyLineEnds = text

/-- The contents that hold records, with the records in their order. -/
inductive Holds (content : Bytes) : List Record → Prop
  | blank (text : Text) (htext : TextOf content text) (hblank : text.isBlank = true) :
      Holds content []
  | null (text : Text) (htext : TextOf content text) (hread : Json.read text = .ok .null) :
      Holds content []
  | array (text : Text) (items : List Json) (records : List Record) (htext : TextOf content text)
      (hread : Json.read text = .ok (.array items))
      (hitems : List.Forall₂ Record.IsItem items records) : Holds content records

theorem readEntries_of_item {index : Nat} {item : Json} {record : Record}
    (h : Record.IsItem item record) (items : List Json) :
    readEntries index (item :: items) = (readEntries (index + 1) items).map (record :: ·) := by
  rw [readEntries, Record.ofJson_eq_ok_iff.mpr h]

theorem readEntries_eq_ok_iff {index : Nat} {items : List Json} {records : List Record} :
    readEntries index items = .ok records ↔ List.Forall₂ Record.IsItem items records := by
  induction items generalizing index records with
  | nil =>
      rw [readEntries, List.forall₂_nil_left_iff]
      simp [eq_comm]
  | cons item items ih =>
      rw [List.forall₂_cons_left_iff]
      cases hitem : Record.ofJson item with
      | error cause =>
          have hnone (record : Record) : ¬ Record.IsItem item record := by
            rw [← Record.ofJson_eq_ok_iff, hitem]
            simp
          simp [readEntries, hitem, hnone]
      | ok record =>
          have hthis := Record.ofJson_eq_ok_iff.mp hitem
          rw [readEntries_of_item hthis]
          constructor
          · intro h
            cases hlater : readEntries (index + 1) items with
            | error cause => simp [hlater, Except.map] at h
            | ok later =>
                simp only [hlater, Except.map, Except.ok.injEq] at h
                exact ⟨record, later, hthis, ih.mp hlater, h.symm⟩
          · rintro ⟨first, later, hfirst, hlater, rfl⟩
            have hsame : record = first := by
              have hother := Record.ofJson_eq_ok_iff.mpr hfirst
              rw [hitem] at hother
              exact Except.ok.inj hother
            rw [ih.mpr hlater, hsame]
            rfl

/-- The first bad item is the one that is told of. -/
theorem readEntries_eq_error {index : Nat} {items : List Json} {fault : ContentFault}
    (h : readEntries index items = .error fault) :
    ∃ front item back cause, items = front ++ item :: back ∧
      (∀ earlier ∈ front, ∃ record, Record.IsItem earlier record) ∧
      (∀ record, ¬ Record.IsItem item record) ∧
      fault = .badEntry (index + front.length) cause := by
  induction items generalizing index with
  | nil => cases h
  | cons item items ih =>
      cases hitem : Record.ofJson item with
      | error cause =>
          rw [readEntries, hitem] at h
          refine ⟨[], item, items, cause, rfl, by simp, ?_, (Except.error.inj h).symm⟩
          intro record hrecord
          rw [Record.ofJson_eq_ok_iff.mpr hrecord] at hitem
          cases hitem
      | ok record =>
          have hthis := Record.ofJson_eq_ok_iff.mp hitem
          rw [readEntries_of_item hthis] at h
          cases hlater : readEntries (index + 1) items with
          | ok later => simp [hlater, Except.map] at h
          | error cause =>
              rw [hlater] at h
              obtain rfl : cause = fault := Except.error.inj h
              obtain ⟨front, bad, back, cause, rfl, hfront, hbad, rfl⟩ := ih hlater
              refine ⟨item :: front, bad, back, cause, rfl, ?_, hbad, ?_⟩
              · intro earlier hearlier
                rcases List.mem_cons.mp hearlier with rfl | hmem
                · exact ⟨record, hthis⟩
                · exact hfront earlier hmem
              · rw [List.length_cons, Nat.add_assoc, Nat.add_comm 1]

theorem readBytes_of_textOf {content : Bytes} {text : Text} (h : TextOf content text) :
    readBytes content = readDocument text := by
  obtain ⟨raw, hraw, rfl⟩ := h
  rw [readBytes, Utf8.decode_encode hraw]

theorem readBytes_of_array {content : Bytes} {text : Text} {items : List Json}
    (htext : TextOf content text) (hread : Json.read text = .ok (.array items)) :
    readBytes content = readEntries 0 items := by
  have hblank : ¬ text.isBlank = true := fun hblank => Json.read_of_isBlank hblank _ hread
  rw [readBytes_of_textOf htext, readDocument, if_neg hblank, hread]

theorem holds_of_readDocument {content : Bytes} {text : Text} {records : List Record}
    (htext : TextOf content text) (h : readDocument text = .ok records) :
    Holds content records := by
  unfold readDocument at h
  split at h
  · next hblank =>
    cases h
    exact .blank text htext hblank
  · split at h
    · cases h
    · next hread =>
      cases h
      exact .null text htext hread
    · next items hread => exact .array text items records htext hread (readEntries_eq_ok_iff.mp h)
    · cases h

/-- A content is read exactly if it holds records, and as these. -/
theorem readBytes_eq_ok_iff {content : Bytes} {records : List Record} :
    readBytes content = .ok records ↔ Holds content records := by
  constructor
  · intro h
    cases hdecode : Utf8.decode content with
    | error fault =>
        rw [readBytes, hdecode] at h
        cases h
    | ok raw =>
        have htext : TextOf content raw.unifyLineEnds :=
          ⟨raw, Utf8.decode_eq_ok_iff.mp hdecode, rfl⟩
        rw [readBytes_of_textOf htext] at h
        exact holds_of_readDocument htext h
  · intro h
    cases h with
    | blank text htext hblank =>
        rw [readBytes_of_textOf htext, readDocument, if_pos hblank]
    | null text htext hread =>
        have hblank : ¬ text.isBlank = true := fun hblank => Json.read_of_isBlank hblank _ hread
        rw [readBytes_of_textOf htext, readDocument, if_neg hblank, hread]
    | array text items _ htext hread hitems =>
        rw [readBytes_of_array htext hread]
        exact readEntries_eq_ok_iff.mpr hitems

end Database

end BuildRecorder
