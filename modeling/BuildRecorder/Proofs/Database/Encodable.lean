import BuildRecorder.Proofs.Database.Upsert
import BuildRecorder.Proofs.Json.Written
import BuildRecorder.Proofs.Text.Utf8

/-!
# Records that have a UTF-8 form

Writing adds ASCII characters only and keeps every character above them, so what is written of a
record has a UTF-8 form exactly if the texts of the record have one.
-/

namespace BuildRecorder

theorem Text.isEncodable_join {α : Type} (separator : Text) (hseparator : separator.isEncodable)
    (write : α → Text) (pieces : List α) :
    (Text.join separator (pieces.map write)).isEncodable =
      pieces.all fun a => (write a).isEncodable :=
  Text.all_join separator hseparator write pieces

namespace Json

theorem isSurrogate_of_isGraphic {c : CodePoint} (h : isGraphic c = true) :
    c.isSurrogate = false := by
  simp only [isGraphic, Bool.and_eq_true, decide_eq_true_eq] at h
  simp [CodePoint.isSurrogate]
  omega

theorem isEncodable_escapeChar (c : CodePoint) :
    (escapeChar c).isEncodable = !c.isSurrogate := by
  rcases escapeChar_eq_or_graphic c with ⟨heq, -⟩ | ⟨hlow, hall⟩
  · simp [heq, Text.isEncodable]
  · have hplain : c.isSurrogate = false := by
      simp [CodePoint.isSurrogate]
      omega
    rw [hplain, Bool.not_false, Text.isEncodable_iff]
    intro d hd
    exact isSurrogate_of_isGraphic (List.all_eq_true.mp hall d hd)

@[simp] theorem isEncodable_quote (t : Text) : (quote t).isEncodable = t.isEncodable := by
  have hmark : (Text.ofString "\"").isEncodable = true := by decide
  have hcontent : Text.isEncodable (t.flatMap escapeChar) = t.isEncodable := by
    induction t with
    | nil => rfl
    | cons c t ih =>
        rw [List.flatMap_cons, Text.isEncodable_append, isEncodable_escapeChar, ih]
        rfl
  simp [quote, hmark, hcontent]

end Json

namespace Record

/-- Whether every text of a record has a UTF-8 form. -/
def isEncodable (record : Record) : Bool :=
  record.directory.isEncodable && record.command.isEncodable && record.file.isEncodable

theorem isEncodable_writeField (field : Text × Text) :
    (writeField field).isEncodable = (field.1.isEncodable && field.2.isEncodable) := by
  have hcolon : (Text.ofString ": ").isEncodable = true := by decide
  simp [writeField, hcolon]

theorem all_fields_isEncodable (record : Record) :
    (record.fields.all fun field => field.1.isEncodable && field.2.isEncodable) =
      record.isEncodable := by
  have hdirectory : (Text.ofString "directory").isEncodable = true := by decide
  have hcommand : (Text.ofString "command").isEncodable = true := by decide
  have hfile : (Text.ofString "file").isEncodable = true := by decide
  simp [fields, isEncodable, hdirectory, hcommand, hfile, Bool.and_assoc]

theorem isEncodable_compact (record : Record) :
    record.compact.isEncodable = record.isEncodable := by
  have hopen : (Text.ofString "\x7b").isEncodable = true := by decide
  have hclose : (Text.ofString "\x7d").isEncodable = true := by decide
  have hfields := Text.isEncodable_join ", " (by decide) writeField record.fields
  simp only [isEncodable_writeField, all_fields_isEncodable] at hfields
  simp [compact, hopen, hclose, hfields]

theorem isEncodable_indented (record : Record) :
    record.indented.isEncodable = record.isEncodable := by
  have hindent : (Text.ofString "    ").isEncodable = true := by decide
  have hopen : (Text.ofString "  \x7b\n").isEncodable = true := by decide
  have hclose : (Text.ofString "\n  \x7d").isEncodable = true := by decide
  have hfields := Text.isEncodable_join ",\n" (by decide)
    (fun field => "    " ++ writeField field) record.fields
  simp only [Text.isEncodable_append, hindent, Bool.true_and, isEncodable_writeField,
    all_fields_isEncodable] at hfields
  simp [indented, hopen, hclose, hfields]

end Record

namespace Database

/-- Whether every record has a UTF-8 form. -/
def isEncodable (db : Database) : Bool := db.records.all Record.isEncodable

theorem isEncodable_document (db : Database) : db.document.isEncodable = db.isEncodable := by
  by_cases hempty : db.records = []
  · have hbrackets : (Text.ofString "[]").isEncodable = true := by decide
    simp [document, isEncodable, hempty, hbrackets]
  · have hopen : (Text.ofString "[\n").isEncodable = true := by decide
    have hclose : (Text.ofString "\n]").isEncodable = true := by decide
    have hrecords := Text.isEncodable_join ",\n" (by decide) Record.indented db.records
    simp only [Record.isEncodable_indented] at hrecords
    simp [document, isEncodable, hempty, hopen, hclose, hrecords]

/-- A document is written exactly if the database has a UTF-8 form. -/
theorem exists_encode_document_iff (db : Database) :
    (∃ bytes, Utf8.encode (db.document ++ "\n") = .ok bytes) ↔ db.isEncodable = true := by
  have hend : (Text.ofString "\n").isEncodable = true := by decide
  simp [Utf8.encode_eq_ok_iff, isEncodable_document, hend]

/-- Storing records that have a UTF-8 form mends a database as far as they take the places of those
that have none. -/
theorem isEncodable_upsertAll_iff {db : Database} {records : List Record}
    (h : ∀ record ∈ records, record.isEncodable = true) :
    (db.upsertAll records).isEncodable = true ↔
      ∀ old ∈ db.records, old.isEncodable = true ∨ old.file ∈ records.map (·.file) := by
  induction records generalizing db with
  | nil => simp [upsertAll, isEncodable]
  | cons record records ih =>
      obtain ⟨hrecord, hlater⟩ := List.forall_mem_cons.mp h
      rw [upsertAll_cons, ih hlater, forall_mem_upsert_iff]
      constructor
      · rintro ⟨-, hothers⟩ old hold
        by_cases hfile : old.file = record.file
        · exact .inr (by simp [hfile])
        · rcases hothers old hold hfile with hencodable | hmem
          · exact .inl hencodable
          · exact .inr (List.mem_cons_of_mem _ hmem)
      · intro hall
        refine ⟨.inl hrecord, ?_⟩
        intro old hold hfile
        rcases hall old hold with hencodable | hmem
        · exact .inl hencodable
        · exact .inr ((List.mem_cons.mp hmem).resolve_left hfile)

end Database

end BuildRecorder
