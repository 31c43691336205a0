import BuildRecorder.Database.Basic
import BuildRecorder.Database.Document
import BuildRecorder.Proofs.Json.Written
import BuildRecorder.Proofs.Text.Utf8

/-!
# Database files read back

Both ways of writing a record are read as the same object, and the documents of both stores put the
same listing around it. So one lemma on listings gives the round trip of either store's file, from
records to bytes and back.
-/

namespace BuildRecorder

theorem Text.notMem_join {α : Type} {c : CodePoint} (separator : Text) {write : α → Text}
    (hseparator : c ∉ separator) (hwrite : ∀ a, c ∉ write a) (pieces : List α) :
    c ∉ Text.join separator (pieces.map write) := by
  have hother {t : Text} : t.all (· ≠ c) = true ↔ c ∉ t := by
    simp only [List.all_eq_true, decide_eq_true_eq]
    constructor
    · intro h hmem
      exact h c hmem rfl
    · rintro h d hd rfl
      exact h hd
  rw [← hother, Text.all_join separator (hother.mpr hseparator), List.all_eq_true]
  intro a ha
  exact hother.mpr (hwrite a)

namespace Record

open Json

/-! ## Records as JSON values -/

def toJson (record : Record) : Json :=
  .object (record.fields.map fun field => (field.1, .text field.2))

@[simp] theorem ofJson_toJson (record : Record) : ofJson record.toJson = .ok record := rfl

theorem fields_ne_nil (record : Record) : record.fields ≠ [] := by simp [fields]

theorem foldl_put_fields (record : Record) :
    Json.object (record.fields.foldl
      (fun known field => Fields.put known field.1 (.text field.2)) []) = record.toJson := rfl

theorem leads_writeField (field : Text × Text) (state : State) (known : Fields)
    (stack : List Frame) (h : state.WantsName known stack) :
    Leads (writeField field) state (.afterField (known.put field.1 (.text field.2)) stack) :=
  leads_field h field.1 field.2

theorem readsAs_compact (record : Record) : ReadsAs record.compact record.toJson := by
  have h := readsAs_object [] " " [] leads_writeField rfl (by decide) rfl record.fields_ne_nil
  simp only [foldl_put_fields, List.append_nil] at h
  exact h

theorem readsAs_indented (record : Record) : ReadsAs record.indented record.toJson := by
  have hindent : (Text.ofString "    ").all isSpace = true := by decide
  have h := readsAs_object "\n" "\n" "\n  "
    (fun field state known stack hstate =>
      (leads_blank hindent state).append (leads_writeField field state known stack hstate))
    (by decide) (by decide) (by decide) record.fields_ne_nil
  have hblank := h.blank_append "  " (by decide)
  simp only [foldl_put_fields, List.append_assoc] at hblank
  rw [indented, List.append_assoc]
  exact hblank

theorem carriageReturn_notMem_quote (t : Text) : Text.carriageReturn ∉ quote t := by
  intro h
  have hle := le_val_of_mem_quote h
  exact absurd hle (by decide)

theorem carriageReturn_notMem_writeField (field : Text × Text) :
    Text.carriageReturn ∉ writeField field := by
  have hcolon : Text.carriageReturn ∉ Text.ofString ": " := by decide
  simp [writeField, carriageReturn_notMem_quote, hcolon]

theorem carriageReturn_notMem_compact (record : Record) :
    Text.carriageReturn ∉ record.compact := by
  have hfields := Text.notMem_join ", " (by decide) carriageReturn_notMem_writeField
    record.fields
  have hopen : Text.carriageReturn ∉ Text.ofString "\x7b" := by decide
  have hclose : Text.carriageReturn ∉ Text.ofString "\x7d" := by decide
  simp [compact, hfields, hopen, hclose]

theorem carriageReturn_notMem_indented (record : Record) :
    Text.carriageReturn ∉ record.indented := by
  have hindent : Text.carriageReturn ∉ Text.ofString "    " := by decide
  have hfield (field : Text × Text) : Text.carriageReturn ∉ "    " ++ writeField field := by
    simp [hindent, carriageReturn_notMem_writeField]
  have hfields := Text.notMem_join ",\n" (by decide) hfield record.fields
  have hopen : Text.carriageReturn ∉ Text.ofString "  \x7b\n" := by decide
  have hclose : Text.carriageReturn ∉ Text.ofString "\n  \x7d" := by decide
  simp [indented, hfields, hopen, hclose]

end Record

namespace Database

open Json

theorem readEntries_toJson (index : Nat) (records : List Record) :
    readEntries index (records.map Record.toJson) = .ok records := by
  induction records generalizing index with
  | nil => rfl
  | cons record records ih => simp [readEntries, ih, Except.map]

/-- Records in an array, a record to a piece of lines. -/
def listing (write : Record → Text) (records : List Record) : Text :=
  "[\n" ++ Text.join ",\n" (records.map write) ++ "\n]\n"

theorem leads_opening : Leads "[\n" (.wantValue []) (.wantFirstItem []) :=
  (leads_beginArray (.anywhere [])).append (leads_space (c := '\n') (by decide) _)

/-- Records in an array that is not closed. -/
theorem leads_unclosed {write : Record → Text}
    (hwrite : ∀ record, ReadsAs (write record) record.toJson)
    {records : List Record} (hne : records ≠ []) :
    Leads ("[\n" ++ Text.join ",\n" (records.map write)) (.wantValue [])
      (.afterItem (records.map Record.toJson).reverse []) :=
  leads_opening.append (leads_items "\n" hwrite (by decide) hne [])

theorem leads_listing {write : Record → Text}
    (hwrite : ∀ record, ReadsAs (write record) record.toJson)
    {records : List Record} (hne : records ≠ []) :
    Leads (listing write records) (.wantValue []) (.done (.array (records.map Record.toJson))) := by
  have hback : Leads "\n]\n" (.afterItem (records.map Record.toJson).reverse [])
      (.done (.array (records.map Record.toJson))) := by
    have h := ((leads_space (c := '\n') (by decide) _).append
      (leads_endArray (records.map Record.toJson).reverse [])).append
      (leads_space (c := '\n') (by decide) _)
    rwa [List.reverse_reverse] at h
  exact (leads_unclosed hwrite hne).append hback

theorem leads_emptyListing {t : Text} (hgap : t.all isSpace = true) :
    Leads ("[" ++ t ++ "]\n") (.wantValue []) (.done (.array [])) :=
  ((leads_beginArray (.anywhere [])).append (leads_blank hgap _)).append
    ((leads_endEmptyArray []).append (leads_space (c := '\n') (by decide) _))

/-- A text that starts with a bracket is read as a document. -/
theorem readBytes_of_bracket {t : Text} {bytes : Bytes} (hhead : t.head? = some '[')
    (hreturn : Text.carriageReturn ∉ t) (hbytes : Utf8.encode t = .ok bytes) :
    Text.isBlank t = false ∧ readBytes bytes = readDocument t := by
  constructor
  · obtain ⟨rest, rfl⟩ := List.head?_eq_some_iff.mp hhead
    rfl
  · rw [readBytes, Utf8.decode_encode hbytes]
    simp only [Text.unifyLineEnds_eq_self hreturn]

/-- A text that starts with a bracket and leads to an array of records is a document of them. -/
theorem readBytes_of_leads {t : Text} {records : List Record} {bytes : Bytes}
    (hleads : Leads t (.wantValue []) (.done (.array (records.map Record.toJson))))
    (hhead : t.head? = some '[') (hreturn : Text.carriageReturn ∉ t)
    (hbytes : Utf8.encode t = .ok bytes) : readBytes bytes = .ok records := by
  have hmark : t.head? ≠ some byteOrderMark := by
    rw [hhead]
    decide
  obtain ⟨hblank, hread⟩ := readBytes_of_bracket hhead hreturn hbytes
  rw [hread, readDocument, hblank, if_neg (by simp), read_of_leads hleads hmark]
  exact readEntries_toJson 0 records

theorem carriageReturn_notMem_listing {write : Record → Text}
    (hwrite : ∀ record, Text.carriageReturn ∉ write record) (records : List Record) :
    Text.carriageReturn ∉ listing write records := by
  have hitems := Text.notMem_join ",\n" (by decide) hwrite records
  have hopen : Text.carriageReturn ∉ Text.ofString "[\n" := by decide
  have hclose : Text.carriageReturn ∉ Text.ofString "\n]\n" := by decide
  simp [listing, hitems, hopen, hclose]

theorem readBytes_listing {write : Record → Text} {records : List Record} {bytes : Bytes}
    (hreads : ∀ record, ReadsAs (write record) record.toJson)
    (hwrite : ∀ record, Text.carriageReturn ∉ write record) (hne : records ≠ [])
    (hbytes : Utf8.encode (listing write records) = .ok bytes) : readBytes bytes = .ok records :=
  readBytes_of_leads (leads_listing hreads hne) rfl (carriageReturn_notMem_listing hwrite records)
    hbytes

/-- A document with a line end behind it is read back as the records of the database. -/
theorem readBytes_document {db : Database} {bytes : Bytes}
    (hbytes : Utf8.encode (db.document ++ "\n") = .ok bytes) :
    readBytes bytes = .ok db.records := by
  by_cases hempty : db.records = []
  · have hdocument : db.document ++ Text.ofString "\n" =
        Text.ofString "[" ++ [] ++ Text.ofString "]\n" := by
      simp [document, hempty]
      rfl
    have hreturn : Text.carriageReturn ∉ Text.ofString "[" ++ [] ++ Text.ofString "]\n" := by decide
    rw [hdocument] at hbytes
    rw [hempty]
    exact readBytes_of_leads (leads_emptyListing rfl) rfl hreturn hbytes
  · have hdocument : db.document ++ "\n" = listing Record.indented db.records := by
      simp [document, listing, hempty]
      rfl
    rw [hdocument] at hbytes
    exact readBytes_listing Record.readsAs_indented Record.carriageReturn_notMem_indented hempty
      hbytes

end Database

end BuildRecorder
