import LintBook.Proofs.Files
import LintBook.Proofs.JsonForms
import LintBook.Proofs.UploadLimit

/-! Uploading the printed JSON of declarations comes to what rendering them directly comes to,
whatever the encoding of the file and the escapes in the text. -/
namespace LintBook

/-- Whether declarations are uploaded as a bare array or as a request. -/
inductive Layout
  | bare
  | wrapped

namespace Layout

def toJson : Layout → List Declaration → Json
  | bare, ds => .arr (ds.map Declaration.toJson)
  | wrapped, ds => Request.toJson ⟨ds⟩

section Proper

variable {ds : List Declaration} (proper : ∀ d ∈ ds, d.IsProper)

include proper

theorem ofUpload_toJson (layout : Layout) : Request.ofUpload (layout.toJson ds) = .ok ⟨ds⟩ := by
  have names : ∀ d ∈ ds, d.name ≠ [] ∧ d.name.isScalar = true :=
    fun d among => ⟨(proper d among).named, (proper d among).name⟩
  cases layout with
  | bare => exact Request.ofJson_toJson names
  | wrapped => exact Request.ofJson_toJson names

theorem textual_toJson (layout : Layout) : Json.Textual Json.nestingLimit (layout.toJson ds) := by
  cases layout with
  | bare => exact Request.textual_items proper _
  | wrapped => exact Request.textual_toJson proper _

/-- The printed text begins with an ASCII character, by which its encoding is found. -/
theorem print_toJson_opens (r : Json.Repertoire) (layout : Layout) :
    ∃ c t, Json.print r (layout.toJson ds) = c :: t ∧ 0 < c.val ∧ c.val < 0x80 := by
  obtain ⟨c, opens, t, printed⟩ := Json.print_opens r (textual_toJson proper layout)
  have table : (Json.openers.all fun c => decide (0 < c.val ∧ c.val < 0x80)) = true := by decide
  have ascii := of_decide_eq_true (List.all_eq_true.mp table c opens)
  exact ⟨c, t, printed, ascii.1, ascii.2⟩

end Proper

end Layout

namespace Upload

theorem renderText_value {report : Decoding.Report} {t : Text} {v : Json} {request : Request}
    (read : Json.read t = .ok v) (valid : Request.ofUpload v = .ok request) :
    renderText report t = render (some report) request.declarations := by
  simp only [renderText, read, valid]

/-- An uploaded file of declarations that is read whole is rendered as the declarations are, or
turned down for the same conflict, and its encoding is not missed. -/
theorem process_agrees_with_render {ds : List Declaration} {form : FileForm}
    {r : Json.Repertoire} {layout : Layout} {u : Upload} {limit : Int}
    {detect : Bytes → Option Text} (proper : ∀ d ∈ ds, d.IsProper)
    (supported : u.isSupported = true) (readable : limit + 1 < readBound)
    (written : u.content = form.encode (Json.print r (layout.toJson ds)))
    (within : (u.content.length : Int) ≤ limit)
    (detected : detect u.content = some (Encoding.guess u.content)) :
    ∃ report : Decoding.Report, report.fallback = false ∧
      ((∃ direct : Rendering, (render none ds).value = .rendered direct ∧
          (process limit detect u).value = .rendered { direct with decoding := some report }) ∨
        ∃ d : DuplicateName, (render none ds).value = .rejected (.duplicateName d) ∧
          (process limit detect u).value = .rejected (.duplicateName d)) := by
  have textual := Layout.textual_toJson proper layout
  obtain ⟨c, t, printed, noNull, ascii⟩ := Layout.print_toJson_opens proper r layout
  have scalar := Json.isScalar_print r textual
  rw [printed] at scalar
  obtain ⟨report, strict, decoded⟩ := Decoding.decode_encode noNull ascii form scalar
  have taken : u.IsTaken limit := ⟨(isSupported_iff u).mp supported, readable, within⟩
  have found : u.text detect = Json.print r (layout.toJson ds) ∧ u.report detect = report := by
    rw [text, Upload.report, detected, written, printed, decoded]
    exact ⟨rfl, rfl⟩
  have uploaded : (process limit detect u).value = (render (some report) ds).value := by
    rw [process_taken taken, renderContent_value, found.1, found.2,
      renderText_value (Json.read_print r textual) (Layout.ofUpload_toJson proper layout)]
  refine ⟨report, strict, ?_⟩
  rcases render_of_isProper proper with ⟨entries, rendered⟩ | ⟨d, conflict⟩
  · refine Or.inl ⟨.ofEntries none entries, rendered none, ?_⟩
    rw [uploaded, rendered]
    rfl
  · exact Or.inr ⟨d, conflict none, uploaded.trans (conflict (some report))⟩

/-- Escaped and in UTF-16, with a character beyond U+FFFF and a display name given twice. -/
theorem process_agrees_with_render_wide :
    let first : Declaration := ⟨"max_len", "u64", "\"\\\t\x7f\"", " Lint: 🙂 LEN. \u2028é", none⟩
    let second : Declaration := ⟨"max-len", "", "", "", some "é"⟩
    let content := (FileForm.utf16 .big).encode
      (Json.print .ascii (Layout.wrapped.toJson [first, second]))
    let direct := (render none [first, second]).value
    let uploaded := (process 1048576 (fun raw => some (Encoding.guess raw))
      ⟨some "A.JSON", content⟩).value
    (∀ d ∈ [first, second], d.IsProper) ∧ 1048576 + 1 < readBound ∧
      (content.length : Int) ≤ 1048576 ∧
      ∃ report : Decoding.Report, report.fallback = false ∧
        ((∃ r : Rendering, direct = .rendered r ∧
            uploaded = .rendered { r with decoding := some report }) ∨
          ∃ d : DuplicateName, direct = .rejected (.duplicateName d) ∧
            uploaded = .rejected (.duplicateName d)) := by
  intro first second content direct uploaded
  have proper : ∀ d ∈ [first, second], d.IsProper := by
    intro d among
    rcases List.mem_pair.mp among with rfl | rfl
    · exact ⟨by decide, by decide, by decide, by decide, by decide, by rintro _ ⟨⟩⟩
    · exact ⟨by decide, by decide, by decide, by decide, by decide, by rintro _ ⟨⟩; decide⟩
  have written : content = (FileForm.utf16 .big).encode
      (Json.print .ascii (Layout.wrapped.toJson [first, second])) := rfl
  have within : (content.length : Int) ≤ 1048576 := by decide +kernel
  have readable : 1048576 + 1 < readBound := by decide
  exact ⟨proper, readable, within,
    process_agrees_with_render proper (by decide) readable written within rfl⟩

end Upload

end LintBook
