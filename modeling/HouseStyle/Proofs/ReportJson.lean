import HouseStyle.Proofs.DisplayedPath
import HouseStyle.Proofs.Finding
import HouseStyle.Proofs.JsonRoundTrip
import HouseStyle.Report.Format

namespace HouseStyle

/-! ## Reading what was written -/

namespace Json

@[simp] theorem text_ofString (text : String) : (ofString text).text = some text := rfl

def Survives {α : Type} (write : α → Option Json) (read : Json → Option α) (value : α) : Prop :=
  ∀ item, write value = some item → item.Readable ∧ read item = some value

theorem survives_array {α : Type} {write : α → Option Json} {read : Json → Option α}
    {values : List α} (survives : ∀ value ∈ values, Survives write read value) {items : List Json}
    (written : values.mapM write = some items) :
    (∀ item ∈ items, item.Readable) ∧ (Json.array items).list? read = some values := by
  induction values generalizing items with
  | nil =>
      obtain rfl := Option.some.inj written
      exact ⟨by simp, rfl⟩
  | cons first rest ih =>
      simp only [List.mapM_cons, bind, Option.bind_eq_some_iff] at written
      obtain ⟨item, isItem, others, areOthers, same⟩ := written
      obtain rfl := Option.some.inj same
      obtain ⟨readable, reads⟩ := survives first List.mem_cons_self item isItem
      obtain ⟨readable', reads'⟩ :=
        ih (fun value member => survives value (List.mem_cons_of_mem _ member)) areOthers
      rw [list?] at reads'
      exact ⟨List.forall_mem_cons.mpr ⟨readable, readable'⟩, by simp [list?, reads, reads']⟩

end Json

open Json

theorem Path.survives (path : Path) : Survives toJson? ofJson? path := by
  intro item written
  obtain ⟨text, isText, rfl⟩ := Option.map_eq_some_iff.mp written
  refine ⟨.string text, ?_⟩
  rw [ofJson?, text_ofString, Option.map_some, ← eq_ofText_of_text? isText]

theorem Location.survives {location : Location} (small : location.line < 0x10000000000000000) :
    Survives toJson? ofJson? location := by
  intro item written
  obtain ⟨file, isFile, rfl⟩ := Option.map_eq_some_iff.mp written
  obtain ⟨readable, reads⟩ := Path.survives _ file isFile
  refine ⟨.object (by simp) ?_, ?_⟩
  · simp only [List.mem_cons, List.not_mem_nil, or_false]
    rintro member (rfl | rfl)
    · exact readable
    · exact .natural _
  · have fields : (Json.object [(some "file", file), (some "line", .natural location.line)]).fields?
        ["file", "line"] = some [file, .natural location.line] := rfl
    have line : line? (.natural location.line) = some location.line := if_pos small
    simp [ofJson?, fields, reads, line]

theorem Finding.survives {finding : Finding}
    (small : finding.location.line < 0x10000000000000000) : Survives toJson? ofJson? finding := by
  intro item written
  obtain ⟨location, isLocation, rfl⟩ := Option.map_eq_some_iff.mp written
  obtain ⟨readable, reads⟩ := Location.survives small location isLocation
  refine ⟨.object (by simp) ?_, ?_⟩
  · simp only [List.mem_cons, List.not_mem_nil, or_false]
    rintro member (rfl | rfl | rfl)
    · exact .string _
    · exact readable
    · exact .string _
  · have fields : (Json.object [(some "rule", .ofString finding.kind.label),
        (some "location", location), (some "message", .ofString finding.message)]).fields?
        ["rule", "location", "message"] =
          some [.ofString finding.kind.label, location, .ofString finding.message] := rfl
    have kind : Kind.ofJson? (.ofString finding.kind.label) = some finding.kind :=
      Kind.ofLabel?_label finding.kind
    simp [ofJson?, fields, kind, reads]

namespace Report

theorem survives {report : Report}
    (small : ∀ finding ∈ report.findings, finding.location.line < 0x10000000000000000) :
    Survives toJson? ofJson? report := by
  intro item written
  simp only [toJson?, bind, Option.bind_eq_some_iff] at written
  obtain ⟨findings, areFindings, files, areFiles, same⟩ := written
  obtain rfl := Option.some.inj same
  obtain ⟨readable, reads⟩ := survives_array
    (fun finding member => Finding.survives (small finding member)) areFindings
  obtain ⟨readable', reads'⟩ := survives_array (fun file _ => Path.survives file) areFiles
  refine ⟨.object (by simp) ?_, ?_⟩
  · simp only [List.mem_cons, List.not_mem_nil, or_false]
    rintro member (rfl | rfl)
    · exact .array readable
    · exact .array readable'
  · have fields : (Json.object [(some "violations", .array findings),
        (some "checked_files", .array files)]).fields? ["violations", "checked_files"] =
          some [.array findings, .array files] := rfl
    simp [ofJson?, fields, reads, reads']

end Report

/-! ## When something is written -/

theorem isSome_mapM_iff {α β : Type} {write : α → Option β} {values : List α} :
    (values.mapM write).isSome = true ↔ ∀ value ∈ values, (write value).isSome = true := by
  induction values with
  | nil => simp
  | cons first rest ih =>
      rw [List.mapM_cons, List.forall_mem_cons, ← ih]
      cases write first <;> cases rest.mapM write <;> simp

theorem Path.isSome_toJson?_iff {path : Path} : path.toJson?.isSome = true ↔ path.IsText := by
  rw [toJson?, Option.isSome_map, isSome_text?_iff]

theorem Finding.isSome_toJson?_iff {finding : Finding} :
    finding.toJson?.isSome = true ↔ finding.location.file.IsText := by
  rw [toJson?, Option.isSome_map, Location.toJson?, Option.isSome_map, Path.isSome_toJson?_iff]

namespace Report

def paths (report : Report) : List Path :=
  report.findings.map (·.location.file) ++ report.checkedFiles

theorem isSome_toJson?_iff {report : Report} :
    report.toJson?.isSome = true ↔ ∀ path ∈ report.paths, path.IsText := by
  have parts : report.toJson?.isSome = true ↔
      (report.findings.mapM Finding.toJson?).isSome = true ∧
        (report.checkedFiles.mapM Path.toJson?).isSome = true := by
    rw [toJson?]
    cases report.findings.mapM Finding.toJson? <;>
      cases report.checkedFiles.mapM Path.toJson? <;> simp
  simp only [parts, isSome_mapM_iff, Finding.isSome_toJson?_iff, Path.isSome_toJson?_iff, paths,
    List.forall_mem_append, List.forall_mem_map]

theorem exists_render_json {report : Report} (texts : ∀ path ∈ report.paths, path.IsText) :
    ∃ value, report.toJson? = some value ∧
      report.render .json = .ok (String.ofList value.pretty) := by
  obtain ⟨value, written⟩ := Option.isSome_iff_exists.mp (isSome_toJson?_iff.mpr texts)
  exact ⟨value, written, by rw [render, json?, written, Option.map_some]⟩

theorem render_json_of_not_isText {report : Report} (other : ¬ ∀ path ∈ report.paths, path.IsText) :
    report.render .json = .error .pathNotText := by
  rw [← isSome_toJson?_iff, Option.not_isSome_iff_eq_none] at other
  rw [render, json?, other, Option.map_none]

/-- The JSON form of a report loses nothing: it is written, and reading it gives the same findings in
the same order and the same checked files, whatever characters the names and messages hold, as long
as the line numbers fit in 64 bits. With a name that is no text nothing is written. -/
theorem ofJsonText?_render_json (report : Report)
    (small : ∀ finding ∈ report.findings, finding.location.line < 0x10000000000000000) :
    ((∀ path ∈ report.paths, path.IsText) →
      ∃ text, report.render .json = .ok text ∧ ofJsonText? text = some report) ∧
    ((¬ ∀ path ∈ report.paths, path.IsText) → report.render .json = .error .pathNotText) := by
  refine ⟨fun texts => ?_, render_json_of_not_isText⟩
  obtain ⟨value, written, rendered⟩ := exists_render_json texts
  obtain ⟨readable, reads⟩ := survives small value written
  refine ⟨_, rendered, ?_⟩
  rw [ofJsonText?, String.toList_ofList, Json.parse_pretty readable, Option.bind_some, reads]

theorem ofJsonText?_render_json_escapes :
    let report : Report := ⟨[⟨.header, ⟨"a \"b\" \\.c", 0⟩, "tab\tbell\x07 line\nend"⟩,
      ⟨.fileError, ⟨"größe.h", 0xFFFFFFFFFFFFFFFF⟩, ""⟩], ["a \"b\" \\.c", ""]⟩
    (∀ finding ∈ report.findings, finding.location.line < 0x10000000000000000) ∧
      (∀ path ∈ report.paths, path.IsText) ∧
      ∃ text, report.render .json = .ok text ∧ ofJsonText? text = some report := by
  intro report
  have small : ∀ finding ∈ report.findings, finding.location.line < 0x10000000000000000 := by
    decide
  have texts : ∀ path ∈ report.paths, path.IsText := by decide +kernel
  exact ⟨small, texts, (ofJsonText?_render_json report small).1 texts⟩

end Report

end HouseStyle
