import Mathlib.Data.List.Nodup
import QueryLint.Proofs.Json.RoundTrip
import QueryLint.Proofs.Limits
import QueryLint.ScanReport

/-! Findings and reports as JSON text. The text holds printable ASCII and line ends only, and it
stands for one finding or report, however it is indented: reading it gives back every field, in
its order. There is no text for what cannot be gone through, nor with an indentation that is no
machine word. -/
namespace QueryLint

/-- A line end or a printable ASCII character. -/
def isLegible (c : Char) : Bool := c == '\n' || 0x20 ≤ c.toNat && c.toNat ≤ 0x7E

namespace Json

open Value

/-- Nothing but line ends and printable ASCII. -/
def Legible (text : List Char) : Prop := ∀ c ∈ text, isLegible c

instance (text : List Char) : Decidable (Legible text) :=
  decidable_of_iff (text.all isLegible) List.all_eq_true

variable {indent : Option Nat} {level : Nat} {value : Value} {c : Char} {text rest : List Char}

theorem legible_cons : Legible (c :: text) ↔ isLegible c ∧ Legible text := List.forall_mem_cons

theorem legible_append : Legible (text ++ rest) ↔ Legible text ∧ Legible rest :=
  List.forall_mem_append

theorem isLegible_of_visible (low : 0x20 ≤ c.toNat) (high : c.toNat ≤ 0x7E) : isLegible c := by
  simp [isLegible, low, high]

theorem isLegible_of_isDigit (digit : c.isDigit) : isLegible c := by
  simp only [Char.isDigit, Bool.and_eq_true, decide_eq_true_eq] at digit
  have low : 48 ≤ c.toNat := UInt32.le_iff_toNat_le.mp digit.1
  have high : c.toNat ≤ 57 := UInt32.le_iff_toNat_le.mp digit.2
  exact isLegible_of_visible (by omega) (by omega)

theorem legible_hex (width n : Nat) : Legible (Text.hex width n) := by
  have digits : ∀ n < 16, isLegible (Nat.digitChar n) := by decide
  induction width generalizing n with
  | zero => exact List.forall_mem_nil _
  | succ width ih =>
    rw [Text.hex, legible_append]
    exact ⟨ih (n / 16), List.forall_mem_singleton.mpr (digits (n % 16) (Nat.mod_lt n (by omega)))⟩

theorem legible_escapeUnit (n : Nat) : Legible (escapeUnit n) :=
  legible_cons.mpr ⟨by decide, legible_cons.mpr ⟨by decide, legible_hex 4 n⟩⟩

theorem legible_escapeChar (c : Char) : Legible (escapeChar c) := by
  simp only [escapeChar]
  split_ifs with marked line back tab backspace feed visible small
  · simp only [Bool.or_eq_true, beq_iff_eq] at marked
    rcases marked with rfl | rfl <;> decide
  · decide
  · decide
  · decide
  · decide
  · decide
  · simp only [Bool.and_eq_true, decide_eq_true_eq] at visible
    exact List.forall_mem_singleton.mpr (isLegible_of_visible visible.1 visible.2)
  · exact legible_escapeUnit _
  · exact legible_append.mpr ⟨legible_escapeUnit _, legible_escapeUnit _⟩

theorem legible_string (text : List Char) : Legible (string text) := by
  rw [string, List.cons_append, legible_cons, legible_append]
  refine ⟨by decide, ?_, List.forall_mem_singleton.mpr (by decide)⟩
  intro c inside
  obtain ⟨d, _, inside⟩ := List.mem_flatMap.mp inside
  exact legible_escapeChar d c inside

theorem legible_intChars (n : Int) : Legible (intChars n) := by
  rw [intChars, legible_append]
  constructor
  · split
    · exact List.forall_mem_singleton.mpr (by decide)
    · exact List.forall_mem_nil _
  · intro c inside
    exact isLegible_of_isDigit (Nat.isDigit_of_mem_toDigits (by omega) (by omega) inside)

theorem legible_newline : Legible (newline indent level) := by
  intro c inside
  cases indent with
  | none => contradiction
  | some width =>
    rcases List.mem_cons.mp inside with rfl | inside
    · rfl
    · rw [List.eq_of_mem_replicate inside]
      rfl

theorem legible_gap : Legible (gap indent level) := by
  cases indent with
  | none => exact List.forall_mem_singleton.mpr (by decide)
  | some width => exact @legible_newline (some width) level

theorem legible_writeItems {items : List Value}
    (each : ∀ item ∈ items, Legible (write indent (level + 1) item)) :
    Legible (writeItems indent level items) := by
  induction items with
  | nil =>
    rw [writeItems, legible_append]
    exact ⟨legible_newline, List.forall_mem_singleton.mpr (by decide)⟩
  | cons item items ih =>
    obtain ⟨first, others⟩ := List.forall_mem_cons.mp each
    rw [writeItems_cons, legible_cons, legible_append, legible_append]
    exact ⟨by decide, legible_gap, first, ih others⟩

theorem legible_fieldText {name : String} (here : Legible (write indent level value))
    (behind : Legible rest) : Legible (fieldText indent level name value rest) := by
  rw [fieldText, legible_append, legible_cons, legible_cons, legible_append]
  exact ⟨legible_string _, by decide, by decide, here, behind⟩

theorem legible_writeFields {fields : Fields}
    (texts : ∀ field ∈ fields, ∃ name, field.1 = .text name)
    (each : ∀ field ∈ fields, Legible (write indent (level + 1) field.2)) :
    Legible (writeFields indent level fields) := by
  induction fields with
  | nil =>
    rw [writeFields, legible_append]
    exact ⟨legible_newline, List.forall_mem_singleton.mpr (by decide)⟩
  | cons field fields ih =>
    obtain ⟨key, value⟩ := field
    obtain ⟨⟨name, rfl⟩, keys⟩ := List.forall_mem_cons.mp texts
    obtain ⟨first, others⟩ := List.forall_mem_cons.mp each
    rw [writeFields_cons, legible_cons, legible_append]
    exact ⟨by decide, legible_gap, legible_fieldText first (ih keys others)⟩

theorem legible_write (lossless : value.Lossless) : Legible (write indent level value) := by
  induction lossless generalizing level with
  | null =>
    rw [write]
    decide
  | bool b =>
    cases b <;>
    · rw [write]
      decide
  | int n =>
    rw [write]
    exact legible_intChars n
  | text s =>
    rw [write]
    exact legible_string s.toList
  | @list items _ ih =>
    cases items with
    | nil =>
      rw [write]
      decide
    | cons item items =>
      obtain ⟨first, others⟩ := List.forall_mem_cons.mp ih
      rw [write_list, legible_cons, legible_append, legible_append]
      exact ⟨by decide, legible_newline, first,
        legible_writeItems fun item inside => others item inside⟩
  | @object fields _ texts _ ih =>
    cases fields with
    | nil =>
      rw [write]
      decide
    | cons field fields =>
      obtain ⟨label, value⟩ := field
      obtain ⟨⟨name, rfl⟩, keys⟩ := List.forall_mem_cons.mp texts
      obtain ⟨first, others⟩ := List.forall_mem_cons.mp ih
      have behind := legible_writeFields keys fun field inside => @others field inside (level + 1)
      rw [write_object, legible_cons, legible_append]
      exact ⟨by decide, legible_newline, legible_fieldText first behind⟩

end Json

section Lossless

open Value

/-- An object with the given names for keys. -/
theorem lossless_object {fields : List (String × Value)} (distinct : (fields.map Prod.fst).Nodup)
    (each : ∀ field ∈ fields, field.2.Lossless) :
    (Value.object (fields.map fun field => (Key.text field.1, field.2))).Lossless := by
  refine .object ?_ ?_ ?_
  · rw [List.map_map]
    have keys : Prod.fst ∘ (fun field : String × Value => (Key.text field.1, field.2)) =
        Key.text ∘ Prod.fst := rfl
    rw [keys, ← List.map_map]
    exact List.Nodup.map (fun _ _ same => Key.text.inj same) distinct
  · intro field inside
    obtain ⟨known, _, rfl⟩ := List.mem_map.mp inside
    exact ⟨known.1, rfl⟩
  · intro field inside
    obtain ⟨known, member, rfl⟩ := List.mem_map.mp inside
    exact each known member

theorem lossless_texts (items : List String) : (Value.texts items).Lossless := by
  refine .list fun item inside => ?_
  obtain ⟨s, _, rfl⟩ := List.mem_map.mp inside
  exact .text s

theorem lossless_optional (item : Option String) : (Value.optional item).Lossless := by
  cases item with
  | none => exact .null
  | some s => exact .text s

theorem Location.lossless (location : Location) : location.toValue.Lossless := by
  refine @lossless_object [("file_path", _), ("start_line", _), ("end_line", _)] (by simp) ?_
  simp only [List.forall_mem_cons]
  exact ⟨.text _, .int _, .int _, List.forall_mem_nil _⟩

theorem Snippet.lossless (snippet : Snippet) : snippet.toValue.Lossless := by
  refine @lossless_object [("code", _), ("highlighted_line", _), ("context_before", _),
    ("context_after", _)] (by simp) ?_
  simp only [List.forall_mem_cons]
  exact ⟨.text _, .int _, lossless_texts _, lossless_texts _, List.forall_mem_nil _⟩

theorem Remediation.lossless (remediation : Remediation) : remediation.toValue.Lossless := by
  refine @lossless_object [("description", _), ("before_code", _), ("after_code", _),
    ("references", _), ("cwe_id", _)] (by simp) ?_
  simp only [List.forall_mem_cons]
  exact ⟨.text _, lossless_optional _, lossless_optional _, lossless_texts _, lossless_optional _,
    List.forall_mem_nil _⟩

namespace Finding

theorem lossless_mainFields (finding : Finding) (data : finding.metadata.Lossless) :
    ∀ field ∈ finding.mainFields, field.2.Lossless := by
  simp only [mainFields, List.forall_mem_cons]
  exact ⟨.text _, .text _, .text _, .text _, .text _, .text _, finding.location.lossless,
    lossless_texts _, lossless_texts _, data, .bool _, List.forall_mem_nil _⟩

theorem lossless_optionalFields (finding : Finding) :
    ∀ field ∈ finding.optionalFields, field.2.Lossless := by
  intro field inside
  simp only [optionalFields, Fields.optional, List.mem_append, Option.mem_toList,
    Option.map_eq_some_iff] at inside
  rcases inside with (⟨_, ⟨snippet, _, rfl⟩, rfl⟩ | ⟨_, ⟨remediation, _, rfl⟩, rfl⟩) |
    ⟨_, ⟨reason, _, rfl⟩, rfl⟩
  · exact snippet.lossless
  · exact remediation.lossless
  · exact .text reason

/-- The keys that a finding may have. -/
def keys : List Key := [
  "rule_id", "description", "explanation", "severity", "confidence", "category", "location",
  "variables", "tags", "metadata", "suppressed"] ++ (["snippet"] ++ ["remediation"] ++
  ["suppression_reason"])

theorem keys_sublist (finding : Finding) :
    ((finding.mainFields ++ finding.optionalFields).map Prod.fst).Sublist keys := by
  have optional : ∀ name value, ((Fields.optional name value).map Prod.fst).Sublist [.text name] := by
    intro name value
    cases value with
    | none => exact List.nil_sublist _
    | some value => exact List.Sublist.refl _
  rw [List.map_append, optionalFields, List.map_append, List.map_append]
  exact (List.Sublist.refl _).append (((optional _ _).append (optional _ _)).append (optional _ _))

theorem lossless (finding : Finding) (data : finding.metadata.Lossless) :
    finding.toValue.Lossless := by
  have distinct : keys.Nodup := by simp [keys]
  refine .object (finding.keys_sublist.nodup distinct) ?_ ?_
  · intro field inside
    have known : field.1 ∈ keys := finding.keys_sublist.subset (List.mem_map_of_mem inside)
    have texts : ∀ key ∈ keys, ∃ name, key = .text name := by simp [keys]
    exact texts field.1 known
  · rw [List.forall_mem_append]
    exact ⟨finding.lossless_mainFields data, finding.lossless_optionalFields⟩

end Finding

namespace ScanReport

/-- The numbers of the report and the metadata of its findings are such as JSON holds. -/
structure Writable (report : ScanReport) : Prop where
  scanned : report.documentsScanned.Lossless
  seconds : report.scanSeconds.Lossless
  findings : ∀ finding ∈ report.findings, finding.metadata.Lossless

theorem lossless_summary {report : ScanReport} (writable : report.Writable) :
    report.summary.Lossless := by
  refine @lossless_object [("documents_scanned", _), ("scan_time_seconds", _),
    ("rules_applied", _), ("total_findings", _), ("critical_findings", _), ("high_findings", _),
    ("suppressed_findings", _)] (by simp) ?_
  simp only [List.forall_mem_cons]
  exact ⟨writable.scanned, writable.seconds, lossless_texts _, .int _, .int _, .int _, .int _,
    List.forall_mem_nil _⟩

theorem lossless {report : ScanReport} (writable : report.Writable) : report.toValue.Lossless := by
  have findings : (Value.list (report.findings.map Finding.toValue)).Lossless := by
    refine .list fun value inside => ?_
    obtain ⟨finding, member, rfl⟩ := List.mem_map.mp inside
    exact finding.lossless (writable.findings finding member)
  refine @lossless_object [("summary", _), ("findings", _), ("errors", _)] (by simp) ?_
  simp only [List.forall_mem_cons]
  exact ⟨lossless_summary writable, findings, lossless_texts _, List.forall_mem_nil _⟩

end ScanReport

end Lossless

namespace Json

/-- An indentation that is counted in a machine word. -/
def Countable (indent : Option Int) : Prop :=
  ∀ width ∈ indent, -0x8000000000000000 ≤ width ∧ width < 0x8000000000000000

variable {indent : Option Int}

theorem indentHindrance?_eq_none_iff : indent.bind indentHindrance? = none ↔ Countable indent := by
  cases indent with
  | none => simp [Countable]
  | some width => simp [Countable, indentHindrance?]

theorem indentHindrance?_eq_some {fault : Fault}
    (found : indent.bind indentHindrance? = some fault) :
    fault = .indentTooLarge ∧ ¬ Countable indent := by
  refine ⟨?_, fun countable => ?_⟩
  · obtain ⟨width, _, hindered⟩ := Option.bind_eq_some_iff.mp found
    rw [indentHindrance?] at hindered
    split at hindered
    · contradiction
    · exact (Option.some.inj hindered).symm
  · rw [indentHindrance?_eq_none_iff.mpr countable] at found
    contradiction

variable [Nesting] {value : Value}

theorem encode_eq_ok_iff {text : String} : encode indent value = .ok text ↔
    Countable indent ∧ value.Fits ∧ render indent value = text := by
  rw [encode, ← indentHindrance?_eq_none_iff, ← @Value.hindrance?_eq_none_iff .encoding]
  cases indent.bind indentHindrance? with
  | some fault => simp
  | none => cases value.hindrance? .encoding <;> simp

theorem encode_eq_error {fault : Fault} (failed : encode indent value = .error fault) :
    fault = .indentTooLarge ∧ ¬ Countable indent ∨ value.Hinders .encoding fault := by
  rw [encode] at failed
  cases wide : indent.bind indentHindrance? with
  | some other =>
    rw [wide] at failed
    obtain rfl := Except.error.inj failed
    exact .inl (indentHindrance?_eq_some wide)
  | none =>
    rw [wide, Option.none_or] at failed
    cases hindered : value.hindrance? .encoding with
    | none => simp [hindered] at failed
    | some other =>
      simp only [hindered, Except.error.injEq] at failed
      exact .inr (failed ▸ Value.hinders_of_hindrance? hindered)

end Json

/-- What is written as JSON: findings, and reports on them. -/
inductive Output where
  | finding (finding : Finding)
  | report (report : ScanReport)

namespace Output

def toValue : Output → Value
  | finding found => found.toValue
  | report made => made.toValue

def toJson [Nesting] (output : Output) (indent : Option Int) : Except Fault String :=
  match output with
  | finding found => found.toJson indent
  | report made => made.toJson indent

/-- All of it is such as JSON holds. -/
def Writable : Output → Prop
  | finding found => found.metadata.Lossless
  | report made => made.Writable

variable {output : Output}

theorem toJson_eq [Nesting] (output : Output) (indent : Option Int) :
    output.toJson indent = Json.encode indent output.toValue := by
  cases output <;> rfl

theorem lossless (writable : output.Writable) : output.toValue.Lossless := by
  cases output with
  | finding found => exact found.lossless writable
  | report made => exact ScanReport.lossless writable

/-- A text of a finding or a report gives back all its fields, whatever the indentation. -/
theorem parse?_toJson [Nesting] {indent : Option Int} {text : String} (writable : output.Writable)
    (written : output.toJson indent = .ok text) : Json.parse? text = some output.toValue := by
  rw [toJson_eq] at written
  obtain ⟨_, _, rfl⟩ := Json.encode_eq_ok_iff.mp written
  exact Json.parse?_render (lossless writable) indent

end Output

/-- There is a text of a finding or a report exactly if it can be gone through and its indentation
is a machine word. The text is legible, gives back all fields in their order, and is the text of
nothing else. -/
theorem output_decodes [Nesting] {output : Output} (writable : output.Writable)
    (indent : Option Int) :
    ((∃ text, output.toJson indent = .ok text) ↔ Json.Countable indent ∧ output.toValue.Fits) ∧
    (∀ fault, output.toJson indent = .error fault →
      fault = .indentTooLarge ∧ ¬ Json.Countable indent ∨ output.toValue.Hinders .encoding fault) ∧
    ∀ text, output.toJson indent = .ok text →
      Json.Legible text.toList ∧
      Json.parse? text = some output.toValue ∧
      (∀ [Nesting] other again, output.toJson other = .ok again →
        Json.parse? again = Json.parse? text) ∧
      ∀ [Nesting] (another : Output) other, another.Writable → another.toJson other = .ok text →
        another.toValue = output.toValue := by
  refine ⟨?_, fun fault failed => ?_, fun text written => ?_⟩
  · simp only [output.toJson_eq, Json.encode_eq_ok_iff]
    exact ⟨fun ⟨_, countable, fits, _⟩ => ⟨countable, fits⟩,
      fun ⟨countable, fits⟩ => ⟨_, countable, fits, rfl⟩⟩
  · rw [output.toJson_eq] at failed
    exact Json.encode_eq_error failed
  · have read := Output.parse?_toJson writable written
    refine ⟨?_, read, fun other again written' => ?_, fun another other writable' written' => ?_⟩
    · rw [output.toJson_eq] at written
      obtain ⟨_, _, rfl⟩ := Json.encode_eq_ok_iff.mp written
      rw [Json.render, String.toList_ofList]
      exact Json.legible_write (Output.lossless writable)
    · exact (Output.parse?_toJson writable written').trans read.symm
    · exact Option.some.inj ((Output.parse?_toJson writable' written').symm.trans read)

def oddFinding : Finding where
  ruleId := "Odd"
  description := ""
  explanation := "\"\\ \n \x07 \x7f é 😀"
  severity := .high
  confidence := .low
  category := .injection
  location := { path := "a.pl", startLine := -1, endLine := 0 }
  snippet := some { code := "$a", line := -1 }
  metadata := .object [("", .list [.null, .object [], .int (-10)]), ("a", .bool true)]
  suppressionReason := some ""

theorem oddFinding_lossless : oddFinding.metadata.Lossless := by
  have inner : (Value.list [.null, .object [], .int (-10)]).Lossless := by
    refine .list ?_
    simp only [List.forall_mem_cons]
    exact ⟨.null, @lossless_object [] List.nodup_nil (List.forall_mem_nil _), .int _,
      List.forall_mem_nil _⟩
  refine @lossless_object [("", _), ("a", _)] (by simp) ?_
  simp only [List.forall_mem_cons]
  exact ⟨inner, .bool true, List.forall_mem_nil _⟩

theorem oddFinding_decodes : oddFinding.metadata.Lossless ∧
    (∃ text, oddFinding.toJson none = .ok text ∧ Json.parse? text = some oddFinding.toValue) ∧
    ∃ text, oddFinding.toJson (some (-2)) = .ok text ∧
      Json.parse? text = some oddFinding.toValue := by
  have fits : oddFinding.toValue.Fits := by decide +kernel
  obtain ⟨writes, _, reads⟩ := @output_decodes _ (.finding oddFinding) oddFinding_lossless none
  obtain ⟨writes', _, reads'⟩ :=
    @output_decodes _ (.finding oddFinding) oddFinding_lossless (some (-2))
  obtain ⟨text, written⟩ := writes.mpr ⟨by simp [Json.Countable], fits⟩
  obtain ⟨text', written'⟩ := writes'.mpr ⟨by simp [Json.Countable], fits⟩
  exact ⟨oddFinding_lossless, ⟨text, written, (reads text written).2.1⟩, text', written',
    (reads' text' written').2.1⟩

def plainFinding : Finding where
  ruleId := "R"
  description := "d"
  explanation := "e"
  severity := .high
  confidence := .medium
  category := .injection
  location := { path := "f.pl", startLine := 1, endLine := 1 }

/-- Not every indentation can be written, however much room there is. -/
theorem wide_indent_refused :
    ¬ ∃ _ : Nesting, ∀ (output : Output) (indent : Option Int), output.Writable →
      ∃ text, output.toJson indent = .ok text := by
  rintro ⟨room, writes⟩
  have writable : plainFinding.metadata.Lossless :=
    @lossless_object [] List.nodup_nil (List.forall_mem_nil _)
  obtain ⟨text, written⟩ := writes (.finding plainFinding)
    (some (-1000000000000000000000000000000)) writable
  rw [Output.toJson_eq] at written
  have countable := (Json.encode_eq_ok_iff.mp written).1
  simp [Json.Countable] at countable

end QueryLint
