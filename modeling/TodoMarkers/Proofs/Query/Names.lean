import TodoMarkers.Proofs.Text.Lowercase
import TodoMarkers.Proofs.Text.Occurrence
import TodoMarkers.Query

/-! Criteria on names. A name with the wanted part is admitted in whatever case the part is written,
unless a sigma of the part changes with the rest of the name. -/

namespace TodoMarkers

/-- A record with two names of which nothing else is known. -/
def MarkerRecord.ofNames (assignee author : Option String) : MarkerRecord where
  priority := none
  kind := none
  context := none
  assignee := assignee
  author := author
  text := ""
  rawText := ""
  sourcePath := ""
  lineNumber := 0

namespace MarkerFilter

/-- The names with a part that differs from the wanted one in case only all hold it in lower case
exactly if no sigma of the part is left open. -/
theorem forall_name_iff {wanted : String} {part : List Char}
    (same : Text.lowercase part = Text.lowercase wanted.toList) :
    (∀ name : String, part <:+: name.toList →
        Text.lowercase wanted.toList <:+: Text.lowercase name.toList) ↔
      ¬ Text.HasOpenSigma part := by
  -- Every text is the text of some name.
  rw [← Text.lowercase_isInfix_iff, ← same]
  refine ⟨fun always text occurs => ?_, fun always name occurs => always name.toList occurs⟩
  have held := always (String.ofList text) (by rwa [String.toList_ofList])
  rwa [String.toList_ofList] at held

/-- With a criterion on the assignee alone a record is admitted by its assignee. -/
theorem admits_withAssignee {criterion wanted : String}
    (given : Text.nonBlank? criterion = some wanted) (record : MarkerRecord) :
    (everything.withAssignee (some criterion)).admits record = true ↔
      ∃ name, record.assignee = some name ∧
        Text.lowercase wanted.toList <:+: Text.lowercase name.toList := by
  -- The other criteria are absent, and the given one is trimmed.
  simp [admits_eq_true_iff, withAssignee, everything, given]

/-- With a criterion on the author alone a record is admitted by its author. -/
theorem admits_withAuthor {criterion wanted : String}
    (given : Text.nonBlank? criterion = some wanted) (record : MarkerRecord) :
    (everything.withAuthor (some criterion)).admits record = true ↔
      ∃ name, record.author = some name ∧
        Text.lowercase wanted.toList <:+: Text.lowercase name.toList := by
  -- The other criteria are absent, and the given one is trimmed.
  simp [admits_eq_true_iff, withAuthor, everything, given]

/-- Every record whose name holds a part is admitted, if the part is the trimmed criterion in any
case, exactly as long as no capital sigma of the part is left open.

The part may be the trimmed criterion itself. An open sigma is one that is final only because the
part ends, or plain only because the part starts there. -/
theorem admits_part_iff {criterion wanted : String} {part : List Char}
    (given : Text.nonBlank? criterion = some wanted)
    (same : Text.lowercase part = Text.lowercase wanted.toList) :
    ((∀ record name, record.assignee = some name → part <:+: name.toList →
        (everything.withAssignee (some criterion)).admits record = true) ↔
      ¬ Text.HasOpenSigma part) ∧
    ((∀ record name, record.author = some name → part <:+: name.toList →
        (everything.withAuthor (some criterion)).admits record = true) ↔
      ¬ Text.HasOpenSigma part) := by
  -- Both parts are the one statement about names, read for each of the two fields.
  rw [← forall_name_iff same]
  -- Every name is that of some record, so records can stand for their names.
  simp only [admits_withAssignee given, admits_withAuthor given]
  refine ⟨⟨fun always name occurs => ?_, fun always record name assigned occurs => ?_⟩,
    fun always name occurs => ?_, fun always record name written occurs => ?_⟩
  · obtain ⟨other, assigned, held⟩ := always (.ofNames (some name) none) name rfl occurs
    exact Option.some.inj assigned ▸ held
  · exact ⟨name, assigned, always name occurs⟩
  · obtain ⟨other, written, held⟩ := always (.ofNames none (some name)) name rfl occurs
    exact Option.some.inj written ▸ held
  · exact ⟨name, written, always name occurs⟩

/-- A sigma between a letter and a digit is final in every name. -/
theorem admits_part_iff_final_before_digit :
    Text.nonBlank? " σας1\t" = some "σας1" ∧
      Text.lowercase "ΣΑΣ1".toList = Text.lowercase "σας1".toList ∧
      ¬ Text.HasOpenSigma "ΣΑΣ1".toList ∧
      (everything.withAssignee (some " σας1\t")).admits (.ofNames (some "σΣΑΣ1Σ") none) = true := by
  -- The hypotheses are closed, and the law admits every name with the part.
  have given : Text.nonBlank? " σας1\t" = some "σας1" := by decide +kernel
  have same : Text.lowercase "ΣΑΣ1".toList = Text.lowercase "σας1".toList := by decide +kernel
  have settled : ¬ Text.HasOpenSigma "ΣΑΣ1".toList := by decide +kernel
  exact ⟨given, same, settled,
    (admits_part_iff given same).1.2 settled _ "σΣΑΣ1Σ" rfl ⟨['σ'], ['Σ'], by decide⟩⟩

/-- A criterion in capitals that ends in a sigma does not admit a name that goes on after it. -/
theorem not_admits_part_before_letter :
    "ΝΙΚΟΣ".toList <+: "ΝΙΚΟΣΤΡΑΤΟΣ".toList ∧
      (everything.withAssignee (some "ΝΙΚΟΣ")).admits (.ofNames (some "ΝΙΚΟΣΤΡΑΤΟΣ") none) =
        false ∧
      (everything.withAuthor (some "ΝΙΚΟΣ")).admits (.ofNames none (some "ΝΙΚΟΣΤΡΑΤΟΣ")) =
        false := by
  -- Both lowered texts are computed, and their sigmas differ.
  decide +kernel

end MarkerFilter

end TodoMarkers
