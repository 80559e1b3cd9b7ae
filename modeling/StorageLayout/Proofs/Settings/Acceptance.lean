import StorageLayout.Proofs.Config.Form
import StorageLayout.Proofs.Config.Validity
import StorageLayout.Settings.Store

namespace StorageLayout.Settings

def Checked.Passes {α : Type} (checked : Checked α) : Prop := ∃ value, checked = .ok value

section

variable {α β : Type} {checked : Checked α}

theorem passes_both {left : Checked α} {right : Checked β} :
    (Checked.both left right).Passes ↔ left.Passes ∧ right.Passes := by
  cases left <;> cases right <;> simp [Checked.both, Checked.Passes]

theorem passes_map (change : α → β) : Checked.Passes (checked.map change) ↔ checked.Passes := by
  cases checked <;> simp [Checked.Passes, Except.map]

theorem passes_withIssues {issues : List Issue} :
    (Checked.withIssues issues checked).Passes ↔ issues = [] ∧ checked.Passes := by
  cases checked <;> cases issues <;> simp [Checked.withIssues, Checked.Passes]

theorem unknownSettings_eq_nil {entries : Table Value} {names : List String} :
    unknownSettings entries names = [] ↔ ∀ name ∈ entries.keys, name ∈ names := by
  simp [unknownSettings]

theorem isMisnamed_of_dotless {name : String} (dotless : name.toList.head? ≠ some '.')
    (value : Value) : Value.isMisnamed (name, value) = false := by
  rw [Value.isMisnamed, Option.isSome_eq_false_iff, Option.isNone_iff_eq_none]
  unfold Value.brokenName?
  split
  · next broken _ =>
    rw [if_neg]
    rintro rfl
    apply dotless
    rw [Value.brokenLabel, String.toList_append]
    rfl
  · rfl

private theorem any_isMisnamed {entries : Table Value} {names : List String}
    (dotless : ∀ name ∈ names, name.toList.head? ≠ some '.')
    (known : ∀ name ∈ entries.keys, name ∈ names) : entries.any Value.isMisnamed = false := by
  rw [List.any_eq_false]
  intro entry member misnamed
  have listed : entry.1 ∈ names := known entry.1 (List.mem_map_of_mem member)
  rw [isMisnamed_of_dotless (dotless entry.1 listed)] at misnamed
  cases misnamed

theorem passes_withNames {entries : Table Value} {names : List String} (issues : List Issue)
    (dotless : ∀ name ∈ names, name.toList.head? ≠ some '.') :
    (withNames entries (unknownSettings entries names ++ issues) checked).Passes ↔
      (∀ name ∈ entries.keys, name ∈ names) ∧ issues = [] ∧ checked.Passes := by
  unfold withNames
  split
  · next misnamed =>
    constructor
    · rintro ⟨value, impossible⟩
      cases impossible
    · rintro ⟨known, -⟩
      rw [any_isMisnamed dotless known] at misnamed
      cases misnamed
  · rw [passes_withIssues, List.append_eq_nil_iff, unknownSettings_eq_nil, and_assoc]

end

/-- The form of a setting: a value that passes a check. -/
def settingForm {α : Type} (check : Value → Except IssueKind α) : Form :=
  .leaf fun value => ∃ setting, check value = .ok setting

def RefusesMappings {α : Type} (check : Value → Except IssueKind α) : Prop :=
  ∀ value, (∃ setting, check value = .ok setting) → value.isMapping = false

theorem refusesMappings_truth : RefusesMappings checkTruth := by
  rintro value ⟨truth, checked⟩
  cases value <;> first | rfl | cases checked

theorem refusesMappings_count : RefusesMappings checkCount := by
  rintro value ⟨number, checked⟩
  cases value <;> first | rfl | cases checked

theorem refusesMappings_optionalText : RefusesMappings checkOptionalText := by
  rintro value ⟨text, checked⟩
  cases value <;> first | rfl | cases checked

theorem refusesMappings_level : RefusesMappings checkLevel := by
  rintro value ⟨level, checked⟩
  cases value <;> first | rfl | cases checked

section

variable {α : Type} {entries : Table Value} {name : String} {standard : α}

theorem passes_setting {check : Value → Except IssueKind α} (refuses : RefusesMappings check) :
    (setting entries name standard check).Passes ↔
      ∀ child, entries.get? name = some child → (settingForm check).Admits child := by
  have admits (child : Value) : (settingForm check).Admits child ↔
      ∃ setting, check child = .ok setting := Form.admits_leaf refuses
  simp only [admits]
  unfold setting
  cases entries.get? name with
  | none => simp [Checked.Passes]
  | some value => cases checked : check value <;> simp [Checked.Passes, checked]

theorem passes_subsection {check : Table Value → Checked α} {fields : Table Form}
    (passes : ∀ access inner,
      (check inner).Passes ↔ (Form.record fields).Admits (.mapping access inner)) :
    (subsection entries name standard check).Passes ↔
      ∀ child, entries.get? name = some child → (Form.record fields).Admits child := by
  unfold subsection
  cases entries.get? name with
  | none => simp [Checked.Passes]
  | some value =>
    simp only [Option.some.injEq, forall_eq']
    cases value with
    | mapping access inner =>
      rw [← passes access inner]
      cases checked : check inner <;> simp [Checked.Passes, checked]
    | _ => simp [Checked.Passes, Form.admits_record, Value.isMapping, Value.entries?]

end

/-- The form of the section about repeated messages. -/
def suppressionForm : Form := .record
  [("enabled", settingForm checkTruth), ("windowSeconds", settingForm checkCount),
   ("maxPerWindow", settingForm checkCount), ("maxKeys", settingForm checkCount),
   ("summaryLevel", settingForm checkLevel)]

def debugForm : Form := .record
  [("devModeEnabled", settingForm checkTruth), ("suppressRecurringMessages", suppressionForm)]

def loggingForm : Form := .record [("file", settingForm checkOptionalText)]

def userForm : Form := .record [("strictMode", settingForm checkTruth)]

def form : Form := .record [("debug", debugForm), ("logging", loggingForm), ("user", userForm)]

section

variable {α : Type} {checked : Checked α} {entries : Table Value} {fields : Table Form}
  {names : List String}

/-- A section passes if its names are known and each of its settings passes where it is. -/
theorem passes_section (issues : List Issue) (named : fields.keys = names)
    (dotless : ∀ name ∈ names, name.toList.head? ≠ some '.') (distinct : names.Nodup)
    (passes : checked.Passes ↔ ∀ field ∈ fields, ∀ child, entries.get? field.1 = some child →
      Form.Admits field.2 child) (access : Access) :
    (withNames entries (unknownSettings entries names ++ issues) checked).Passes ↔
      issues = [] ∧ (Form.record fields).Admits (.mapping access entries) := by
  subst named
  rw [passes_withNames issues dotless, Form.admits_record_iff distinct, passes]
  exact and_left_comm

theorem passes_section_nil (named : fields.keys = names)
    (dotless : ∀ name ∈ names, name.toList.head? ≠ some '.') (distinct : names.Nodup)
    (passes : checked.Passes ↔ ∀ field ∈ fields, ∀ child, entries.get? field.1 = some child →
      Form.Admits field.2 child) (access : Access) :
    (withNames entries (unknownSettings entries names) checked).Passes ↔
      (Form.record fields).Admits (.mapping access entries) := by
  have passesWith := passes_section [] named dotless distinct passes access
  rwa [List.append_nil, eq_self, true_and] at passesWith

end

theorem passes_checkSuppression (access : Access) (entries : Table Value) :
    (checkSuppression entries).Passes ↔ suppressionForm.Admits (.mapping access entries) := by
  apply passes_section_nil
  · rfl
  · decide
  · decide
  · simp only [passes_map, passes_both, passes_setting refusesMappings_truth,
      passes_setting refusesMappings_count, passes_setting refusesMappings_level,
      List.forall_mem_cons, List.not_mem_nil, false_implies, implies_true, and_true]

theorem passes_checkDebug (access : Access) (entries : Table Value) :
    (checkDebug entries).Passes ↔ debugForm.Admits (.mapping access entries) := by
  apply passes_section_nil
  · rfl
  · decide
  · decide
  · simp only [passes_both, passes_setting refusesMappings_truth,
      passes_subsection passes_checkSuppression, suppressionForm, List.forall_mem_cons,
      List.not_mem_nil, false_implies, implies_true, and_true]

theorem passes_checkLogging (access : Access) (entries : Table Value) :
    (checkLogging entries).Passes ↔ loggingForm.Admits (.mapping access entries) := by
  apply passes_section_nil
  · rfl
  · decide
  · decide
  · simp only [passes_setting refusesMappings_optionalText, List.forall_mem_cons,
      List.not_mem_nil, false_implies, implies_true, and_true]

theorem passes_checkUser (access : Access) (entries : Table Value) :
    (checkUser entries).Passes ↔ userForm.Admits (.mapping access entries) := by
  apply passes_section_nil
  · rfl
  · decide
  · decide
  · simp only [passes_setting refusesMappings_truth, List.forall_mem_cons, List.not_mem_nil,
      false_implies, implies_true, and_true]

/-- A document passes the check of settings exactly if all its keys are names and everything in it
is where it may stand. -/
theorem passes_check (document : Document) :
    (check document).Passes ↔ document.otherKeys = [] ∧ form.Admits document.root := by
  have issues : unusableKeys document = [] ↔ document.otherKeys = [] := by
    simp [unusableKeys]
  rw [← issues]
  apply passes_section (unusableKeys document)
  · rfl
  · decide
  · decide
  · simp only [passes_map, passes_both, passes_subsection passes_checkDebug,
      passes_subsection passes_checkLogging, passes_subsection passes_checkUser, debugForm,
      loggingForm, userForm, List.forall_mem_cons, List.not_mem_nil, false_implies, implies_true,
      and_true]

theorem isShallow_setting {α : Type} {check : Value → Except IssueKind α}
    (refuses : RefusesMappings check) : (settingForm check).IsShallow :=
  Form.isShallow_leaf refuses

theorem isShallow_form : form.IsShallow := by
  have truth := isShallow_setting refusesMappings_truth
  have count := isShallow_setting refusesMappings_count
  have optionalText := isShallow_setting refusesMappings_optionalText
  have level := isShallow_setting refusesMappings_level
  have suppression : suppressionForm.IsShallow := by
    apply Form.isShallow_record
    simp [truth, count, level]
  have debug : debugForm.IsShallow := by
    apply Form.isShallow_record
    simp [truth, suppression]
  have logging : loggingForm.IsShallow := by
    apply Form.isShallow_record
    simp [optionalText]
  have user : userForm.IsShallow := by
    apply Form.isShallow_record
    simp [truth]
  apply Form.isShallow_record
  simp [debug, logging, user]

/-- The check that the store of settings makes of its effective document. -/
def acceptance (document : Document) : Except Failure Unit := (accept document).map fun _ => ()

theorem acceptance_eq_ok {document : Document} :
    acceptance document = .ok () ↔ (check document).Passes := by
  unfold acceptance accept
  cases check document <;> simp [Checked.Passes, Except.map]

theorem isTolerant_acceptance : IsTolerant acceptance := by
  intro below part whole bare covered within
  rw [acceptance_eq_ok, passes_check, Document.otherKeys_merge_ofTable, Document.root_merge,
    Document.root_ofTable] at *
  exact ⟨bare.1, bare.2.merge_part isShallow_form covered.2 within⟩

end StorageLayout.Settings
