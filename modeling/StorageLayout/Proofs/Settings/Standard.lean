import StorageLayout.Proofs.Config.Merge
import StorageLayout.Proofs.Settings.Acceptance

/-! The standard settings are filled in twice: documents are laid over the one that spells them out,
and the check takes them for settings that are missing. Main statement: the first changes nothing
about the second. A document and the same one laid over the standard document stand for the same
settings, or have the same issues. -/

namespace StorageLayout.Settings

/-- Whether two checks agree: both give the same value, or both find issues, and the same ones. -/
inductive Checked.Agrees {α : Type} : Checked α → Checked α → Prop where
  | passed (value : α) : Agrees (.ok value) (.ok value)
  | failed {left right : List Issue} (same : ∀ issue, issue ∈ left ↔ issue ∈ right) :
      Agrees (.error left) (.error right)

namespace Checked.Agrees

variable {α β : Type}

theorem refl (checked : Checked α) : Agrees checked checked := by
  cases checked with
  | ok value => exact .passed value
  | error issues => exact .failed fun _ => Iff.rfl

theorem both {left left' : Checked α} {right right' : Checked β} (first : Agrees left left')
    (second : Agrees right right') :
    Agrees (Checked.both left right) (Checked.both left' right') := by
  cases first with
  | passed value =>
    cases second with
    | passed other => exact .passed (value, other)
    | failed same => exact .failed same
  | failed same =>
    cases second with
    | passed other => exact .failed same
    | failed others => exact .failed fun issue => by simp only [List.mem_append, same, others]

theorem map {checked checked' : Checked α} (agrees : Agrees checked checked') (change : α → β) :
    Agrees (checked.map change) (checked'.map change) := by
  cases agrees with
  | passed value => exact .passed (change value)
  | failed same => exact .failed same

theorem withIssues {checked checked' : Checked α} (agrees : Agrees checked checked')
    {issues issues' : List Issue} (same : ∀ issue, issue ∈ issues ↔ issue ∈ issues') :
    Agrees (Checked.withIssues issues checked) (Checked.withIssues issues' checked') := by
  cases agrees with
  | failed others => exact .failed fun issue => by simp only [List.mem_append, others, same]
  | passed value =>
    cases issues with
    | nil =>
      obtain rfl : issues' = [] := by
        apply List.eq_nil_iff_forall_not_mem.mpr
        intro issue member
        exact List.not_mem_nil ((same issue).mpr member)
      exact .passed value
    | cons issue rest =>
      cases issues' with
      | nil => exact absurd ((same issue).mp List.mem_cons_self) List.not_mem_nil
      | cons issue' rest' => exact .failed same

end Checked.Agrees

def laidOver (below above : Table Value) : Table Value :=
  Value.mergeEntries below above ++ above.filter fun entry => !Table.has below entry.1

section

variable (below above : Table Value)

theorem merge_mappings (belowAccess aboveAccess : Access) :
    (Value.mapping belowAccess below).merge (.mapping aboveAccess above) =
      .object (laidOver below above) := by
  rw [Value.merge, laidOver]

/-- An entry that is above is laid over the one below; any other one shows as it is. -/
theorem get?_laidOver (name : String) :
    (laidOver below above).get? name =
      match above.get? name with
      | some value => some ((below.get? name).elim value fun old => old.merge value)
      | none => below.get? name := by
  have mapping : (Value.object above).isMapping = true := rfl
  have entered := Value.child?_merge (.object below) mapping name
  rwa [merge_mappings] at entered

theorem mem_keys_laidOver (name : String) :
    name ∈ (laidOver below above).keys ↔ name ∈ below.keys ∨ name ∈ above.keys := by
  simp only [Table.mem_keys_iff, get?_laidOver]
  cases above.get? name <;> simp

theorem mem_unknownSettings_laidOver (issue : Issue) :
    issue ∈ unknownSettings above below.keys ↔
      issue ∈ unknownSettings (laidOver below above) below.keys := by
  simp only [unknownSettings, List.mem_map, List.mem_filter, mem_keys_laidOver]
  refine exists_congr fun name => and_congr_left fun _ => and_congr_left fun unknown => ?_
  have absent : name ∉ below.keys := by simpa using unknown
  simp [absent]

variable {below}

theorem any_isMisnamed_laidOver (dotless : ∀ name ∈ below.keys, name.toList.head? ≠ some '.') :
    above.any Value.isMisnamed = (laidOver below above).any Value.isMisnamed := by
  have whole (entry : String × Value) (member : entry.1 ∈ below.keys) :
      Value.isMisnamed entry = false := isMisnamed_of_dotless (dotless entry.1 member) entry.2
  rw [Bool.eq_iff_iff, List.any_eq_true, List.any_eq_true]
  constructor
  · rintro ⟨entry, member, misnamed⟩
    refine ⟨entry, List.mem_append_right _ (List.mem_filter.mpr ⟨member, ?_⟩), misnamed⟩
    rw [Bool.not_eq_true', Table.has, Option.isSome_eq_false_iff, Option.isNone_iff_eq_none]
    by_contra known
    obtain ⟨value, found⟩ := Option.ne_none_iff_exists'.mp known
    rw [whole entry (Table.mem_keys_iff.mpr ⟨value, found⟩)] at misnamed
    cases misnamed
  · rintro ⟨entry, member, misnamed⟩
    rcases List.mem_append.mp member with lower | upper
    · rw [Value.mergeEntries_eq_map] at lower
      obtain ⟨old, oldMember, rfl⟩ := List.mem_map.mp lower
      have known : old.1 ∈ below.keys := List.mem_map_of_mem oldMember
      rw [whole (Value.overlaid above old) known] at misnamed
      cases misnamed
    · exact ⟨entry, (List.mem_filter.mp upper).1, misnamed⟩

end

section

variable {α : Type} {standard : α} {spelled : Table Value} (entries : Table Value) {name : String}

/-- A section has the same issues with names whether it is laid over the standard one or not. -/
theorem agrees_withNames {names : List String} (named : spelled.keys = names)
    (dotless : ∀ name ∈ names, name.toList.head? ≠ some '.') {checked checked' : Checked α}
    (agrees : Checked.Agrees checked checked') :
    Checked.Agrees (withNames entries (unknownSettings entries names) checked)
      (withNames (laidOver spelled entries) (unknownSettings (laidOver spelled entries) names)
        checked') := by
  subst named
  rw [withNames, withNames, ← any_isMisnamed_laidOver entries dotless]
  split
  · exact .refl _
  · exact agrees.withIssues (mem_unknownSettings_laidOver spelled entries)

/-- A setting that is spelled out as its standard value may as well be missing. -/
theorem agrees_setting {check : Value → Except IssueKind α} {value : Value}
    (spells : spelled.get? name = some value) (scalar : value.isMapping = false)
    (means : check value = .ok standard) :
    Checked.Agrees (setting entries name standard check)
      (setting (laidOver spelled entries) name standard check) := by
  rw [setting, setting, get?_laidOver, spells]
  cases entries.get? name with
  | none =>
    simp only [means]
    exact .refl _
  | some given =>
    simp only [Option.elim_some, Value.merge_over_scalar scalar]
    exact .refl _

/-- A section that is spelled out as the standard one may as well be missing. -/
theorem agrees_subsection {check : Table Value → Checked α} {inner : Table Value}
    (spells : spelled.get? name = some (.object inner)) (means : check inner = .ok standard)
    (agrees : ∀ given, Checked.Agrees (check given) (check (laidOver inner given))) :
    Checked.Agrees (subsection entries name standard check)
      (subsection (laidOver spelled entries) name standard check) := by
  rw [subsection, subsection, get?_laidOver, spells]
  cases entries.get? name with
  | none =>
    simp only [means]
    exact .refl _
  | some given =>
    cases given with
    | mapping access section_ =>
      simp only [Option.elim_some, merge_mappings]
      have agreed := agrees section_
      generalize check section_ = bare at agreed ⊢
      generalize check (laidOver inner section_) = laid at agreed ⊢
      cases agreed with
      | passed value => exact .passed value
      | failed same =>
        apply Checked.Agrees.failed
        intro issue
        simp only [below, List.mem_map, same]
    | _ => exact .refl _

end

theorem agrees_checkSuppression (entries : Table Value) :
    Checked.Agrees (checkSuppression entries)
      (checkSuppression (laidOver Suppression.standard.document entries)) := by
  apply agrees_withNames
  · rfl
  · decide
  · apply Checked.Agrees.map
    refine .both (agrees_setting entries rfl rfl rfl) ?_
    refine .both (agrees_setting entries rfl rfl rfl) ?_
    refine .both (agrees_setting entries rfl rfl rfl) ?_
    refine .both (agrees_setting entries rfl rfl rfl) ?_
    exact agrees_setting entries rfl rfl rfl

theorem agrees_checkDebug (entries : Table Value) :
    Checked.Agrees (checkDebug entries)
      (checkDebug (laidOver
        [("devModeEnabled", .bool standard.devMode),
         ("suppressRecurringMessages", .object standard.suppression.document)] entries)) := by
  apply agrees_withNames
  · rfl
  · decide
  · refine .both (agrees_setting entries rfl rfl rfl) ?_
    exact agrees_subsection entries rfl rfl agrees_checkSuppression

theorem agrees_checkLogging (entries : Table Value) :
    Checked.Agrees (checkLogging entries)
      (checkLogging (laidOver [("file", .null)] entries)) := by
  apply agrees_withNames
  · rfl
  · decide
  · exact agrees_setting entries rfl rfl rfl

theorem agrees_checkUser (entries : Table Value) :
    Checked.Agrees (checkUser entries)
      (checkUser (laidOver [("strictMode", .bool standard.strictMode)] entries)) := by
  apply agrees_withNames
  · rfl
  · decide
  · exact agrees_setting entries rfl rfl rfl

theorem agrees_check (entries : Table Value) :
    Checked.Agrees (check (.ofTable entries))
      (check (.ofTable (laidOver standard.document entries))) := by
  simp only [check, Document.named_ofTable, unusableKeys, Document.otherKeys_ofTable, List.map_nil,
    List.append_nil]
  apply agrees_withNames
  · rfl
  · decide
  · apply Checked.Agrees.map
    refine .both (agrees_subsection entries rfl rfl agrees_checkDebug) ?_
    refine .both (agrees_subsection entries rfl rfl agrees_checkLogging) ?_
    exact agrees_subsection entries rfl rfl agrees_checkUser

/-- Whether a document is laid over the standard one or not makes no difference to the check of
settings: both stand for the same settings, or both are refused for the same issues. -/
theorem acceptValue_over_standard (entries : Table Value) :
    let bare := Value.object entries
    let laid := (Value.object standard.document).merge bare
    (∃ settings, acceptValue bare = .ok settings ∧ acceptValue laid = .ok settings) ∨
      ∃ issues issuesLaid, acceptValue bare = .error (.issues issues) ∧
        acceptValue laid = .error (.issues issuesLaid) ∧
        ∀ issue, issue ∈ issues ↔ issue ∈ issuesLaid := by
  intro bare laid
  have accepted (given : Table Value) : acceptValue (.object given) =
      (check (.ofTable given)).mapError .issues := by
    rw [acceptValue]
    show accept (.ofTable given) = _
    rw [accept]
    cases check (.ofTable given) <;> rfl
  have merged : laid = .object (laidOver standard.document entries) := merge_mappings _ _ _ _
  rw [merged, accepted, accepted]
  have agrees := agrees_check entries
  generalize check (.ofTable entries) = first at agrees ⊢
  generalize check (.ofTable (laidOver standard.document entries)) = second at agrees ⊢
  cases agrees with
  | passed settings => exact .inl ⟨settings, rfl, rfl⟩
  | failed same => exact .inr ⟨_, _, rfl, rfl, same⟩

end StorageLayout.Settings
