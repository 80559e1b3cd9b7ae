import StorageLayout.Proofs.Config.Merge
import StorageLayout.Proofs.Config.Writing
import StorageLayout.Settings.Schema

namespace StorageLayout.Settings

section

variable {α β : Type}

theorem both_eq_ok {left : Checked α} {right : Checked β} {pair : α × β}
    (checked : Checked.both left right = .ok pair) : left = .ok pair.1 ∧ right = .ok pair.2 := by
  cases left with
  | error issues => cases right <;> cases checked
  | ok first =>
    cases right with
    | error issues => cases checked
    | ok second =>
      obtain rfl := Except.ok.inj checked
      exact ⟨rfl, rfl⟩

theorem map_eq_ok {checked : Checked α} {change : α → β} {result : β}
    (mapped : checked.map change = .ok result) :
    ∃ value, checked = .ok value ∧ change value = result := by
  cases checked with
  | error issues => cases mapped
  | ok value => exact ⟨value, rfl, Except.ok.inj mapped⟩

theorem withNames_eq_ok {entries : Table Value} {issues : List Issue} {inner : Checked α} {value : α}
    (checked : withNames entries issues inner = .ok value) : inner = .ok value := by
  unfold withNames at checked
  split at checked
  · cases checked
  · unfold Checked.withIssues at checked
    split at checked
    · exact checked
    · cases checked
    · cases checked

/-- Whether a value is what a setting means: what is at its place passes the check as this value, or
nothing is there and the value is the standard one. -/
def Means (root : Value) (place : List String) (check : Value → Except IssueKind α)
    (standard value : α) : Prop :=
  root.at? place = none ∧ value = standard ∨
    ∃ raw, root.at? place = some raw ∧ check raw = .ok value

theorem means_of_setting {entries : Table Value} {name : String} {standard value : α}
    {check : Value → Except IssueKind α}
    (checked : setting entries name standard check = .ok value) :
    Means (.object entries) [name] check standard value := by
  rw [Means, Value.at?_singleton, Value.child?]
  unfold setting at checked
  split at checked
  · next absent => exact .inl ⟨absent, (Except.ok.inj checked).symm⟩
  · next raw found =>
    split at checked
    · next result accepted =>
      obtain rfl := Except.ok.inj checked
      exact .inr ⟨raw, found, accepted⟩
    · cases checked

/-- A section that is there passes the check of sections; one that is not there is standard. -/
theorem subsection_eq_ok {entries : Table Value} {name : String} {standard value : α}
    {check : Table Value → Checked α}
    (checked : subsection entries name standard check = .ok value) :
    entries.get? name = none ∧ value = standard ∨
      ∃ access inner, entries.get? name = some (.mapping access inner) ∧
        check inner = .ok value := by
  unfold subsection at checked
  split at checked
  · next absent => exact .inl ⟨absent, (Except.ok.inj checked).symm⟩
  · next access inner found =>
    split at checked
    · next result accepted =>
      obtain rfl := Except.ok.inj checked
      exact .inr ⟨access, inner, found, accepted⟩
    · cases checked
  · cases checked

section

variable {entries : Table Value} {name : String} {rest : List String}
  {check : Value → Except IssueKind α} {standard value : α}

theorem means_of_absent (absent : entries.get? name = none) :
    Means (.object entries) (name :: rest) check standard standard := by
  refine .inl ⟨?_, rfl⟩
  rw [Value.at?_cons, Value.child?, absent]
  rfl

theorem Means.below {access : Access} {inner : Table Value}
    (found : entries.get? name = some (.mapping access inner))
    (means : Means (.object inner) rest check standard value) (nonempty : rest ≠ []) :
    Means (.object entries) (name :: rest) check standard value := by
  have entered : (Value.object entries).at? (name :: rest) = (Value.object inner).at? rest := by
    rw [Value.at?_cons, Value.child?, found]
    cases rest with
    | nil => exact absurd rfl nonempty
    | cons segment more =>
      rw [Option.bind_some, Value.at?_cons, Value.at?_cons]
      rfl
  rw [Means, entered]
  exact means

end

end

/-- Whether settings about repeated messages are what a section means. -/
structure Suppression.MeantBy (suppression : Suppression) (root : Value) (place : List String) :
    Prop where
  enabled : Means root (place ++ ["enabled"]) checkTruth false suppression.enabled
  windowSeconds :
    Means root (place ++ ["windowSeconds"]) checkCount 60 suppression.windowSeconds
  maxPerWindow : Means root (place ++ ["maxPerWindow"]) checkCount 5 suppression.maxPerWindow
  maxKeys : Means root (place ++ ["maxKeys"]) checkCount 1024 suppression.maxKeys
  summaryLevel :
    Means root (place ++ ["summaryLevel"]) checkLevel .info suppression.summaryLevel

/-- Whether settings are what a document means. -/
structure MeantBy (settings : Settings) (root : Value) : Prop where
  devMode : Means root ["debug", "devModeEnabled"] checkTruth false settings.devMode
  suppression : settings.suppression.MeantBy root ["debug", "suppressRecurringMessages"]
  logFile : Means root ["logging", "file"] checkOptionalText none settings.logFile
  strictMode : Means root ["user", "strictMode"] checkTruth false settings.strictMode
  user : ∀ value, root.at? ["user"] = some value → value.isMapping = true

theorem Suppression.meantBy_of_check {entries : Table Value} {suppression : Suppression}
    (checked : checkSuppression entries = .ok suppression) :
    suppression.MeantBy (.object entries) [] := by
  obtain ⟨⟨enabled, windowSeconds, maxPerWindow, maxKeys, summaryLevel⟩, fields, rfl⟩ :=
    map_eq_ok (withNames_eq_ok checked)
  obtain ⟨enabledOk, fields⟩ := both_eq_ok fields
  obtain ⟨windowOk, fields⟩ := both_eq_ok fields
  obtain ⟨perWindowOk, fields⟩ := both_eq_ok fields
  obtain ⟨keysOk, levelOk⟩ := both_eq_ok fields
  exact ⟨means_of_setting enabledOk, means_of_setting windowOk, means_of_setting perWindowOk,
    means_of_setting keysOk, means_of_setting levelOk⟩

theorem Suppression.meantBy_of_absent {entries : Table Value} {name : String}
    (absent : entries.get? name = none) (place : List String) :
    Suppression.standard.MeantBy (.object entries) (name :: place) :=
  ⟨means_of_absent absent, means_of_absent absent, means_of_absent absent, means_of_absent absent,
    means_of_absent absent⟩

theorem Suppression.MeantBy.below {entries inner : Table Value} {name : String} {access : Access}
    {suppression : Suppression} {place : List String}
    (found : entries.get? name = some (.mapping access inner))
    (meant : suppression.MeantBy (.object inner) place) :
    suppression.MeantBy (.object entries) (name :: place) :=
  ⟨meant.enabled.below found (by simp), meant.windowSeconds.below found (by simp),
    meant.maxPerWindow.below found (by simp), meant.maxKeys.below found (by simp),
    meant.summaryLevel.below found (by simp)⟩

theorem meantBy_of_checkDebug {entries : Table Value} {devMode : Bool} {suppression : Suppression}
    (checked : checkDebug entries = .ok (devMode, suppression)) :
    Means (.object entries) ["devModeEnabled"] checkTruth false devMode ∧
      suppression.MeantBy (.object entries) ["suppressRecurringMessages"] := by
  obtain ⟨devModeOk, suppressionOk⟩ := both_eq_ok (withNames_eq_ok checked)
  refine ⟨means_of_setting devModeOk, ?_⟩
  rcases subsection_eq_ok suppressionOk with ⟨absent, rfl⟩ | ⟨access, inner, found, innerOk⟩
  · exact Suppression.meantBy_of_absent absent []
  · exact (Suppression.meantBy_of_check innerOk).below found

theorem meantBy_of_check {document : Document} {settings : Settings}
    (checked : check document = .ok settings) : settings.MeantBy document.root := by
  obtain ⟨⟨⟨devMode, suppression⟩, logFile, strictMode⟩, sections, rfl⟩ :=
    map_eq_ok (withNames_eq_ok checked)
  obtain ⟨debugOk, sections⟩ := both_eq_ok sections
  obtain ⟨loggingOk, userOk⟩ := both_eq_ok sections
  rw [Document.root]
  have debug : Means (.object document.named) ["debug", "devModeEnabled"] checkTruth false devMode ∧
      suppression.MeantBy (.object document.named) ["debug", "suppressRecurringMessages"] := by
    rcases subsection_eq_ok debugOk with ⟨absent, standard_eq⟩ | ⟨access, inner, found, innerOk⟩
    · obtain ⟨rfl, rfl⟩ := Prod.mk.inj standard_eq
      exact ⟨means_of_absent absent, Suppression.meantBy_of_absent absent _⟩
    · obtain ⟨devModeMeans, suppressionMeant⟩ := meantBy_of_checkDebug innerOk
      exact ⟨devModeMeans.below found (by simp), suppressionMeant.below found⟩
  refine ⟨debug.1, debug.2, ?_, ?_, ?_⟩
  · rcases subsection_eq_ok loggingOk with ⟨absent, rfl⟩ | ⟨access, inner, found, innerOk⟩
    · exact means_of_absent absent
    · exact (means_of_setting (withNames_eq_ok innerOk)).below found (by simp)
  · rcases subsection_eq_ok userOk with ⟨absent, rfl⟩ | ⟨access, inner, found, innerOk⟩
    · exact means_of_absent absent
    · exact (means_of_setting (withNames_eq_ok innerOk)).below found (by simp)
  · intro value held
    rw [Value.at?_singleton, Value.child?] at held
    rcases subsection_eq_ok userOk with ⟨absent, -⟩ | ⟨access, inner, found, -⟩
    · rw [absent] at held
      cases held
    · obtain rfl := Option.some.inj (found.symm.trans held)
      rfl

end StorageLayout.Settings
