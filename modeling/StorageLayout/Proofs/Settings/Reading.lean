import StorageLayout.Proofs.Config.FirstHit
import StorageLayout.Proofs.Settings.Checking
import StorageLayout.Proofs.Settings.Layers

namespace StorageLayout.Settings

/-- The place of the setting that says whether lookups have to name a user. -/
def strictModeAt : Key := ⟨"user", ["strictMode"]⟩

theorem parse_strictModeKey : Key.parse strictModeKey = .ok strictModeAt := rfl

theorem key_of_bound {text : String} {key : Key} (bound : text ∈ bindings.keys)
    (parsed : Key.parse text = .ok key) :
    key = ⟨"debug", ["devModeEnabled"]⟩ ∨ key = ⟨"logging", ["file"]⟩ ∨ key = strictModeAt := by
  simp only [bindings, Table.keys, List.map_cons, List.map_nil, List.mem_cons,
    List.not_mem_nil, or_false] at bound
  rcases bound with rfl | rfl | rfl
  · exact .inl (Except.ok.inj parsed).symm
  · exact .inr (.inl (Except.ok.inj parsed).symm)
  · exact .inr (.inr (Except.ok.inj parsed).symm)

theorem flat_bindings : Layer.FlatBindings bindings where
  valid := by
    intro text member
    simp only [bindings, Table.keys, List.map_cons, List.map_nil, List.mem_cons,
      List.not_mem_nil, or_false] at member
    rcases member with rfl | rfl | rfl
    · exact ⟨⟨"debug", ["devModeEnabled"]⟩, rfl⟩
    · exact ⟨⟨"logging", ["file"]⟩, rfl⟩
    · exact ⟨strictModeAt, rfl⟩
  apart := by
    intro left right leftKey rightKey leftBound rightBound leftParsed rightParsed leads
    rcases key_of_bound leftBound leftParsed with rfl | rfl | rfl <;>
      rcases key_of_bound rightBound rightParsed with rfl | rfl | rfl <;>
        simp [Key.segments, strictModeAt] at leads ⊢

theorem IsLayered.declared {source : EnvironmentSource} {content : Value} {entries : Table Value}
    {store : Store} (layered : IsLayered source content entries store) :
    ∀ layer ∈ store.layers, layer.IsDeclared := by
  obtain ⟨path, layers⟩ := layered.layers
  rw [layers]
  simp only [documents, List.cons_append, List.nil_append, List.forall_mem_cons]
  exact ⟨rfl, layered.mapping, flat_bindings, trivial, by simp⟩

theorem isLeaf_of_checkTruth {value : Value} {truth : Bool}
    (checked : checkTruth value = .ok truth) : value.IsLeaf := by
  cases value <;> first | exact ⟨rfl, rfl⟩ | cases checked

/-- What has nothing for strict mode, and a mapping for its section if it has one, does not cover
the setting. -/
private theorem not_covers_strictMode {root : Value} (mapping : root.isMapping = true)
    (user : ∀ value, root.at? ["user"] = some value → value.isMapping = true)
    (absent : root.at? strictModeAt.segments = none) : ¬ root.Covers strictModeAt.segments := by
  rintro (held | ⟨higher, child, leads, proper, found, scalar⟩)
  · rw [absent] at held
    cases held
  · rcases List.prefix_cons_iff.mp leads with rfl | ⟨rest, rfl, leadsOn⟩
    · obtain rfl := Option.some.inj ((Value.at?_nil root).symm.trans found)
      rw [mapping] at scalar
      cases scalar
    · rcases List.prefix_cons_iff.mp leadsOn with rfl | ⟨more, rfl, last⟩
      · rw [user child found] at scalar
        cases scalar
      · obtain rfl := List.prefix_nil.mp last
        exact proper rfl

private theorem absent_above {below above : Value} {place : List String}
    (absent : (below.merge above).at? place = none) : above.at? place = none := by
  cases held : above.at? place with
  | none => rfl
  | some value =>
    rw [Value.at?_merge_of_held below held] at absent
    cases absent

private theorem quiet_of_absent {process : Environment} {layer : Layer} {document : Document}
    {text : String} {key : Key} (reads : layer.ReadsAs process document text key)
    (absent : document.root.at? key.segments = none) :
    (layer.get process text).isNull = true := by
  by_contra present
  rw [reads.held (by simpa using present)] at absent
  cases absent

/-- Variables are settings inside sections, so at the place of a section there is a mapping. -/
private theorem isMapping_of_variables {process : Environment} {source : EnvironmentSource}
    {document : Document}
    (laid : (Layer.environment source bindings).toDocument process = .ok document) {value : Value}
    (held : document.root.at? ["user"] = some value) : value.isMapping = true := by
  obtain ⟨written, wrote, laysOut⟩ := Layer.toDocument_environment process source flat_bindings
  obtain rfl := Except.ok.inj (wrote.symm.trans laid)
  rw [Document.root_ofTable] at held
  obtain ⟨text, bound, key, parsed, -, ⟨same, -⟩ | ⟨mapping, -⟩⟩ :=
    laysOut.noOther (List.cons_ne_nil _ _) held
  · rcases key_of_bound bound parsed with rfl | rfl | rfl <;>
      simp [Key.segments, strictModeAt] at same
  · exact mapping

/-- Where the effective document has a mapping for the section but nothing for strict mode, it is the
standard value that is read. -/
theorem get_strictMode_of_absent {source : EnvironmentSource} {content : Value}
    {entries : Table Value} {store : Store} (layered : IsLayered source content entries store)
    {process : Environment} {document : Document} (merged : store.merged process = .ok document)
    (user : ∀ value, document.root.at? ["user"] = some value → value.isMapping = true)
    (absent : document.root.at? strictModeAt.segments = none) :
    store.get process strictModeKey = .bool false := by
  have declared := layered.declared
  obtain ⟨path, layers⟩ := layered.layers
  rw [layers] at declared
  rw [Store.merged, layers] at merged
  obtain ⟨standardDocument, -, merged⟩ := Store.mergeOver_cons_eq_ok.mp merged
  obtain ⟨fileDocument, fileLaid, merged⟩ := Store.mergeOver_cons_eq_ok.mp merged
  obtain ⟨variableDocument, variablesLaid, merged⟩ := Store.mergeOver_cons_eq_ok.mp merged
  obtain ⟨overrideDocument, overridesLaid, merged⟩ := Store.mergeOver_cons_eq_ok.mp merged
  obtain rfl := Except.ok.inj merged
  have reads {layer : Layer} {laid : Document} (member : layer ∈ documents path content ++
      [.environment source bindings] ++ [.overrides entries])
      (laidOut : layer.toDocument process = .ok laid) :
      layer.ReadsAs process laid strictModeKey strictModeAt :=
    Layer.readsAs_of_toDocument (declared layer member) laidOut parse_strictModeKey
  -- From the top down, no layer has anything for the setting, and none but the file covers it.
  rw [Document.root_merge] at absent user
  have absentOverridden := absent_above absent
  have overriddenUser : ∀ value, overrideDocument.root.at? ["user"] = some value →
      value.isMapping = true := by
    intro value held
    have mapping := user _ (Value.at?_merge_of_held _ held)
    rwa [Value.isMapping_of_merged held (Value.at?_merge_of_held _ held)] at mapping
  have uncovered := not_covers_strictMode rfl overriddenUser absentOverridden
  rw [Value.at?_merge_of_uncovered _ uncovered, Document.root_merge] at absent
  have absentVariables := absent_above absent
  have variablesUser : ∀ value, variableDocument.root.at? ["user"] = some value →
      value.isMapping = true := by
    intro value held
    exact isMapping_of_variables variablesLaid held
  have uncoveredVariables := not_covers_strictMode rfl variablesUser absentVariables
  rw [Value.at?_merge_of_uncovered _ uncoveredVariables, Document.root_merge] at absent
  have absentFile := absent_above absent
  have quietOverrides := quiet_of_absent (reads (by simp) overridesLaid) absentOverridden
  have quietVariables := quiet_of_absent (reads (by simp) variablesLaid) absentVariables
  have quietFile := quiet_of_absent (reads (by simp [documents]) fileLaid) absentFile
  rw [Store.get_eq_valueIn, layers]
  have quietAbove : (Store.valueIn process strictModeKey [.document path content,
      .environment source bindings, .overrides entries]).isNull = true := by
    have null : Value.null.isNull = true := rfl
    simp only [Store.valueIn, null, if_true, quietOverrides, quietVariables, quietFile]
  exact if_pos quietAbove

end StorageLayout.Settings
