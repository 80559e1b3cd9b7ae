import StorageLayout.Config.Layer
import StorageLayout.Proofs.Config.Frame
import StorageLayout.Proofs.Config.Keys

namespace StorageLayout

namespace Value

theorem at?_scalar {value : Value} (scalar : value.isMapping = false) (segment : String)
    (rest : List String) : value.at? (segment :: rest) = none := by
  rw [at?_cons, child?_eq_none scalar]
  rfl

end Value

namespace Layer

/-- Bound keys are flat if each of them names a place and none leads on to another one. -/
structure FlatBindings (bindings : Table String) : Prop where
  valid : ∀ text ∈ bindings.keys, ∃ key, Key.parse text = .ok key
  apart : ∀ {left right : String} {leftKey rightKey : Key}, left ∈ bindings.keys →
    right ∈ bindings.keys → Key.parse left = .ok leftKey → Key.parse right = .ok rightKey →
    leftKey.segments <+: rightKey.segments → leftKey = rightKey

section

variable {environment : Environment} {bindings : Table String}

variable (environment bindings) in
theorem boundValue_cases (text : String) :
    boundValue environment bindings text = .null ∨
      (∃ truth, boundValue environment bindings text = .bool truth) ∨
        ∃ value, boundValue environment bindings text = .text value := by
  unfold boundValue variableValue
  split
  · exact .inl rfl
  · split
    · exact .inl rfl
    · split
      · exact .inr (.inl ⟨_, rfl⟩)
      · exact .inr (.inr ⟨_, rfl⟩)

theorem isMapping_boundValue (text : String) :
    (boundValue environment bindings text).isMapping = false := by
  rcases boundValue_cases environment bindings text with
    null | ⟨truth, bool⟩ | ⟨value, plain⟩
  · rw [null]; rfl
  · rw [bool]; rfl
  · rw [plain]; rfl

theorem isOpen_boundValue (text : String) :
    (boundValue environment bindings text).isOpen = true := by
  rcases boundValue_cases environment bindings text with
    null | ⟨truth, bool⟩ | ⟨value, plain⟩
  · rw [null]; rfl
  · rw [bool]; rfl
  · rw [plain]; rfl

theorem mem_keys_of_boundValue {text : String}
    (set_ : (boundValue environment bindings text).isNull = false) : text ∈ bindings.keys := by
  unfold boundValue at set_
  cases found : bindings.get? text with
  | none => simp [found, Value.isNull] at set_
  | some name => exact List.mem_map.mpr ⟨_, Table.mem_of_get? found, rfl⟩

variable (environment bindings) in
/-- A document holds the variables of the given keys that are set, and nothing else but the mappings
on the way to them. -/
structure LaysOut (texts : List String) (document : Value) : Prop where
  isOpen : document.isOpen = true
  mapping : document.isMapping = true
  held : ∀ {text : String} {key : Key}, text ∈ texts → Key.parse text = .ok key →
    (boundValue environment bindings text).isNull = false →
    document.at? key.segments = some (boundValue environment bindings text)
  noOther : ∀ {place : List String} {child : Value}, place ≠ [] → document.at? place = some child →
    ∃ text ∈ texts, ∃ key, Key.parse text = .ok key ∧
      (boundValue environment bindings text).isNull = false ∧
      (place = key.segments ∧ child = boundValue environment bindings text ∨
        child.isMapping = true ∧ place <+: key.segments ∧ place ≠ key.segments)

theorem LaysOut.new : LaysOut environment bindings [] (.object []) where
  isOpen := rfl
  mapping := rfl
  held := by simp
  noOther := by
    intro place child nonempty found
    cases place with
    | nil => exact absurd rfl nonempty
    | cons segment rest => simp at found

/-- A key that is not set adds nothing. -/
theorem LaysOut.skip {texts : List String} {document : Value}
    (laid : LaysOut environment bindings texts document) {text : String}
    (unset : (boundValue environment bindings text).isNull = true) :
    LaysOut environment bindings (texts ++ [text]) document where
  isOpen := laid.isOpen
  mapping := laid.mapping
  held := by
    intro other key member parsed set_
    rcases List.mem_append.mp member with old | new
    · exact laid.held old parsed set_
    · rw [List.mem_singleton] at new
      subst new
      simp [unset] at set_
  noOther := by
    intro place child nonempty found
    obtain ⟨other, member, rest⟩ := laid.noOther nonempty found
    exact ⟨other, List.mem_append_left _ member, rest⟩

/-- Nothing that was laid out before is in the way of a bound key. -/
theorem LaysOut.exists_set {texts : List String} {document : Value}
    (laid : LaysOut environment bindings texts document) (flat : FlatBindings bindings)
    (among : ∀ text ∈ texts, text ∈ bindings.keys) {text : String} {key : Key}
    (bound : text ∈ bindings.keys) (parsed : Key.parse text = .ok key) (value : Value) :
    ∃ written, document.set key value true = .ok written := by
  apply Value.exists_setAt value
  apply Value.isOpenTo_of_isOpen laid.isOpen
  intro place child above proper found
  by_cases whole : place = []
  · subst whole
    obtain rfl := Value.at?_nil_eq_some.mp found
    exact laid.mapping
  · obtain ⟨other, member, otherKey, otherParsed, -, ⟨rfl, -⟩ | ⟨mapping, -⟩⟩ :=
      laid.noOther whole found
    · have same := flat.apart (among other member) bound otherParsed parsed above
      exact absurd (congrArg Key.segments same) proper
    · exact mapping

/-- A key that is set adds its value. -/
theorem LaysOut.set {texts : List String} {document written : Value}
    (laid : LaysOut environment bindings texts document) (flat : FlatBindings bindings)
    (among : ∀ text ∈ texts, text ∈ bindings.keys) {text : String} {key : Key}
    (bound : text ∈ bindings.keys) (parsed : Key.parse text = .ok key)
    (set_ : (boundValue environment bindings text).isNull = false)
    (wrote : document.set key (boundValue environment bindings text) true = .ok written) :
    LaysOut environment bindings (texts ++ [text]) written where
  isOpen := Value.allMappings_setAt rfl laid.isOpen (isOpen_boundValue text) wrote
  mapping := by
    obtain ⟨root, found, mapping⟩ :=
      Value.at?_setAt_above wrote List.nil_prefix (List.cons_ne_nil _ _).symm
    obtain rfl := Value.at?_nil_eq_some.mp found
    exact mapping
  held := by
    intro other otherKey member otherParsed otherSet
    by_cases same : otherKey = key
    · subst same
      obtain rfl := Key.text_eq_of_parse otherParsed parsed
      exact Value.at?_setAt_same wrote
    · have old : other ∈ texts := by
        rcases List.mem_append.mp member with old | new
        · exact old
        · rw [List.mem_singleton] at new
          subst new
          exact absurd (Except.ok.inj (otherParsed.symm.trans parsed)) same
      have otherBound := among other old
      have beside : Value.Beside key.segments otherKey.segments :=
        ⟨fun below => same (flat.apart bound otherBound parsed otherParsed below).symm,
          fun above => same (flat.apart otherBound bound otherParsed parsed above)⟩
      rw [(Value.sameAt_setAt wrote beside).held]
      exact laid.held old otherParsed otherSet
  noOther := by
    intro place child nonempty found
    by_cases below : key.segments <+: place
    · obtain ⟨rest, rfl⟩ := below
      have inside := (Value.at?_setAt_below wrote rest).symm.trans found
      refine ⟨text, by simp, key, parsed, set_, .inl ?_⟩
      cases rest with
      | nil => exact ⟨by simp, (Value.at?_nil_eq_some.mp inside).symm⟩
      | cons segment more =>
        rw [Value.at?_scalar (isMapping_boundValue text)] at inside
        cases inside
    · by_cases above : place <+: key.segments
      · have proper : place ≠ key.segments := by
          rintro rfl
          exact below (List.prefix_refl _)
        obtain ⟨reached, held, mapping⟩ := Value.at?_setAt_above wrote above proper
        obtain rfl := Option.some.inj (held.symm.trans found)
        exact ⟨text, by simp, key, parsed, set_, .inr ⟨mapping, above, proper⟩⟩
      · rw [(Value.sameAt_setAt wrote ⟨below, above⟩).held] at found
        obtain ⟨other, member, rest⟩ := laid.noOther nonempty found
        exact ⟨other, List.mem_append_left _ member, rest⟩

variable (environment) in
theorem boundEntries_laysOut (flat : FlatBindings bindings) (texts done : List String)
    (entries : Table Value) (among : ∀ text ∈ done ++ texts, text ∈ bindings.keys)
    (laid : LaysOut environment bindings done (.object entries)) :
    ∃ written, boundEntries environment bindings texts entries = .ok written ∧
      LaysOut environment bindings (done ++ texts) (.object written) := by
  induction texts generalizing done entries with
  | nil => exact ⟨entries, rfl, by simpa using laid⟩
  | cons text texts ih =>
    have amongAll : ∀ other ∈ (done ++ [text]) ++ texts, other ∈ bindings.keys := by
      simpa [List.append_assoc] using among
    have bound : text ∈ bindings.keys := among text (by simp)
    unfold boundEntries
    by_cases unset : (boundValue environment bindings text).isNull = true
    · obtain ⟨written, wrote, laidAll⟩ := ih (done ++ [text]) entries amongAll (laid.skip unset)
      exact ⟨written, by simpa [unset] using wrote, by simpa [List.append_assoc] using laidAll⟩
    · have set_ : (boundValue environment bindings text).isNull = false := by simpa using unset
      have amongDone : ∀ other ∈ done, other ∈ bindings.keys := by
        intro other member
        exact among other (by simp [member])
      obtain ⟨key, parsed⟩ := flat.valid text bound
      obtain ⟨result, put⟩ := laid.exists_set flat amongDone bound parsed
        (boundValue environment bindings text)
      obtain ⟨table, rfl⟩ := Value.exists_object_of_setAt put
      have assigned := (assign_eq_ok_of_parse parsed).mpr put
      obtain ⟨written, wrote, laidAll⟩ := ih (done ++ [text]) table amongAll
        (laid.set flat amongDone bound parsed set_ put)
      exact ⟨written, by simpa [set_, assigned] using wrote,
        by simpa [List.append_assoc] using laidAll⟩

end

/-- An environment layer with flat bindings always lays out its document. -/
theorem toDocument_environment (process : Environment) (source : EnvironmentSource)
    {bindings : Table String} (flat : FlatBindings bindings) :
    ∃ written, toDocument process (.environment source bindings) = .ok (.ofTable written) ∧
      LaysOut (source.resolve process) bindings bindings.keys (.object written) := by
  obtain ⟨written, wrote, laid⟩ :=
    boundEntries_laysOut (source.resolve process) flat bindings.keys [] [] (by simp) .new
  exact ⟨written, by simp [toDocument, wrote, Except.map], laid⟩

end Layer

end StorageLayout
