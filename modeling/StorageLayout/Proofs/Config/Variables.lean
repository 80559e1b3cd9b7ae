import StorageLayout.Proofs.Config.Bindings
import StorageLayout.Proofs.Config.Plain

/-! The two views of an environment layer: what its keys read as one by one, and the document that it
lays out. If the bound keys are flat the document holds what the keys read as, each at its place,
and nothing else but the sections on the way there. -/

namespace StorageLayout

namespace Value

theorem child?_of_empty {value : Value} (empty : value.entries? = some []) (segment : String) :
    value.child? segment = none := by
  cases value <;> simp_all [entries?, child?]

end Value

namespace Layer

/-- Bound keys are flat if none of their pieces is empty and no key starts with all the pieces of
another one. -/
theorem flatBindings_iff {bindings : Table String} :
    FlatBindings bindings ↔
      (∀ text ∈ bindings.keys, "" ∉ Text.splitAt '.' text) ∧
        ∀ left ∈ bindings.keys, ∀ right ∈ bindings.keys,
          Text.splitAt '.' left <+: Text.splitAt '.' right → left = right := by
  constructor
  · intro flat
    refine ⟨fun text bound => Key.exists_parse_iff.mp (flat.valid text bound), ?_⟩
    intro left leftBound right rightBound leads
    obtain ⟨leftKey, leftParsed⟩ := flat.valid left leftBound
    obtain ⟨rightKey, rightParsed⟩ := flat.valid right rightBound
    rw [← Key.segments_of_parse leftParsed, ← Key.segments_of_parse rightParsed] at leads
    obtain rfl := flat.apart leftBound rightBound leftParsed rightParsed leads
    exact Key.text_eq_of_parse leftParsed rightParsed
  · rintro ⟨full, apart⟩
    constructor
    · intro text bound
      exact Key.exists_parse_iff.mpr (full text bound)
    · intro left right leftKey rightKey leftBound rightBound leftParsed rightParsed leads
      rw [Key.segments_of_parse leftParsed, Key.segments_of_parse rightParsed] at leads
      obtain rfl := apart left leftBound right rightBound leads
      exact Except.ok.inj (leftParsed.symm.trans rightParsed)

instance (bindings : Table String) : Decidable (FlatBindings bindings) :=
  decidable_of_iff' _ flatBindings_iff

section

variable {environment : Environment} {bindings : Table String}

theorem isPlain_boundEntries {texts : List String} {entries written : Table Value}
    (plain : (Value.object entries).IsPlain)
    (laid : boundEntries environment bindings texts entries = .ok written) :
    (Value.object written).IsPlain := by
  induction texts generalizing entries with
  | nil =>
    obtain rfl := Except.ok.inj laid
    exact plain
  | cons text texts ih =>
    rw [boundEntries] at laid
    split at laid
    · exact ih plain laid
    · split at laid
      · next assigned =>
        obtain ⟨key, -, wrote⟩ := assign_eq_ok.mp assigned
        exact ih (plain.setAt (.leaf (isMapping_boundValue text)) wrote) laid
      · cases laid

variable {document : Value}

/-- In a document of variables there is something at a bound key exactly if its variable is set. -/
theorem LaysOut.at?_bound (laid : LaysOut environment bindings bindings.keys document)
    (flat : FlatBindings bindings) {text : String} {key : Key} (bound : text ∈ bindings.keys)
    (parsed : Key.parse text = .ok key) :
    document.at? key.segments =
      if (boundValue environment bindings text).isNull then none
      else some (boundValue environment bindings text) := by
  cases unset : (boundValue environment bindings text).isNull with
  | false => exact laid.held bound parsed unset
  | true =>
    rw [if_pos rfl]
    cases found : document.at? key.segments with
    | none => rfl
    | some child =>
      obtain ⟨other, otherBound, otherKey, otherParsed, set_, ⟨same, -⟩ | ⟨-, leads, proper⟩⟩ :=
        laid.noOther (List.cons_ne_nil _ _) found
      · obtain rfl := Key.eq_of_segments same
        rw [Key.text_eq_of_parse otherParsed parsed, unset] at set_
        cases set_
      · exact absurd (congrArg Key.segments (flat.apart bound otherBound parsed otherParsed leads))
          proper

theorem LaysOut.entries?_ne_nil (laid : LaysOut environment bindings bindings.keys document)
    {place : List String} {child : Value} (nonempty : place ≠ [])
    (found : document.at? place = some child) : child.entries? ≠ some [] := by
  intro empty
  obtain ⟨text, bound, key, parsed, set_, ⟨-, rfl⟩ | ⟨-, ⟨more, way⟩, proper⟩⟩ :=
    laid.noOther nonempty found
  · have mapping : (boundValue environment bindings text).isMapping = true := by
      rw [Value.isMapping, empty, Option.isSome_some]
    rw [isMapping_boundValue] at mapping
    cases mapping
  · have held := laid.held bound parsed set_
    rw [← way, Value.at?_append, found, Option.bind_some] at held
    cases more with
    | nil => exact proper (by simpa using way)
    | cons name rest =>
      rw [Value.at?_cons, Value.child?_of_empty empty] at held
      cases held

end

/-- The two views of an environment layer with flat bindings agree: laying it out succeeds, a bound
key is in the document exactly if it reads as something, and as just that; the document is plain,
holds no other value, and has no empty section. -/
theorem environment_views_agree (process : Environment) (source : EnvironmentSource)
    {bindings : Table String} (flat : FlatBindings bindings) :
    ∃ entries, toDocument process (.environment source bindings) = .ok (.ofTable entries) ∧
      (Value.object entries).IsPlain ∧
      (∀ text ∈ bindings.keys,
        ((Value.object entries).has (.text text) = true ↔
          ((environment source bindings).get process text).isNull = false) ∧
        ((Value.object entries).has (.text text) = true →
          (Value.object entries).read? (.text text) =
            some ((environment source bindings).get process text))) ∧
      (∀ place child, (Value.object entries).at? place = some child → child.isMapping = false →
        ∃ text ∈ bindings.keys, place = Text.splitAt '.' text ∧
          child = (environment source bindings).get process text) ∧
      ∀ place child, place ≠ [] → (Value.object entries).at? place = some child →
        child.entries? ≠ some [] := by
  obtain ⟨entries, wrote, laid⟩ :=
    boundEntries_laysOut (source.resolve process) flat bindings.keys [] [] (by simp) .new
  have plain := isPlain_boundEntries Value.isPlain_new wrote
  refine ⟨entries, by simp [toDocument, wrote, Except.map], plain, ?_, ?_, ?_⟩
  · intro text bound
    obtain ⟨key, parsed⟩ := flat.valid text bound
    simp only [Value.has, Value.read?_of_parse _ parsed, laid.at?_bound flat bound parsed, get]
    split
    · next unset => simp [unset]
    · next set_ => simp [set_]
  · intro place child found scalar
    have nonempty : place ≠ [] := by
      rintro rfl
      obtain rfl := Value.at?_nil_eq_some.mp found
      cases scalar
    obtain ⟨text, bound, key, parsed, -, ⟨rfl, rfl⟩ | ⟨mapping, -⟩⟩ := laid.noOther nonempty found
    · exact ⟨text, bound, Key.segments_of_parse parsed, rfl⟩
    · rw [scalar] at mapping
      cases mapping
  · intro place child nonempty found
    exact laid.entries?_ne_nil nonempty found

/-- One variable of a section is set, another one is empty, and a section of its own has none. -/
theorem environment_views_agree_on_sections :
    ∃ entries, toDocument [] (.environment (some [("B", "on"), ("C", "")])
        [("a.b", "B"), ("a.c", "C"), ("d.e", "E")]) = .ok (.ofTable entries) ∧
      (Value.object entries).read? (.text "a.b") = some (.bool true) ∧
      (Value.object entries).has (.text "a.c") = false ∧
      (Value.object entries).has (.text "d.e") = false := by
  have flat : FlatBindings [("a.b", "B"), ("a.c", "C"), ("d.e", "E")] := by decide
  obtain ⟨entries, wrote, -, views, -⟩ :=
    environment_views_agree [] (some [("B", "on"), ("C", "")]) flat
  obtain ⟨hasB, readB⟩ := views "a.b" (by simp [Table.keys])
  obtain ⟨hasC, -⟩ := views "a.c" (by simp [Table.keys])
  obtain ⟨hasE, -⟩ := views "d.e" (by simp [Table.keys])
  refine ⟨entries, wrote, readB (hasB.mpr rfl), ?_, ?_⟩
  · rw [Bool.eq_false_iff, Ne, hasC]
    decide
  · rw [Bool.eq_false_iff, Ne, hasE]
    decide

end Layer

end StorageLayout
