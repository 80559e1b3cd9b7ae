import StorageLayout.Config.Store
import StorageLayout.Proofs.Config.Bindings
import StorageLayout.Proofs.Config.Merge
import StorageLayout.Proofs.Config.Reading

/-! Reading a key layer by layer and reading it from the effective document. Both give the same as
long as what is read is no section, except where a layer above the one that answers covers the key
in its document without having a value for it. -/

namespace StorageLayout

namespace Value

def IsLeaf (value : Value) : Prop := value.isNull = false ∧ value.isMapping = false

theorem at?_object (access : Access) (entries : Table Value) (segment : String)
    (rest : List String) :
    (mapping access entries).at? (segment :: rest) = (object entries).at? (segment :: rest) := by
  rw [at?_cons, at?_cons]
  rfl

end Value

namespace Layer

/-- What those who make a layer promise: constants and documents are mappings, and bound keys are
flat. -/
def IsDeclared : Layer → Prop
  | overrides _ => True
  | constants data => data.isMapping = true
  | document _ data => data.isMapping = true
  | environment _ bindings => FlatBindings bindings

/-- A layer reads as its document does, except that it may keep quiet about sections. -/
structure ReadsAs (process : Environment) (layer : Layer) (document : Document) (text : String)
    (key : Key) : Prop where
  leaf : ∀ {value : Value}, document.root.at? key.segments = some value →
    value.isMapping = false → layer.get process text = value
  held : (layer.get process text).isNull = false →
    document.root.at? key.segments = some (layer.get process text)

private theorem readsAs_mapping {process : Environment} {layer : Layer} {access : Access}
    {entries : Table Value} {text : String} {key : Key} (parsed : Key.parse text = .ok key)
    (reads : layer.get process text = (Value.mapping access entries).read text) :
    ReadsAs process layer (.ofTable entries) text key := by
  have get_eq : layer.get process text = ((Value.object entries).at? key.segments).getD .null := by
    rw [reads, Value.read_eq _ parsed]
    exact congrArg (Option.getD · .null) (Value.at?_object access entries key.first key.rest)
  constructor
  · intro value found _
    rw [Document.root_ofTable] at found
    rw [get_eq, found]
    rfl
  · intro present
    rw [Document.root_ofTable]
    rw [get_eq] at present ⊢
    cases found : (Value.object entries).at? key.segments with
    | none => simp [found, Value.isNull] at present
    | some value => rfl

private theorem copied_mapping {access : Access} {entries : Table Value} {document : Document}
    (laidOut : copied (.mapping access entries) = .ok document) :
    document = .ofTable entries := by
  unfold copied at laidOut
  simp only [Value.toDocument] at laidOut
  split at laidOut
  · exact (Except.ok.inj laidOut).symm
  · cases laidOut

private theorem readsAs_copied {process : Environment} {layer : Layer} {data : Value}
    {document : Document} {text : String} {key : Key} (mapping : data.isMapping = true)
    (laidOut : copied data = .ok document) (parsed : Key.parse text = .ok key)
    (reads : layer.get process text = data.read text) :
    ReadsAs process layer document text key := by
  cases data with
  | mapping access entries =>
    obtain rfl := copied_mapping laidOut
    exact readsAs_mapping parsed reads
  | _ => cases mapping

/-- Layers that are made as promised read as their documents do. -/
theorem readsAs_of_toDocument {process : Environment} {layer : Layer} {document : Document}
    {text : String} {key : Key} (declared : layer.IsDeclared)
    (laidOut : layer.toDocument process = .ok document) (parsed : Key.parse text = .ok key) :
    ReadsAs process layer document text key := by
  cases layer with
  | overrides entries =>
    obtain rfl := Except.ok.inj laidOut
    have reads : (overrides entries).get process text = (Value.mapping .writable entries).read text := rfl
    exact readsAs_mapping parsed reads
  | constants data => exact readsAs_copied declared laidOut parsed rfl
  | document path data => exact readsAs_copied declared laidOut parsed rfl
  | environment source bindings =>
    obtain ⟨written, wrote, laid⟩ := toDocument_environment process source declared
    obtain rfl := Except.ok.inj (wrote.symm.trans laidOut)
    constructor
    · intro value found scalar
      rw [Document.root_ofTable] at found
      obtain ⟨other, -, otherKey, otherParsed, -, ⟨same, rfl⟩ | ⟨mapping, -⟩⟩ :=
        laid.noOther (List.cons_ne_nil _ _) found
      · obtain rfl := Key.eq_of_segments same
        rw [Key.text_eq_of_parse parsed otherParsed]
        rfl
      · rw [mapping] at scalar
        cases scalar
    · intro present
      rw [Document.root_ofTable]
      exact laid.held (mem_keys_of_boundValue present) parsed present

end Layer

namespace Store

section

variable {process : Environment}

theorem mergeOver_cons_eq_ok {document result : Document} {layer : Layer} {above : List Layer} :
    mergeOver process document (layer :: above) = .ok result ↔
      ∃ upper, layer.toDocument process = .ok upper ∧
        mergeOver process (document.merge upper) above = .ok result := by
  rw [mergeOver]
  cases layer.toDocument process <;> simp

theorem exists_mergeOver (document : Document) {layers : List Layer}
    (laidOut : ∀ layer ∈ layers, ∃ upper, layer.toDocument process = .ok upper) :
    ∃ result, mergeOver process document layers = .ok result := by
  induction layers generalizing document with
  | nil => exact ⟨document, rfl⟩
  | cons layer above ih =>
    obtain ⟨upper, here⟩ := laidOut layer (by simp)
    obtain ⟨result, merged⟩ := ih (document.merge upper)
      fun other member => laidOut other (by simp [member])
    exact ⟨result, mergeOver_cons_eq_ok.mpr ⟨upper, here, merged⟩⟩

variable (process) in
def CoveredBy (layers : List Layer) (place : List String) : Prop :=
  ∃ layer ∈ layers, ∃ document, layer.toDocument process = .ok document ∧
    document.root.Covers place

/-- What no layer covers shows from below. -/
theorem at?_mergeOver_of_uncovered {document result : Document} {layers : List Layer}
    {place : List String} (merged : mergeOver process document layers = .ok result)
    (uncovered : ¬ CoveredBy process layers place) :
    result.root.at? place = document.root.at? place := by
  induction layers generalizing document with
  | nil =>
    obtain rfl := Except.ok.inj merged
    rfl
  | cons layer above ih =>
    obtain ⟨upper, here, mergedAbove⟩ := mergeOver_cons_eq_ok.mp merged
    have uncoveredAbove : ¬ CoveredBy process above place := by
      rintro ⟨other, member, covers⟩
      exact uncovered ⟨other, List.mem_cons_of_mem _ member, covers⟩
    rw [ih mergedAbove uncoveredAbove, Document.root_merge]
    exact Value.at?_merge_of_uncovered _
      fun covers => uncovered ⟨layer, List.mem_cons_self, upper, here, covers⟩

/-- A leaf of the effective document is what the topmost layer with a value for its key has, or it
shows from below all layers. -/
theorem find?_of_leaf {document result : Document} {layers : List Layer} {text : String}
    {key : Key} {value : Value} (declared : ∀ layer ∈ layers, layer.IsDeclared)
    (parsed : Key.parse text = .ok key) (merged : mergeOver process document layers = .ok result)
    (leaf : value.IsLeaf) (shown : result.root.at? key.segments = some value) (index : Nat) :
    (∃ place, find? process text index layers = some (place, value)) ∨
      find? process text index layers = none ∧ document.root.at? key.segments = some value ∧
        ¬ CoveredBy process layers key.segments := by
  induction layers generalizing document index with
  | nil =>
    obtain rfl := Except.ok.inj merged
    exact .inr ⟨rfl, shown, by simp [CoveredBy]⟩
  | cons layer above ih =>
    obtain ⟨upper, here, mergedAbove⟩ := mergeOver_cons_eq_ok.mp merged
    have reads := Layer.readsAs_of_toDocument (declared layer (by simp)) here parsed
    rcases ih (fun other member => declared other (by simp [member])) mergedAbove (index + 1)
      with ⟨place, found⟩ | ⟨notFound, shownBelow, uncovered⟩
    · left
      exact ⟨place, by rw [find?, found]⟩
    · rw [Document.root_merge] at shownBelow
      by_cases covers : upper.root.Covers key.segments
      · left
        cases held : upper.root.at? key.segments with
        | none =>
          rw [Value.at?_merge_of_covered _ held covers] at shownBelow
          cases shownBelow
        | some top =>
          obtain rfl := Value.eq_of_merged_scalar held shownBelow leaf.2
          have get_eq := reads.leaf held leaf.2
          exact ⟨index, by simp [find?, notFound, get_eq, leaf.1]⟩
      · right
        rw [Value.at?_merge_of_uncovered _ covers] at shownBelow
        have quiet : (layer.get process text).isNull = true := by
          by_contra present
          have held := reads.held (by simpa using present)
          exact covers (.inl (Option.isSome_of_eq_some held))
        refine ⟨by simp [find?, notFound, quiet], shownBelow, ?_⟩
        rintro ⟨other, member, document', laidOut, coversOther⟩
        rcases List.mem_cons.mp member with rfl | later
        · obtain rfl := Except.ok.inj (laidOut.symm.trans here)
          exact covers coversOther
        · exact uncovered ⟨other, later, document', laidOut, coversOther⟩

/-- A leaf that the topmost layer with a value for a key has is in the effective document exactly if
no layer above covers the key. -/
theorem shown_iff_uncovered {document result : Document} {layers : List Layer} {text : String}
    {key : Key} {value : Value} (declared : ∀ layer ∈ layers, layer.IsDeclared)
    (parsed : Key.parse text = .ok key) (merged : mergeOver process document layers = .ok result)
    (leaf : value.IsLeaf) {index place : Nat}
    (found : find? process text index layers = some (place, value)) :
    result.root.at? key.segments = some value ↔
      ¬ CoveredBy process (layers.drop (place + 1 - index)) key.segments := by
  induction layers generalizing document index with
  | nil => cases found
  | cons layer above ih =>
    obtain ⟨upper, here, mergedAbove⟩ := mergeOver_cons_eq_ok.mp merged
    have declaredAbove : ∀ other ∈ above, other.IsDeclared := by
      intro other member
      exact declared other (by simp [member])
    rw [find?] at found
    cases later : find? process text (index + 1) above with
    | some other =>
      rw [later] at found
      obtain rfl := Option.some.inj found
      have bound := (find?_spec later).1
      have steps : place + 1 - index = (place + 1 - (index + 1)) + 1 := by omega
      rw [ih declaredAbove mergedAbove later, steps, List.drop_succ_cons]
    | none =>
      simp only [later] at found
      split at found
      · cases found
      · next present =>
        simp only [Option.some.injEq, Prod.mk.injEq] at found
        obtain ⟨rfl, rfl⟩ := found
        have one : index + 1 - index = 1 := by omega
        rw [one, List.drop_succ_cons, List.drop_zero]
        constructor
        · intro shown
          rcases find?_of_leaf declaredAbove parsed mergedAbove leaf shown (index + 1) with
            ⟨other, foundAbove⟩ | ⟨-, -, uncovered⟩
          · rw [later] at foundAbove
            cases foundAbove
          · exact uncovered
        · intro uncovered
          have reads := Layer.readsAs_of_toDocument (declared layer (by simp)) here parsed
          have held := reads.held leaf.1
          rw [at?_mergeOver_of_uncovered mergedAbove uncovered, Document.root_merge]
          exact Value.at?_merge_of_scalar _ held leaf.2

end

/-- Whether a layer above a given one holds an entry at a key in its document, or something that is
no mapping on the way to it. -/
def CoveredAbove (process : Environment) (store : Store) (place : Nat) (key : Key) : Prop :=
  ∃ above layer document, place < above ∧ store.layers[above]? = some layer ∧
    layer.toDocument process = .ok document ∧ document.root.Covers key.segments

theorem coveredBy_drop_iff {process : Environment} {store : Store} {place : Nat} {key : Key} :
    CoveredBy process (store.layers.drop (place + 1)) key.segments ↔
      store.CoveredAbove process place key := by
  constructor
  · rintro ⟨layer, member, document, laidOut, covers⟩
    obtain ⟨offset, found⟩ := List.mem_iff_getElem?.mp member
    rw [List.getElem?_drop] at found
    exact ⟨place + 1 + offset, layer, document, by omega, found, laidOut, covers⟩
  · rintro ⟨above, layer, document, higher, found, laidOut, covers⟩
    refine ⟨layer, List.mem_iff_getElem?.mpr ⟨above - (place + 1), ?_⟩, document, laidOut, covers⟩
    rw [List.getElem?_drop]
    rwa [Nat.add_sub_cancel' higher]

/-- A key reads as the leaf that the effective document has for it. -/
theorem get_of_leaf {process : Environment} {store : Store} {document : Document} {text : String}
    {key : Key} {value : Value} (declared : ∀ layer ∈ store.layers, layer.IsDeclared)
    (parsed : Key.parse text = .ok key) (merged : store.merged process = .ok document)
    (leaf : value.IsLeaf) (shown : document.root.at? key.segments = some value) :
    store.get process text = value := by
  rcases find?_of_leaf declared parsed merged leaf shown 0 with
    ⟨place, found⟩ | ⟨-, shownBelow, -⟩
  · rw [get, found]
    rfl
  · have nothing : Document.empty.root.at? key.segments = none := Value.at?_new ..
    rw [nothing] at shownBelow
    cases shownBelow

/-- Reading a key layer by layer and reading it from the effective document give the same leaf. A
leaf that the topmost layer with a value has is missing from the effective document exactly if a
layer above covers its key. -/
theorem get_agrees_with_merged (process : Environment) (store : Store)
    (declared : ∀ layer ∈ store.layers, layer.IsDeclared)
    (laidOut : ∀ layer ∈ store.layers, ∃ document, layer.toDocument process = .ok document)
    {text : String} {key : Key} (parsed : Key.parse text = .ok key) :
    ∃ document, store.merged process = .ok document ∧
      (∀ value, document.root.get? key = some value → value.IsLeaf →
        store.get process text = value) ∧
      ∀ place value, find? process text 0 store.layers = some (place, value) → value.IsLeaf →
        (document.root.get? key = some value ↔ ¬ store.CoveredAbove process place key) := by
  obtain ⟨document, merged⟩ := exists_mergeOver .empty laidOut
  refine ⟨document, merged, ?_, ?_⟩
  · intro value shown leaf
    exact get_of_leaf declared parsed merged leaf shown
  · intro place value found leaf
    rw [← coveredBy_drop_iff]
    exact shown_iff_uncovered declared parsed merged leaf found

/-- A store in which null in the overrides stands over a variable. -/
def overwrittenByNull : Store where
  space := "overwritten"
  validator := none
  layers :=
    [.constants (.object [("a", .object [("b", .int 1)])]),
     .environment (some [("B", "on")]) [("a.b", "B")],
     .overrides [("a", .object [("b", .null)])]]
  listeners := []

/-- Null is no value for a read, but covers its key in the effective document. -/
theorem get_agrees_with_merged_under_null :
    overwrittenByNull.get [] "a.b" = .bool true ∧
      ∃ document, overwrittenByNull.merged [] = .ok document ∧
        document.root.get? ⟨"a", ["b"]⟩ ≠ some (.bool true) := by
  have flat : Layer.FlatBindings [("a.b", "B")] := by
    constructor
    · intro text member
      obtain rfl := List.mem_singleton.mp member
      exact ⟨⟨"a", ["b"]⟩, rfl⟩
    · intro left right leftKey rightKey leftBound rightBound leftParsed rightParsed _
      obtain rfl := List.mem_singleton.mp leftBound
      obtain rfl := List.mem_singleton.mp rightBound
      exact Except.ok.inj (leftParsed.symm.trans rightParsed)
  have declared : ∀ layer ∈ overwrittenByNull.layers, layer.IsDeclared := by
    simp [overwrittenByNull, Layer.IsDeclared, flat, Value.isMapping, Value.entries?]
  have laidOut : ∀ layer ∈ overwrittenByNull.layers,
      ∃ document, layer.toDocument [] = .ok document := by
    simp only [overwrittenByNull, List.forall_mem_cons]
    exact ⟨⟨_, rfl⟩, ⟨_, rfl⟩, ⟨_, rfl⟩, by simp⟩
  have parsed : Key.parse "a.b" = .ok ⟨"a", ["b"]⟩ := rfl
  obtain ⟨document, merged, -, shows⟩ :=
    get_agrees_with_merged [] overwrittenByNull declared laidOut parsed
  have found : find? [] "a.b" 0 overwrittenByNull.layers = some (1, .bool true) := rfl
  refine ⟨by rw [get, found]; rfl, document, merged, fun shown => ?_⟩
  have covered : overwrittenByNull.CoveredAbove [] 1 ⟨"a", ["b"]⟩ :=
    ⟨2, .overrides [("a", .object [("b", .null)])], _, by decide, rfl, rfl, .inl rfl⟩
  exact (shows 1 (.bool true) found ⟨rfl, rfl⟩).mp shown covered

end Store

end StorageLayout
