import StorageLayout.Config.Document
import StorageLayout.Proofs.Config.Places

namespace StorageLayout

namespace Value

/-- The lower entry of a merge with the upper one of its name, if there is one, laid over it. -/
def overlaid (above : Table Value) (entry : String × Value) : String × Value :=
  (entry.1, (Table.get? above entry.1).elim entry.2 entry.2.merge)

theorem mergeEntries_eq_map (below above : Table Value) :
    mergeEntries below above = below.map (overlaid above) := by
  induction below with
  | nil => simp [mergeEntries]
  | cons entry rest ih =>
    rw [mergeEntries, ih, List.map_cons, overlaid]
    cases Table.get? above entry.1 <;> rfl

theorem get?_mergeEntries (below above : Table Value) (name : String) :
    Table.get? (mergeEntries below above) name =
      (Table.get? below name).map fun old => (Table.get? above name).elim old old.merge := by
  rw [mergeEntries_eq_map]
  induction below with
  | nil => rfl
  | cons entry rest ih =>
    by_cases same : entry.1 = name
    · simp [Table.get?, overlaid, same]
    · simpa [Table.get?, overlaid, same] using ih

theorem get?_additions (below above : Table Value) (name : String) :
    Table.get? (above.filter fun entry => !Table.has below entry.1) name =
      if Table.has below name then none else Table.get? above name := by
  induction above with
  | nil => simp
  | cons entry rest ih =>
    by_cases same : entry.1 = name
    · subst same
      by_cases known : Table.has below entry.1 = true
      · simpa [List.filter_cons, known] using ih
      · simp [known, Table.get?]
    · by_cases known : Table.has below entry.1 = true
      · simpa [List.filter_cons, known, Table.get?, same] using ih
      · simpa [List.filter_cons, known, Table.get?, same] using ih

theorem merge_scalar (below : Value) {above : Value} (scalar : above.isMapping = false) :
    below.merge above = above := by
  cases above <;> cases below <;> simp_all [merge, isMapping, entries?]

theorem merge_over_scalar {below : Value} (scalar : below.isMapping = false) (above : Value) :
    below.merge above = above := by
  cases below <;> cases above <;> simp_all [merge, isMapping, entries?]

theorem isMapping_merge (below above : Value) : (below.merge above).isMapping = above.isMapping := by
  by_cases scalar : above.isMapping = false
  · rw [merge_scalar below scalar]
  · cases below <;> cases above <;> simp_all [merge, isMapping, entries?]

theorem child?_merge (below : Value) {above : Value} (mapping : above.isMapping = true)
    (name : String) :
    (below.merge above).child? name =
      match above.child? name with
      | some value => some ((below.child? name).elim value fun old => old.merge value)
      | none => below.child? name := by
  cases above with
  | mapping aboveAccess upper =>
    cases below with
    | mapping belowAccess lower =>
      simp only [merge, child?, Table.get?_append, get?_mergeEntries, get?_additions]
      unfold Table.has
      cases Table.get? lower name <;> cases Table.get? upper name <;> simp
    | _ => simp only [merge, child?]; cases Table.get? upper name <;> rfl
  | _ => simp [isMapping, entries?] at mapping

/-- Whether a document that is laid over others settles what is at a place: it holds an entry there,
or something that is no mapping on the way. -/
def Covers (value : Value) (place : List String) : Prop :=
  (value.at? place).isSome ∨
    ∃ higher child, higher <+: place ∧ higher ≠ place ∧ value.at? higher = some child ∧
      child.isMapping = false

theorem covers_nil (value : Value) : value.Covers [] := by
  left
  simp

theorem covers_cons {value : Value} {segment : String} {rest : List String} :
    value.Covers (segment :: rest) ↔
      value.isMapping = false ∨ ∃ child, value.child? segment = some child ∧ child.Covers rest := by
  constructor
  · rintro (held | ⟨higher, child, leads, proper, found, scalar⟩)
    · obtain ⟨target, reached⟩ := Option.isSome_iff_exists.mp held
      rw [at?_cons] at reached
      obtain ⟨child, entered, further⟩ := Option.bind_eq_some_iff.mp reached
      exact .inr ⟨child, entered, .inl (Option.isSome_of_eq_some further)⟩
    · cases higher with
      | nil =>
        rw [at?_nil] at found
        obtain rfl := Option.some.inj found
        exact .inl scalar
      | cons name more =>
        obtain ⟨rfl, leadsOn⟩ := List.cons_prefix_cons.mp leads
        rw [at?_cons] at found
        obtain ⟨inner, entered, further⟩ := Option.bind_eq_some_iff.mp found
        refine .inr ⟨inner, entered, .inr ⟨more, child, leadsOn, ?_, further, scalar⟩⟩
        rintro rfl
        exact proper rfl
  · rintro (scalar | ⟨child, entered, held | ⟨higher, inner, leads, proper, found, scalar⟩⟩)
    · exact .inr ⟨[], value, by simp, by simp, at?_nil value, scalar⟩
    · left
      rw [at?_cons, entered]
      exact held
    · refine .inr ⟨segment :: higher, inner, by simpa using leads, ?_, ?_, scalar⟩
      · simpa using proper
      · rw [at?_cons, entered]
        exact found

theorem at?_eq_none_of_not_covers {value : Value} {place : List String}
    (uncovered : ¬ value.Covers place) : value.at? place = none := by
  by_contra held
  exact uncovered (.inl (Option.isSome_iff_ne_none.mpr held))

theorem not_covers_new (segment : String) (rest : List String) :
    ¬ (object []).Covers (segment :: rest) := by
  intro covered
  rcases covers_cons.mp covered with scalar | ⟨child, entered, -⟩
  · cases scalar
  · cases entered

/-- What the upper document has at a place is laid over what the lower one has there. -/
theorem at?_merge_of_held (below : Value) {above value : Value} {place : List String}
    (held : above.at? place = some value) :
    (below.merge above).at? place =
      some ((below.at? place).elim value fun old => old.merge value) := by
  induction place generalizing below above with
  | nil =>
    rw [at?_nil] at held
    obtain rfl := Option.some.inj held
    simp
  | cons segment rest ih =>
    rw [at?_cons] at held
    obtain ⟨child, entered, further⟩ := Option.bind_eq_some_iff.mp held
    rw [at?_cons, child?_merge below (isMapping_of_child? entered), entered, at?_cons]
    cases below.child? segment with
    | none => simpa using further
    | some old => simpa using ih old further

theorem isMapping_of_merged {below above top value : Value} {place : List String}
    (held : above.at? place = some top) (shown : (below.merge above).at? place = some value) :
    value.isMapping = top.isMapping := by
  rw [at?_merge_of_held below held] at shown
  obtain rfl := Option.some.inj shown
  cases below.at? place with
  | none => rfl
  | some old => exact isMapping_merge old top

theorem at?_merge_of_scalar (below : Value) {above value : Value} {place : List String}
    (held : above.at? place = some value) (scalar : value.isMapping = false) :
    (below.merge above).at? place = some value := by
  rw [at?_merge_of_held below held]
  cases below.at? place with
  | none => rfl
  | some old => exact congrArg some (merge_scalar old scalar)

theorem eq_of_merged_scalar {below above top value : Value} {place : List String}
    (held : above.at? place = some top) (shown : (below.merge above).at? place = some value)
    (scalar : value.isMapping = false) : top = value := by
  have topScalar : top.isMapping = false := by rw [← isMapping_of_merged held shown, scalar]
  rw [at?_merge_of_scalar below held topScalar] at shown
  exact Option.some.inj shown

theorem at?_merge_of_covered (below : Value) {above : Value} {place : List String}
    (absent : above.at? place = none) (covered : above.Covers place) :
    (below.merge above).at? place = none := by
  induction place generalizing below above with
  | nil => simp at absent
  | cons segment rest ih =>
    rcases covers_cons.mp covered with scalar | ⟨child, entered, coveredBelow⟩
    · rw [merge_scalar below scalar, absent]
    · rw [at?_cons, entered] at absent
      rw [at?_cons, child?_merge below (isMapping_of_child? entered), entered]
      cases below.child? segment with
      | none => simpa using absent
      | some old => simpa using ih old absent coveredBelow

theorem at?_merge_of_uncovered (below : Value) {above : Value} {place : List String}
    (uncovered : ¬ above.Covers place) : (below.merge above).at? place = below.at? place := by
  induction place generalizing below above with
  | nil => exact absurd (covers_nil above) uncovered
  | cons segment rest ih =>
    have mapping : above.isMapping = true := by
      by_contra scalar
      exact uncovered (covers_cons.mpr (.inl (by simpa using scalar)))
    rw [at?_cons, child?_merge below mapping, at?_cons]
    cases entered : above.child? segment with
    | none => rfl
    | some child =>
      have uncoveredBelow : ¬ child.Covers rest := by
        intro covered
        exact uncovered (covers_cons.mpr (.inr ⟨child, entered, covered⟩))
      cases below.child? segment with
      | none => simpa using at?_eq_none_of_not_covers uncoveredBelow
      | some old => simpa using ih old uncoveredBelow

theorem outline_merge (below above : Value) :
    (below.merge above).outline =
      if below.isMapping && above.isMapping then object [] else above.outline := by
  cases below <;> cases above <;> simp [merge, outline, isMapping, entries?]

theorem outline_merge_congr (below : Value) {left right : Value}
    (outlines : left.outline = right.outline) :
    (below.merge left).outline = (below.merge right).outline := by
  have mappings : left.isMapping = right.isMapping := by
    rw [← isMapping_outline left, outlines, isMapping_outline]
  rw [outline_merge, outline_merge, mappings, outlines]

theorem Alike.merge {below above below' above' : Value} (lower : Alike below below')
    (upper : Alike above above') : Alike (below.merge above) (below'.merge above') := by
  intro place
  induction place generalizing below above below' above' with
  | nil =>
    simp only [at?_nil, Option.map_some, outline_merge, lower.isMapping, upper.isMapping,
      upper.outline]
  | cons segment rest ih =>
    by_cases mapping : above.isMapping = true
    · have mapping' : above'.isMapping = true := upper.isMapping ▸ mapping
      have lowers := lower.child? segment
      have uppers := upper.child? segment
      rw [at?_cons, at?_cons, child?_merge below mapping, child?_merge below' mapping']
      generalize below.child? segment = lowerEntry at lowers ⊢
      generalize below'.child? segment = lowerEntry' at lowers ⊢
      generalize above.child? segment = upperEntry at uppers ⊢
      generalize above'.child? segment = upperEntry' at uppers ⊢
      cases uppers with
      | none =>
        cases lowers with
        | none => rfl
        | some alike => exact alike rest
      | some alikeAbove =>
        cases lowers with
        | none => exact alikeAbove rest
        | some alikeBelow => exact ih alikeBelow alikeAbove
    · have scalar : above.isMapping = false := by simpa using mapping
      rw [merge_scalar below scalar, merge_scalar below' (upper.isMapping ▸ scalar)]
      exact upper (segment :: rest)

end Value

namespace Document

def root (document : Document) : Value := .object document.named

def isNamed (entry : EntryKey × Value) : Bool :=
  match entry.1 with
  | .name _ => true
  | .other _ => false

@[simp] theorem isNamed_name (text : String) (value : Value) :
    isNamed (.name text, value) = true := rfl

@[simp] theorem isNamed_other (key value : Value) : isNamed (.other key, value) = false := rfl

def others (document : Document) : List (EntryKey × Value) :=
  document.entries.filter fun entry => !isNamed entry

/-- Documents are alike if their named entries are and the other ones are the same. -/
structure Alike (left right : Document) : Prop where
  root : left.root.Alike right.root
  others : left.others = right.others

@[simp] theorem root_ofTable (entries : Table Value) : (ofTable entries).root = .object entries := by
  simp [root]

@[simp] theorem others_ofTable (entries : Table Value) : (ofTable entries).others = [] := by
  rw [others, List.filter_eq_nil_iff]
  intro entry member
  obtain ⟨original, -, rfl⟩ := List.mem_map.mp member
  simp

theorem find?_name (entries : List (EntryKey × Value)) (name : String) :
    find? entries (.name name) = Table.get? (named ⟨entries⟩) name := by
  induction entries with
  | nil => rfl
  | cons entry rest ih =>
    obtain ⟨key, value⟩ := entry
    cases key with
    | name text =>
      by_cases same : text = name <;>
        simp_all [find?, EntryKey.same, named, Table.get?]
    | other key => simpa [find?, EntryKey.same, named] using ih

theorem find?_other (entries : List (EntryKey × Value)) (key : Value) :
    find? entries (.other key) = find? (others ⟨entries⟩) (.other key) := by
  induction entries with
  | nil => rfl
  | cons entry rest ih =>
    obtain ⟨known, value⟩ := entry
    cases known with
    | name text => simpa [find?, EntryKey.same, others] using ih
    | other known =>
      simp only [others] at ih
      simp [find?, others, isNamed, ih]

private theorem named_append (left right : List (EntryKey × Value)) :
    named ⟨left ++ right⟩ = named ⟨left⟩ ++ named ⟨right⟩ := by
  simp [named]

private theorem named_overlaid (above : Document) (entries : List (EntryKey × Value)) :
    named ⟨entries.map above.overlaid⟩ = Value.mergeEntries (named ⟨entries⟩) above.named := by
  rw [Value.mergeEntries_eq_map]
  induction entries with
  | nil => rfl
  | cons entry rest ih =>
    obtain ⟨key, value⟩ := entry
    cases key with
    | name text =>
      have found : above.get? (.name text) = Table.get? above.named text := find?_name _ _
      simpa [named, overlaid, Value.overlaid, found] using ih
    | other key => simpa [named, overlaid] using ih

private theorem named_additions (below : Document) (entries : List (EntryKey × Value)) :
    named ⟨entries.filter fun entry => (below.get? entry.1).isNone⟩ =
      (named ⟨entries⟩).filter fun entry => !Table.has below.named entry.1 := by
  induction entries with
  | nil => rfl
  | cons entry rest ih =>
    obtain ⟨key, value⟩ := entry
    cases key with
    | name text =>
      have found : below.get? (.name text) = Table.get? below.named text := find?_name _ _
      cases known : Table.get? below.named text <;>
        simp_all [named, Table.has]
    | other key =>
      by_cases known : (below.get? (.other key)).isNone = true
      · simpa [named, List.filter_cons, known] using ih
      · simpa [named, List.filter_cons, known] using ih

theorem root_merge (below above : Document) :
    (below.merge above).root = below.root.merge above.root := by
  rw [root, root, root, Value.merge, merge, named_append, named_overlaid, named_additions]

theorem otherKeys_merge_ofTable (below : Document) (entries : Table Value) :
    (below.merge (ofTable entries)).otherKeys = below.otherKeys := by
  have additions : otherKeys
      ⟨(ofTable entries).entries.filter fun entry => (below.get? entry.1).isNone⟩ = [] := by
    rw [otherKeys, List.filterMap_eq_nil_iff]
    intro entry member
    obtain ⟨original, -, rfl⟩ := List.mem_map.mp (List.mem_filter.mp member).1
    rfl
  have kept : otherKeys ⟨below.entries.map (ofTable entries).overlaid⟩ = below.otherKeys := by
    simp [otherKeys, List.filterMap_map, Function.comp_def, overlaid]
  rw [otherKeys] at additions kept
  rw [otherKeys, Document.merge, List.filterMap_append, additions, kept, List.append_nil]

private theorem others_append (left right : List (EntryKey × Value)) :
    others ⟨left ++ right⟩ = others ⟨left⟩ ++ others ⟨right⟩ := by
  simp [others]

private theorem others_overlaid (above : Document) (entries : List (EntryKey × Value)) :
    others ⟨entries.map above.overlaid⟩ =
      (others ⟨entries⟩).map (overlaid ⟨above.others⟩) := by
  induction entries with
  | nil => rfl
  | cons entry rest ih =>
    obtain ⟨key, value⟩ := entry
    cases key with
    | name text => simpa [others, overlaid] using ih
    | other key =>
      have found : above.get? (.other key) = get? ⟨above.others⟩ (.other key) := find?_other _ _
      simp only [others] at found ih
      simp [others, overlaid, found, ih]

private theorem others_additions (below : Document) (entries : List (EntryKey × Value)) :
    others ⟨entries.filter fun entry => (below.get? entry.1).isNone⟩ =
      (others ⟨entries⟩).filter fun entry => (find? below.others entry.1).isNone := by
  simp only [others, List.filter_filter]
  apply List.filter_congr
  rintro ⟨key, value⟩ -
  cases key with
  | name text => simp
  | other key =>
    have found : below.get? (.other key) = find? below.others (.other key) := find?_other _ _
    simp [found, others]

private theorem others_merge (below above : Document) :
    (below.merge above).others =
      below.others.map (overlaid ⟨above.others⟩) ++
        above.others.filter fun entry => (find? below.others entry.1).isNone := by
  rw [Document.merge, others_append, others_overlaid, others_additions]

theorem Alike.merge {below above below' above' : Document} (lower : Alike below below')
    (upper : Alike above above') : Alike (below.merge above) (below'.merge above') := by
  constructor
  · rw [root_merge, root_merge]
    exact lower.root.merge upper.root
  · rw [others_merge, others_merge, lower.others, upper.others]

end Document

end StorageLayout
