import StorageLayout.Config.Store

namespace StorageLayout

namespace Store

section

variable {process : Environment} {text : String}

theorem find?_spec {index place : Nat} {value : Value} {layers : List Layer}
    (found : find? process text index layers = some (place, value)) :
    index ≤ place ∧ place < index + layers.length ∧ value.isNull = false := by
  induction layers generalizing index with
  | nil => cases found
  | cons layer above ih =>
    rw [find?] at found
    split at found
    · next later =>
      obtain rfl := Option.some.inj found
      obtain ⟨lower, upper, present⟩ := ih later
      rw [List.length_cons]
      exact ⟨by omega, by omega, present⟩
    · dsimp only at found
      split at found
      · cases found
      · next present =>
        obtain ⟨rfl, rfl⟩ := Prod.mk.inj (Option.some.inj found)
        exact ⟨Nat.le_refl _, by simp, by simpa using present⟩

theorem find?_layer {index place : Nat} {value : Value} {layers : List Layer}
    (found : find? process text index layers = some (place, value)) :
    ∃ layer, layers[place - index]? = some layer ∧ layer.get process text = value := by
  induction layers generalizing index with
  | nil => cases found
  | cons layer above ih =>
    rw [find?] at found
    split at found
    · next later =>
      obtain rfl := Option.some.inj found
      have behind := (find?_spec later).1
      obtain ⟨other, there, reads⟩ := ih later
      refine ⟨other, ?_, reads⟩
      obtain ⟨offset, rfl⟩ := Nat.exists_eq_add_of_le behind
      rw [Nat.add_assoc, Nat.add_sub_cancel_left, Nat.add_comm, List.getElem?_cons_succ]
      rwa [Nat.add_sub_cancel_left] at there
    · dsimp only at found
      split at found
      · cases found
      · obtain ⟨rfl, rfl⟩ := Prod.mk.inj (Option.some.inj found)
        exact ⟨layer, by rw [Nat.sub_self, List.getElem?_cons_zero], rfl⟩

variable (process text)

/-- What a key reads as in a stack of layers. -/
def valueIn : List Layer → Value
  | [] => .null
  | layer :: above =>
    if (valueIn above).isNull then layer.get process text else valueIn above

theorem find?_value (index : Nat) (layers : List Layer) :
    ((find? process text index layers).map Prod.snd).getD .null = valueIn process text layers := by
  induction layers generalizing index with
  | nil => rfl
  | cons layer above ih =>
    rw [find?, valueIn, ← ih (index + 1)]
    cases found : find? process text (index + 1) above with
    | none =>
      have nothing : (((none : Option (Nat × Value)).map Prod.snd).getD .null).isNull = true := rfl
      rw [if_pos nothing]
      dsimp only
      by_cases null : (layer.get process text).isNull = true
      · rw [if_pos null, Value.eq_null_of_isNull null]
        rfl
      · rw [if_neg null]
        rfl
    | some entry =>
      have present := (find?_spec found).2.2
      simp [present]

theorem get_eq_valueIn (store : Store) :
    store.get process text = valueIn process text store.layers :=
  find?_value process text 0 store.layers

theorem valueIn_append (lower upper : List Layer) :
    valueIn process text (lower ++ upper) =
      if (valueIn process text upper).isNull then valueIn process text lower
      else valueIn process text upper := by
  induction lower with
  | nil =>
    by_cases null : (valueIn process text upper).isNull = true
    · simpa [null, valueIn] using Value.eq_null_of_isNull null
    · simp [null]
  | cons layer rest ih =>
    rw [List.cons_append, valueIn, ih]
    by_cases null : (valueIn process text upper).isNull = true
    · simp [null, valueIn]
    · simp [null]

theorem find?_append_singleton (index : Nat) (lower : List Layer) (top : Layer) :
    find? process text index (lower ++ [top]) =
      if (top.get process text).isNull then find? process text index lower
      else some (index + lower.length, top.get process text) := by
  induction lower generalizing index with
  | nil => simp [find?]
  | cons layer rest ih =>
    rw [List.cons_append, find?, ih, find?, List.length_cons]
    by_cases null : (top.get process text).isNull = true
    · simp only [null, if_true]
    · simp only [null, if_false, Bool.false_eq_true]
      rw [Nat.add_right_comm, Nat.add_assoc]

end

section

variable {process : Environment} {text : String}

theorem get_congr {left right : Store} (same : left.layers = right.layers) :
    left.get process text = right.get process text := by
  rw [get, get, same]

end

section

variable {process : Environment} {lower : List Layer} {entries : Table Value}

theorem overrideLayer?_append (store : Store)
    (layers : store.layers = lower ++ [.overrides entries]) :
    store.overrideLayer? = some (lower.length, .overrides entries) := by
  rw [overrideLayer?, layers, List.zipIdx_append, List.reverse_append, Nat.zero_add]
  rfl

theorem mergeOver_append (document : Document) (lower upper : List Layer) :
    mergeOver process document (lower ++ upper) =
      (mergeOver process document lower).bind fun below => mergeOver process below upper := by
  induction lower generalizing document with
  | nil => rfl
  | cons layer rest ih =>
    rw [List.cons_append, mergeOver, mergeOver]
    cases layer.toDocument process with
    | error failure => rfl
    | ok laidOut => exact ih (document.merge laidOut)

theorem mergeOver_congr {other : Environment} {layers : List Layer}
    (same : ∀ layer ∈ layers, layer.toDocument process = layer.toDocument other)
    (document : Document) :
    mergeOver process document layers = mergeOver other document layers := by
  induction layers generalizing document with
  | nil => rfl
  | cons layer rest ih =>
    rw [mergeOver, mergeOver, same layer List.mem_cons_self]
    cases layer.toDocument other with
    | error failure => rfl
    | ok laidOut =>
      apply ih
      intro later member
      exact same later (List.mem_cons_of_mem _ member)

theorem merged_append {store : Store} (layers : store.layers = lower ++ [.overrides entries]) :
    store.merged process =
      (mergeOver process .empty lower).map fun below => below.merge (.ofTable entries) := by
  rw [merged, layers, mergeOver_append]
  cases mergeOver process .empty lower <;> rfl

theorem get_append {store : Store} (layers : store.layers = lower ++ [.overrides entries])
    (text : String) :
    store.get process text =
      if ((Value.object entries).read text).isNull then valueIn process text lower
      else (Value.object entries).read text := by
  rw [get_eq_valueIn, layers]
  exact valueIn_append process text lower [.overrides entries]

theorem layers_withLayer_append {store : Store}
    (layers : store.layers = lower ++ [.overrides entries]) (layer : Layer) :
    (store.withLayer lower.length layer).layers = lower ++ [layer] := by
  simp [withLayer, layers]

end

end Store

end StorageLayout
