import StorageLayout.Proofs.Path.Segments

namespace StorageLayout

theorem Anchor.ofSlashes_length (anchor : Anchor) : ofSlashes anchor.slashes.length = anchor := by
  cases anchor <;> rfl

namespace Pathname

/-- Whether a text is a component as it is: neither is it dropped nor does it end before its end. -/
def IsWhole (component : Codes) : Prop := isComponent component = true ∧ slash ∉ component

def IsNormal (path : Pathname) : Prop := ∀ component ∈ path.components, IsWhole component

theorem isNormal_parse (text : Codes) : (parse text).IsNormal := by
  intro component member
  obtain ⟨piece, whole⟩ := List.mem_filter.mp member
  exact ⟨whole, Text.notMem_of_mem_split piece⟩

theorem IsNormal.append {path : Pathname} (normal : path.IsNormal) {components : List Codes}
    (whole : ∀ component ∈ components, IsWhole component) :
    (path.append components).IsNormal := by
  intro component member
  rcases List.mem_append.mp member with old | new
  · exact normal component old
  · exact whole component new

theorem IsNormal.absolute {working path : Pathname} (normalWorking : working.IsNormal)
    (normal : path.IsNormal) : (Pathname.absolute working path).IsNormal := by
  rw [Pathname.absolute]
  split
  · exact normal
  · exact normalWorking.append normal

theorem components_behind_slashes (anchor : Anchor) (text : Codes) :
    (Text.split slash (anchor.slashes ++ text)).filter isComponent =
      (Text.split slash text).filter isComponent := by
  cases anchor <;> simp [Text.split, Anchor.slashes, isComponent]

section

variable {components : List Codes} (whole : ∀ component ∈ components, IsWhole component)

include whole

theorem components_intercalate :
    (Text.split slash ([slash].intercalate components)).filter isComponent = components := by
  cases components with
  | nil => rfl
  | cons first rest =>
    rw [Text.split_intercalate (by simp) fun component member => (whole component member).2,
      List.filter_eq_self.mpr fun component member => (whole component member).1]

theorem takeWhile_intercalate : ([slash].intercalate components).takeWhile (· = slash) = [] := by
  cases components with
  | nil => rfl
  | cons first rest =>
    obtain ⟨⟨isOne, noSlash⟩, -⟩ := List.forall_mem_cons.mp whole
    obtain ⟨tail, starts⟩ : ∃ tail, [slash].intercalate (first :: rest) = first ++ tail := by
      cases rest with
      | nil => exact ⟨[], by simp⟩
      | cons next later => exact ⟨_, by rw [List.intercalate_cons_cons, List.append_assoc]⟩
    rw [starts]
    cases first with
    | nil => simp [isComponent] at isOne
    | cons code codes =>
      have different : code ≠ slash := by
        rintro rfl
        exact noSlash List.mem_cons_self
      simp [different]

end

theorem parse_text {path : Pathname} (normal : path.IsNormal) : parse path.text = path := by
  obtain ⟨anchor, components⟩ := path
  rw [text]
  split
  · next here =>
    obtain ⟨isWorking, none⟩ := Bool.and_eq_true_iff.mp here
    obtain rfl : anchor = .working := by simpa using isWorking
    obtain rfl : components = [] := by simpa using none
    rfl
  · have slashes : ∀ code ∈ anchor.slashes, decide (code = slash) = true := by
      cases anchor <;> simp [Anchor.slashes]
    rw [parse, components_behind_slashes, components_intercalate normal,
      List.takeWhile_append_of_pos slashes, takeWhile_intercalate normal, List.append_nil,
      Anchor.ofSlashes_length]

theorem text_injective {left right : Pathname} (normalLeft : left.IsNormal)
    (normalRight : right.IsNormal) (same : left.text = right.text) : left = right := by
  rw [← parse_text normalLeft, same, parse_text normalRight]

theorem text_ne_empty {path : Pathname} (normal : path.IsNormal)
    (rooted : path.isAbsolute = true) : path.text ≠ [] := by
  intro empty
  rw [← parse_text normal, empty] at rooted
  exact absurd rooted (by decide)

end Pathname

end StorageLayout
