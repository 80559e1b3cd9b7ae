import StorageLayout.Config.Key
import StorageLayout.Proofs.Text.Split

namespace StorageLayout

namespace Text

theorem intercalate_splitAt (separator : Char) (text : String) :
    (String.singleton separator).intercalate (splitAt separator text) = text := by
  apply String.toList_injective
  rw [String.toList_intercalate, splitAt, List.map_map]
  simp [Function.comp_def, intercalate_split]

theorem splitAt_ne_nil (separator : Char) (text : String) : splitAt separator text ≠ [] := by
  simpa [splitAt] using split_ne_nil separator text.toList

theorem splitAt_append (separator : Char) (left right : String) :
    splitAt separator (left ++ String.singleton separator ++ right) =
      splitAt separator left ++ splitAt separator right := by
  simp [splitAt, split_append]

end Text

namespace Key

theorem segments_of_parse {text : String} {key : Key} (parsed : parse text = .ok key) :
    key.segments = Text.splitAt '.' text := by
  unfold parse at parsed
  split at parsed
  · cases parsed
  · split at parsed
    · cases parsed
    · next first rest pieces =>
      split at parsed
      · cases parsed
      · cases parsed
        exact pieces.symm

theorem dotted_of_parse {text : String} {key : Key} (parsed : parse text = .ok key) :
    key.dotted = text := by
  rw [dotted, segments_of_parse parsed]
  exact Text.intercalate_splitAt '.' text

theorem text_eq_of_parse {left right : String} {key : Key} (leftParsed : parse left = .ok key)
    (rightParsed : parse right = .ok key) : left = right := by
  rw [← dotted_of_parse leftParsed, dotted_of_parse rightParsed]

theorem eq_of_segments {left right : Key} (same : left.segments = right.segments) :
    left = right := by
  obtain ⟨first, rest⟩ := left
  obtain ⟨first', rest'⟩ := right
  simpa [segments] using same

theorem parse_eq_ok_iff {text : String} {key : Key} :
    parse text = .ok key ↔ key.segments = Text.splitAt '.' text ∧ "" ∉ Text.splitAt '.' text := by
  obtain ⟨first, rest⟩ := key
  unfold parse
  split
  · next empty =>
    subst empty
    simp [Text.splitAt, Text.split]
  · cases pieces : Text.splitAt '.' text with
    | nil => simp [segments]
    | cons name more =>
      by_cases hollow : "" ∈ name :: more
      · simp [hollow]
      · simp [hollow, segments, eq_comm]

theorem exists_parse_iff {text : String} :
    (∃ key, parse text = .ok key) ↔ "" ∉ Text.splitAt '.' text := by
  constructor
  · rintro ⟨key, parsed⟩
    exact (parse_eq_ok_iff.mp parsed).2
  · intro full
    obtain ⟨first, rest, pieces⟩ := List.exists_cons_of_ne_nil (Text.splitAt_ne_nil '.' text)
    exact ⟨⟨first, rest⟩, parse_eq_ok_iff.mpr ⟨pieces.symm, full⟩⟩

theorem exists_error_iff {text : String} :
    (∃ problem, parse text = .error problem) ↔ "" ∈ Text.splitAt '.' text := by
  rw [← Decidable.not_not (p := "" ∈ _), ← exists_parse_iff]
  cases parse text <;> simp

theorem segments_append {text rest : String} {key longer : Key} (parsed : parse text = .ok key)
    (parsedLonger : parse (text ++ "." ++ rest) = .ok longer) :
    longer.segments = key.segments ++ Text.splitAt '.' rest := by
  rw [segments_of_parse parsed, segments_of_parse parsedLonger]
  exact Text.splitAt_append '.' text rest

end Key

end StorageLayout
