namespace StorageLayout.Text

section

variable {α : Type}

def extendFirst (item : α) : List (List α) → List (List α)
  | [] => [[item]]
  | piece :: pieces => (item :: piece) :: pieces

theorem extendFirst_ne_nil (item : α) (pieces : List (List α)) : extendFirst item pieces ≠ [] := by
  cases pieces <;> simp [extendFirst]

variable [DecidableEq α]

/-- The pieces between the separators, empty ones included. -/
def split (separator : α) : List α → List (List α)
  | [] => [[]]
  | item :: items =>
    if item = separator then [] :: split separator items
    else extendFirst item (split separator items)

theorem split_ne_nil (separator : α) (items : List α) : split separator items ≠ [] := by
  cases items with
  | nil => simp [split]
  | cons item items =>
    unfold split
    split
    · simp
    · exact extendFirst_ne_nil item _

end

/-- The pieces of a text between the separators, empty ones included. -/
def splitAt (separator : Char) (text : String) : List String :=
  (split separator text.toList).map String.ofList

end StorageLayout.Text
