namespace StorageLayout

/-- Entries in insertion order; a key counts at its first place. -/
abbrev Table (α : Type) := List (String × α)

namespace Table

variable {α : Type}

def get? : Table α → String → Option α
  | [], _ => none
  | (name, value) :: rest, key => if name = key then some value else get? rest key

def has (entries : Table α) (key : String) : Bool := (get? entries key).isSome

/-- Replaces the value under a key in place, or adds the entry at the end. -/
def set : Table α → String → α → Table α
  | [], key, value => [(key, value)]
  | (name, old) :: rest, key, value =>
    if name = key then (key, value) :: rest else (name, old) :: set rest key value

def erase (entries : Table α) (key : String) : Table α :=
  entries.filter fun entry => entry.1 ≠ key

/-- Adds entries one by one, later ones replacing earlier ones with the same key. -/
def setAll (entries additions : Table α) : Table α :=
  additions.foldl (fun table entry => set table entry.1 entry.2) entries

def ofPairs (pairs : List (String × α)) : Table α := setAll [] pairs

def keys (entries : Table α) : List String := entries.map Prod.fst

@[simp] theorem get?_nil (key : String) : get? ([] : Table α) key = none := rfl

@[simp] theorem get?_set_same (entries : Table α) (key : String) (value : α) :
    get? (set entries key value) key = some value := by
  induction entries with
  | nil => simp [set, get?]
  | cons entry rest ih =>
    by_cases same : entry.1 = key <;> simp [set, get?, same, ih]

theorem get?_set_other (entries : Table α) {key other : String} (value : α)
    (different : key ≠ other) : get? (set entries key value) other = get? entries other := by
  induction entries with
  | nil => simp [set, get?, different]
  | cons entry rest ih =>
    by_cases same : entry.1 = key
    · simp [set, get?, same, different]
    · by_cases found : entry.1 = other
      · simp [set, get?, found, different.symm]
      · simp [set, get?, same, found, ih]

@[simp] theorem get?_erase_same (entries : Table α) (key : String) :
    get? (erase entries key) key = none := by
  induction entries with
  | nil => rfl
  | cons entry rest ih =>
    unfold erase at ih ⊢
    by_cases same : entry.1 = key
    · simpa [List.filter, same] using ih
    · simpa [List.filter, same, get?] using ih

theorem get?_erase_other (entries : Table α) {key other : String} (different : key ≠ other) :
    get? (erase entries key) other = get? entries other := by
  induction entries with
  | nil => rfl
  | cons entry rest ih =>
    unfold erase at ih ⊢
    by_cases same : entry.1 = key
    · have skipped : entry.1 ≠ other := fun found => different (same.symm.trans found)
      simpa [List.filter, same, get?, different] using ih
    · by_cases found : entry.1 = other
      · simp [List.filter, get?, found, different.symm]
      · simpa [List.filter, same, get?, found] using ih

theorem set_set (entries : Table α) (key : String) (first second : α) :
    set (set entries key first) key second = set entries key second := by
  induction entries with
  | nil => simp [set]
  | cons entry rest ih =>
    by_cases same : entry.1 = key <;> simp [set, same, ih]

theorem set_eq_self {entries : Table α} {key : String} {value : α}
    (found : get? entries key = some value) : set entries key value = entries := by
  induction entries with
  | nil => simp at found
  | cons entry rest ih =>
    obtain ⟨name, old⟩ := entry
    by_cases same : name = key
    · simp [get?, same] at found
      simp [set, same, found]
    · simp only [get?, same, if_false] at found
      simp [set, same, ih found]

theorem erase_cons (entry : String × α) (rest : Table α) (key : String) :
    erase (entry :: rest) key =
      if entry.1 = key then erase rest key else entry :: erase rest key := by
  by_cases same : entry.1 = key <;> simp [erase, same]

theorem erase_set_of_absent {entries : Table α} {key : String} (value : α)
    (absent : get? entries key = none) : erase (set entries key value) key = entries := by
  induction entries with
  | nil => simp [erase, set]
  | cons entry rest ih =>
    by_cases same : entry.1 = key
    · simp [get?, same] at absent
    · simp only [get?, same, if_false] at absent
      simp only [set, same, if_false]
      rw [erase_cons, if_neg same, ih absent]

theorem get?_append (left right : Table α) (key : String) :
    get? (left ++ right) key = (get? left key).or (get? right key) := by
  induction left with
  | nil => simp
  | cons entry rest ih =>
    by_cases same : entry.1 = key <;> simp [get?, same, ih]

theorem mem_of_get? {entries : Table α} {key : String} {value : α}
    (found : get? entries key = some value) : (key, value) ∈ entries := by
  induction entries with
  | nil => simp at found
  | cons entry rest ih =>
    obtain ⟨name, old⟩ := entry
    by_cases same : name = key
    · simp [get?, same] at found
      simp [same, found]
    · simp only [get?, same, if_false] at found
      simp [ih found]

theorem mem_keys_iff {entries : Table α} {key : String} :
    key ∈ keys entries ↔ ∃ value, get? entries key = some value := by
  induction entries with
  | nil => simp [keys]
  | cons entry rest ih =>
    obtain ⟨name, value⟩ := entry
    rw [keys, List.map_cons, List.mem_cons, ← keys, ih]
    by_cases same : name = key
    · simp [get?, same]
    · simp [get?, same, Ne.symm same]

theorem get?_of_mem {entries : Table α} (distinct : (keys entries).Nodup) {entry : String × α}
    (member : entry ∈ entries) : get? entries entry.1 = some entry.2 := by
  induction entries with
  | nil => cases member
  | cons first rest ih =>
    rw [keys, List.map_cons, List.nodup_cons] at distinct
    rcases List.mem_cons.mp member with rfl | later
    · simp [get?]
    · have different : first.1 ≠ entry.1 := by
        intro same
        exact distinct.1 (same ▸ List.mem_map_of_mem later)
      rw [get?, if_neg different]
      exact ih distinct.2 later

theorem mem_set {entries : Table α} {key : String} {value : α} {entry : String × α}
    (member : entry ∈ set entries key value) : entry = (key, value) ∨ entry ∈ entries := by
  induction entries with
  | nil => simpa [set] using member
  | cons head rest ih =>
    by_cases same : head.1 = key
    · simp only [set, same, if_true, List.mem_cons] at member
      rcases member with new | later
      · exact .inl new
      · exact .inr (by simp [later])
    · simp only [set, same, if_false, List.mem_cons] at member
      rcases member with first | later
      · exact .inr (by simp [first])
      · rcases ih later with new | old
        · exact .inl new
        · exact .inr (by simp [old])

end Table

end StorageLayout
