/-!
# ProbeLink.Text.Field

**Cutting a text at separators**: into all its fields, at the first place where a pattern stands,
or at the last separator. Each cut has its inverse, which puts the separators back.
-/

namespace ProbeLink.Text

/-- The fields between the separators; a text without one is a single field. -/
def fields (separator : Char) : List Char → List (List Char)
  | [] => [[]]
  | c :: rest =>
    if c = separator then [] :: fields separator rest
    else match fields separator rest with
      | [] => [[c]]
      | field :: others => (c :: field) :: others

/-- The fields with a separator between each two. -/
def joinFields (separator : Char) : List (List Char) → List Char
  | [] => []
  | [field] => field
  | field :: others => field ++ separator :: joinFields separator others

/-- The parts before and after the first separator. -/
def cutFirst? (separator : Char) : List Char → Option (List Char × List Char)
  | [] => none
  | c :: rest =>
    if c = separator then some ([], rest)
    else (cutFirst? separator rest).map fun (front, back) => (c :: front, back)

/-- The parts before and after the last separator. -/
def cutLast? (separator : Char) : List Char → Option (List Char × List Char)
  | [] => none
  | c :: rest =>
    match cutLast? separator rest with
    | some (front, back) => some (c :: front, back)
    | none => if c = separator then some ([], rest) else none

/-- The parts before and after the first two neighbouring separators. -/
def cutDouble? (separator : Char) : List Char → Option (List Char × List Char)
  | c :: d :: rest =>
    if c = separator ∧ d = separator then some ([], rest)
    else (cutDouble? separator (d :: rest)).map fun (front, back) => (c :: front, back)
  | _ => none

/-- What follows `front`, if the text starts with it. -/
def afterPrefix? : (front text : List Char) → Option (List Char)
  | [], text => some text
  | _ :: _, [] => none
  | c :: front, d :: text => if c = d then afterPrefix? front text else none

theorem fields_ne_nil (separator : Char) (text : List Char) : fields separator text ≠ [] := by
  cases text with
  | nil => simp [fields]
  | cons c rest => rw [fields]; split <;> (try split) <;> simp

/-- Nothing is lost by cutting a text into fields. -/
theorem joinFields_fields (separator : Char) (text : List Char) :
    joinFields separator (fields separator text) = text := by
  induction text with
  | nil => rfl
  | cons c rest ih =>
    rw [fields]
    split
    · next hc =>
      cases hf : fields separator rest with
      | nil => exact absurd hf (fields_ne_nil separator rest)
      | cons field others => rw [joinFields, ← hf, ih, hc]; rfl; simp
    · cases hf : fields separator rest with
      | nil => exact absurd hf (fields_ne_nil separator rest)
      | cons field others =>
        rw [hf] at ih
        cases others with
        | nil => simp_all [joinFields]
        | cons next others => simp_all [joinFields]

/-- There is no separator in a text that cannot be cut. -/
theorem cutLast?_eq_none_iff {separator : Char} {text : List Char} :
    cutLast? separator text = none ↔ separator ∉ text := by
  induction text with
  | nil => simp [cutLast?]
  | cons c rest ih =>
    rw [cutLast?]
    split
    · next f b h =>
      have : separator ∈ rest := by
        by_cases hm : separator ∈ rest
        · exact hm
        · simp [ih.2 hm] at h
      simp [this]
    · next h =>
      have := ih.1 h
      split
      · next hc => simp [hc]
      · next hc => simp [this, Ne.symm hc]

/-- The last separator is followed by none. -/
theorem cutLast?_append (separator : Char) (front : List Char) {back : List Char}
    (h : separator ∉ back) :
    cutLast? separator (front ++ separator :: back) = some (front, back) := by
  induction front with
  | nil => simp [cutLast?, cutLast?_eq_none_iff.2 h]
  | cons c rest ih => simp [cutLast?, ih]

theorem eq_of_cutLast? {separator : Char} {text front back : List Char}
    (h : cutLast? separator text = some (front, back)) :
    text = front ++ separator :: back ∧ separator ∉ back := by
  induction text generalizing front with
  | nil => cases h
  | cons c rest ih =>
    rw [cutLast?] at h
    split at h
    · next f b hcut =>
      cases h
      obtain ⟨hrest, hback⟩ := ih hcut
      exact ⟨congrArg (List.cons c) hrest, hback⟩
    · next hcut =>
      split at h
      · next hc =>
        cases h
        exact ⟨by rw [hc, List.nil_append], cutLast?_eq_none_iff.1 hcut⟩
      · cases h

theorem afterPrefix?_eq_some_iff {front text rest : List Char} :
    afterPrefix? front text = some rest ↔ text = front ++ rest := by
  induction front generalizing text with
  | nil => simp [afterPrefix?]
  | cons c front ih =>
    cases text with
    | nil => simp [afterPrefix?]
    | cons d text =>
      rw [afterPrefix?]
      split
      · next h => simp [ih, h]
      · next h => simp [Ne.symm h]

end ProbeLink.Text
