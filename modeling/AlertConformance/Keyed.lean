/-
AlertConformance.Keyed — lists of named values in order of insertion.

A name that is put again keeps its place and takes the new value, so a
list built by `put` alone holds each name once.

* `put_keys` — putting adds the name at the end unless it is there.
* `find?_put` — looking up sees the value put last.
-/
namespace AlertConformance.Keyed

variable {κ α : Type}

/-- The names, in order. -/
def keys (entries : List (κ × α)) : List κ := entries.map Prod.fst

variable [DecidableEq κ]

/-- The value of a name. -/
def find? (name : κ) : List (κ × α) → Option α
  | [] => none
  | (key, value) :: rest => if key = name then some value else find? name rest

/-- Give a name a value. -/
def put (name : κ) (value : α) : List (κ × α) → List (κ × α)
  | [] => [(name, value)]
  | (key, old) :: rest =>
    if key = name then (name, value) :: rest else (key, old) :: put name value rest

/-- The named values of a sequence of insertions. -/
def ofList (insertions : List (κ × α)) : List (κ × α) :=
  insertions.foldl (fun entries (name, value) => put name value entries) []

/-- The same names with other values. -/
def mapValues {β : Type} (f : α → β) (entries : List (κ × α)) : List (κ × β) :=
  entries.map fun (name, value) => (name, f value)

omit [DecidableEq κ] in
@[simp] theorem keys_mapValues {β : Type} (f : α → β) (entries : List (κ × α)) :
    keys (mapValues f entries) = keys entries := by
  simp [keys, mapValues]

@[simp] theorem find?_mapValues {β : Type} (f : α → β) (name : κ) (entries : List (κ × α)) :
    find? name (mapValues f entries) = (find? name entries).map f := by
  induction entries with
  | nil => rfl
  | cons entry rest ih =>
    simp only [mapValues, List.map_cons, find?] at ih ⊢
    split
    · rfl
    · exact ih

/-! ## Names after an insertion -/

theorem put_keys (name : κ) (value : α) (entries : List (κ × α)) :
    keys (put name value entries) =
      if name ∈ keys entries then keys entries else keys entries ++ [name] := by
  induction entries with
  | nil => simp [put, keys]
  | cons entry rest ih =>
    obtain ⟨key, old⟩ := entry
    by_cases h : key = name
    · subst h; simp [put, keys]
    · have h' : ¬ name = key := fun e => h e.symm
      have step :
          keys (put name value ((key, old) :: rest)) = key :: keys (put name value rest) := by
        simp [put, keys, h]
      rw [step, ih]
      by_cases hm : name ∈ keys rest
      · have : name ∈ keys ((key, old) :: rest) := by simp [keys] at hm ⊢; exact Or.inr hm
        simp only [if_pos hm, if_pos this]; simp [keys]
      · have : ¬ name ∈ keys ((key, old) :: rest) := by
          simp only [keys, List.map_cons, List.mem_cons, not_or]; exact ⟨h', hm⟩
        simp only [if_neg hm, if_neg this]; simp [keys]

theorem nodup_put {name : κ} {value : α} {entries : List (κ × α)}
    (h : (keys entries).Nodup) : (keys (put name value entries)).Nodup := by
  rw [put_keys]
  split
  · exact h
  · rename_i hm
    rw [List.nodup_append]
    refine ⟨h, by simp, ?_⟩
    intro a ha b hb
    simp only [List.mem_singleton] at hb
    subst hb
    exact fun e => hm (e ▸ ha)

theorem nodup_foldl_put (insertions : List (κ × α)) (entries : List (κ × α))
    (h : (keys entries).Nodup) :
    (keys (insertions.foldl (fun acc (name, value) => put name value acc) entries)).Nodup := by
  induction insertions generalizing entries with
  | nil => exact h
  | cons entry rest ih => exact ih _ (nodup_put h)

theorem nodup_ofList (insertions : List (κ × α)) : (keys (ofList insertions)).Nodup :=
  nodup_foldl_put insertions [] (by simp [keys])

/-! ## Values after an insertion -/

/-- What is there after an insertion was put or there before. -/
theorem mem_put {name : κ} {value : α} {entries : List (κ × α)} {entry : κ × α}
    (h : entry ∈ put name value entries) : entry = (name, value) ∨ entry ∈ entries := by
  induction entries with
  | nil => exact .inl (List.mem_singleton.mp h)
  | cons first rest ih =>
    obtain ⟨key, old⟩ := first
    rw [put] at h
    split at h
    · rcases List.mem_cons.mp h with h | h
      · exact .inl h
      · exact .inr (List.mem_cons_of_mem _ h)
    · rcases List.mem_cons.mp h with rfl | h
      · exact .inr List.mem_cons_self
      · exact (ih h).imp_right (List.mem_cons_of_mem _)

theorem find?_put (name other : κ) (value : α) (entries : List (κ × α)) :
    find? other (put name value entries) =
      if name = other then some value else find? other entries := by
  induction entries with
  | nil => simp [put, find?]
  | cons entry rest ih =>
    obtain ⟨key, old⟩ := entry
    by_cases h : key = name
    · subst h
      by_cases ho : key = other <;> simp [put, find?, ho]
    · by_cases ho : key = other
      · subst ho
        have : ¬ name = key := fun e => h e.symm
        simp [put, find?, h, this]
      · simp [put, find?, h, ho, ih]

end AlertConformance.Keyed
