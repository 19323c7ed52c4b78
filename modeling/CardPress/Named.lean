/-! Things under names, in the order in which the names were first given. -/
namespace CardPress

/-- No name stands twice. -/
structure Named (α : Type) where
  entries : List (String × α)
  nodup : (entries.map Prod.fst).Nodup

namespace Named

variable {α : Type}

/-- A new name goes to the end; a known one keeps its place and takes the new value. -/
def putEntry (name : String) (value : α) : List (String × α) → List (String × α)
  | [] => [(name, value)]
  | (n, v) :: rest =>
    if n = name then (name, value) :: rest else (n, v) :: putEntry name value rest

theorem map_fst_putEntry (name : String) (value : α) (entries : List (String × α)) :
    (putEntry name value entries).map Prod.fst =
      if name ∈ entries.map Prod.fst then entries.map Prod.fst
      else entries.map Prod.fst ++ [name] := by
  induction entries with
  | nil => simp [putEntry]
  | cons e rest ih =>
    obtain ⟨n, v⟩ := e
    by_cases h : n = name
    · simp [putEntry, h]
    · have h' : name ≠ n := fun e => h e.symm
      by_cases hm : name ∈ rest.map Prod.fst <;> simp_all [putEntry]

theorem nodup_putEntry (name : String) (value : α) {entries : List (String × α)}
    (h : (entries.map Prod.fst).Nodup) : ((putEntry name value entries).map Prod.fst).Nodup := by
  rw [map_fst_putEntry]
  split
  · exact h
  · rename_i hn
    refine List.nodup_append.2 ⟨h, by simp, ?_⟩
    intro a ha b hb hab
    simp only [List.mem_singleton] at hb
    exact hn (hb ▸ hab ▸ ha)

def empty : Named α := ⟨[], List.nodup_nil⟩

instance : Inhabited (Named α) := ⟨empty⟩

def put (m : Named α) (name : String) (value : α) : Named α :=
  ⟨putEntry name value m.entries, nodup_putEntry name value m.nodup⟩

def get? (m : Named α) (name : String) : Option α := m.entries.lookup name

def contains (m : Named α) (name : String) : Bool := (m.get? name).isSome

def names (m : Named α) : List String := m.entries.map Prod.fst

def size (m : Named α) : Nat := m.entries.length

/-- Of entries under one name the last counts. -/
def ofList (entries : List (String × α)) : Named α :=
  entries.foldl (fun m e => m.put e.1 e.2) empty

theorem lookup_cons_ite (name other : String) (value : α) (entries : List (String × α)) :
    ((name, value) :: entries).lookup other =
      if other = name then some value else entries.lookup other := by
  by_cases h : other = name
  · simp [h]
  · simp [List.lookup_cons, h, beq_false_of_ne h]

theorem lookup_putEntry (name other : String) (value : α) (entries : List (String × α)) :
    (putEntry name value entries).lookup other =
      if other = name then some value else entries.lookup other := by
  induction entries with
  | nil => simp [putEntry, lookup_cons_ite]
  | cons e rest ih =>
    obtain ⟨n, v⟩ := e
    by_cases hn : n = name
    · subst hn
      by_cases ho : other = n <;> simp [putEntry, lookup_cons_ite, ho]
    · by_cases ho : other = name
      · subst ho
        simp [putEntry, lookup_cons_ite, hn, ih, Ne.symm hn]
      · simp [putEntry, lookup_cons_ite, hn, ih, ho]

theorem get?_put (m : Named α) (name other : String) (value : α) :
    (m.put name value).get? other = if other = name then some value else m.get? other :=
  lookup_putEntry name other value m.entries

theorem get?_ofList (entries : List (String × α)) (name : String) :
    (ofList entries).get? name = entries.reverse.lookup name := by
  have hfold : ∀ m : Named α, (entries.foldl (fun m e => m.put e.1 e.2) m).get? name =
      (entries.reverse.lookup name).or (m.get? name) := by
    induction entries with
    | nil => exact fun m => rfl
    | cons e rest ih =>
      intro m
      rw [List.foldl_cons, ih, get?_put, List.reverse_cons, List.lookup_append, lookup_cons_ite]
      cases rest.reverse.lookup name with
      | none => split <;> rfl
      | some v => rfl
  have hempty := hfold empty
  rwa [show (empty : Named α).get? name = none from rfl, Option.or_none] at hempty

theorem mem_of_get?_ofList {entries : List (String × α)} {name : String} {value : α}
    (h : (ofList entries).get? name = some value) : (name, value) ∈ entries := by
  rw [get?_ofList] at h
  obtain ⟨front, rest, hentries, -⟩ := List.lookup_eq_some_iff.mp h
  rw [← List.mem_reverse, hentries]
  simp

end Named

end CardPress
