import CardPress.ImageStore

/-! What a name leads to does not depend on what was loaded before. -/
namespace CardPress.ImageStore

variable {photos : Photos} {paths : Named String} {s t u : ImageStore} {name other : String}

/-- Every name leads to the same from two stores. -/
def Alike (photos : Photos) (paths : Named String) (s t : ImageStore) : Prop :=
  ∀ name, (load photos paths name s).1 = (load photos paths name t).1

theorem Alike.refl (s : ImageStore) : Alike photos paths s s := fun _ => rfl

theorem Alike.symm (h : Alike photos paths s t) : Alike photos paths t s := fun name => (h name).symm

theorem Alike.trans (h : Alike photos paths s t) (h' : Alike photos paths t u) :
    Alike photos paths s u := fun name => (h name).trans (h' name)

theorem load_of_kept {p : Picture} (h : s.images.get? name = some p) :
    load photos paths name s = (.ok (some p), s) := by
  simp [load, lookUp, h]

/-- A load leaves the store as it is, or adds the picture that it gives. -/
theorem load_cases (photos : Photos) (paths : Named String) (name : String) (s : ImageStore) :
    (load photos paths name s).2 = s ∨
      ∃ p, s.images.get? name = none ∧ (load photos paths name s).1 = .ok (some p) ∧
        (load photos paths name s).2 = ⟨s.images.put name p, s.decodeCount + 1⟩ := by
  unfold load lookUp
  cases hk : s.images.get? name with
  | some p => exact .inl rfl
  | none =>
    cases hp : paths.get? name with
    | none => exact .inl rfl
    | some path =>
      cases hd : decode photos name path with
      | error f => exact .inl (by simp [hd])
      | ok p => exact .inr ⟨p, rfl, by simp [hd, keep, hk], by simp [hd, keep, hk]⟩

/-- What a name leads to depends on what is kept under it only. -/
theorem load_congr (h : s.images.get? name = t.images.get? name) :
    (load photos paths name s).1 = (load photos paths name t).1 := by
  unfold load lookUp
  rw [← h]
  cases hk : s.images.get? name with
  | some p => rfl
  | none =>
    cases hp : paths.get? name with
    | none => rfl
    | some path =>
      cases hd : decode photos name path with
      | error f => simp [hd]
      | ok p => simp [hd, keep, hk, ← h]

/-- Loading changes nothing of what names lead to. -/
theorem alike_load (name : String) (s : ImageStore) :
    Alike photos paths (load photos paths name s).2 s := by
  intro other
  obtain h | ⟨p, hn, hp, h⟩ := load_cases photos paths name s
  · rw [h]
  · by_cases ho : other = name
    · subst other
      rw [load_of_kept (p := p) (by rw [h, Named.get?_put, if_pos rfl]), hp]
    · exact load_congr (by rw [h, Named.get?_put, if_neg ho])

/-- The stores that loads lead to, one after the other from an empty one on. -/
inductive Reached (photos : Photos) (paths : Named String) : ImageStore → Prop where
  | start : Reached photos paths {}
  | load {s : ImageStore} (name : String) (h : Reached photos paths s) :
      Reached photos paths (ImageStore.load photos paths name s).2

theorem Reached.alike (h : Reached photos paths s) : Alike photos paths s {} := by
  induction h with
  | start => exact .refl _
  | load name _ ih => exact (alike_load name _).trans ih

/-- Where no file has a name, no name leads to a picture. -/
theorem Reached.load_of_empty (h : Reached photos paths s) (hpaths : ∀ name, paths.get? name = none)
    (name : String) : (ImageStore.load photos paths name s).1 = .ok none := by
  have hkept : ({} : ImageStore).images.get? name = none := rfl
  rw [h.alike name]
  unfold ImageStore.load lookUp
  rw [hkept, hpaths name]

end CardPress.ImageStore
