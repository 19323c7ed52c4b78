import CardPress.Font.Registry

/-! The fonts known in a run: those of the project, and the standard fonts that were used so far. -/
namespace CardPress

variable {known : FontRegistry} {fonts names : List String} {name other : String}

def StandardFont.IsName (name : String) : Prop := ∃ font : StandardFont, font.name = name

namespace FontRegistry

theorem mem_add : other ∈ known.add name ↔ other ∈ known ∨ other = name := by
  unfold add
  split
  next h =>
    refine ⟨.inl, fun ho => ho.elim id fun ho => ?_⟩
    rw [ho]
    simpa using h
  next => simp

theorem mem_use_of_mem (h : other ∈ known) : other ∈ known.use name := by
  unfold use
  split
  next => exact h
  next => simp [mem_add, h]

/-- Using a font makes no font known but itself and standard fonts. -/
theorem mem_of_mem_use (h : other ∈ known.use name) :
    other ∈ known ∨ other = name ∨ StandardFont.IsName other := by
  unfold use at h
  split at h
  next => exact .inl h
  next =>
    simp only [mem_add] at h
    rcases h with ((h | h) | h) | h
    · exact .inl h
    · exact .inr (.inl h)
    · exact .inr (.inr ⟨.symbol, h.symm⟩)
    · exact .inr (.inr ⟨.zapfDingbats, h.symm⟩)

/-- But for standard fonts, the fonts known are those of the project. -/
def Holds (fonts : List String) (known : FontRegistry) : Prop :=
  ∀ name, ¬ StandardFont.IsName name → (name ∈ known ↔ name ∈ fonts)

theorem holds_start (fonts : List String) : Holds fonts (fonts.foldl add []) := by
  intro name _
  have hstart : ∀ known : FontRegistry, name ∈ fonts.foldl add known ↔ name ∈ known ∨ name ∈ fonts := by
    induction fonts with
    | nil => simp
    | cons font rest ih =>
      intro known
      rw [List.foldl_cons, ih, mem_add, List.mem_cons, or_assoc]
  simpa using hstart []

theorem Holds.use (h : Holds fonts known) (hname : name ∈ known ∨ StandardFont.IsName name) :
    Holds fonts (known.use name) := by
  intro other ho
  refine ⟨fun hu => ?_, fun hf => mem_use_of_mem ((h other ho).mpr hf)⟩
  rcases mem_of_mem_use hu with hu | hu | hu
  · exact (h other ho).mp hu
  · subst hu
    exact (h other ho).mp (hname.resolve_right ho)
  · exact absurd hu ho

theorem Holds.useAll (h : Holds fonts known)
    (hnames : ∀ name ∈ names, name ∈ known ∨ StandardFont.IsName name) :
    Holds fonts (known.useAll names) := by
  induction names generalizing known with
  | nil => exact h
  | cons name rest ih =>
    refine ih (h.use (hnames name (by simp))) fun other ho => ?_
    exact (hnames other (List.mem_cons_of_mem name ho)).imp_left mem_use_of_mem

end FontRegistry

namespace Font

variable {family : Option String} {weight : FontWeight} {slant : Option FontSlant}

/-- A style finds a font that is known, or a standard font. -/
theorem forStyle_known (known : FontRegistry) (family : Option String) (weight : FontWeight)
    (slant : Option FontSlant) :
    forStyle known family weight slant ∈ known ∨
      StandardFont.IsName (forStyle known family weight slant) := by
  unfold forStyle
  dsimp only
  split
  · exact .inr ⟨_, rfl⟩
  · exact .inr ⟨_, rfl⟩
  · split
    next candidate h => exact .inl (by simpa using List.find?_some h)
    next => exact .inr ⟨_, rfl⟩

/-- Neither the family nor a variant of it is spelled like a standard font. -/
def Unspelled (family : Option String) : Prop :=
  ∀ name, family = some name → ∀ bold italic, ¬ StandardFont.IsName (name ++ variantEnding bold italic)

/-- A family that is not spelled like a standard font finds the same font whatever was used. -/
theorem forStyle_of_holds {known' : FontRegistry} (hfamily : Unspelled family)
    (h : known.Holds fonts) (h' : known'.Holds fonts) :
    forStyle known family weight slant = forStyle known' family weight slant := by
  have hcontains : ∀ bold italic name, family = some name →
      known.contains (name ++ variantEnding bold italic) =
        known'.contains (name ++ variantEnding bold italic) := by
    intro bold italic name hname
    have hspelled := hfamily name hname bold italic
    rw [Bool.eq_iff_iff, List.contains_iff_mem, List.contains_iff_mem, h _ hspelled, h' _ hspelled]
  unfold forStyle
  dsimp only
  split
  · rfl
  · rfl
  · rename_i name _
    have hplain : known.contains name = known'.contains name := by
      simpa [variantEnding] using hcontains false false name rfl
    rw [List.find?_cons, List.find?_cons, List.find?_cons, List.find?_cons,
      hcontains _ _ name rfl, hplain]
    rfl

end Font

end CardPress
