import CardPress.Proofs.Font.Known

/-! The variants of the standard families: which of its fonts a style in a standard family is set in. -/
namespace CardPress

variable {known : FontRegistry} {name : String} {family : FontFamily} {font : StandardFont}
  {weight : FontWeight} {slant : Option FontSlant}

namespace FontWeight

/-- Weights are listed from thin to heavy. -/
def isAtLeast (weight limit : FontWeight) : Prop := all.idxOf limit ≤ all.idxOf weight

theorem isBold_iff : weight.isBold = true ↔ weight.isAtLeast semiBold := by
  cases weight <;> simp [isBold, isAtLeast] <;> decide

end FontWeight

namespace FontSlant

def leans (slant : Option FontSlant) : Bool := (slant.map isItalic).getD false

theorem leans_iff : leans slant = true ↔ slant = some italic ∨ slant = some oblique := by
  rcases slant with _ | slant
  · simp [leans]
  · cases slant <;> simp [leans, isItalic]

end FontSlant

namespace StandardFont

/-- The family of a font; the two fonts of symbols have none. -/
def family? : StandardFont → Option FontFamily
  | helvetica | helveticaBold | helveticaOblique | helveticaBoldOblique => some .helvetica
  | timesRoman | timesBold | timesItalic | timesBoldItalic => some .times
  | courier | courierBold | courierOblique | courierBoldOblique => some .courier
  | symbol | zapfDingbats => none

def isBold : StandardFont → Bool
  | helveticaBold | helveticaBoldOblique | timesBold | timesBoldItalic | courierBold
  | courierBoldOblique => true
  | _ => false

def isItalic : StandardFont → Bool
  | helveticaOblique | helveticaBoldOblique | timesItalic | timesBoldItalic | courierOblique
  | courierBoldOblique => true
  | _ => false

/-- The font of a family that does justice to a weight and a slant. -/
structure Suits (font : StandardFont) (family : FontFamily) (weight : FontWeight)
    (slant : Option FontSlant) : Prop where
  family : font.family? = some family
  bold : font.isBold = true ↔ weight.isAtLeast .semiBold
  italic : font.isItalic = true ↔ slant = some .italic ∨ slant = some .oblique

theorem eq_font_iff {bold italic : Bool} : font = family.font bold italic ↔
    font.family? = some family ∧ font.isBold = bold ∧ font.isItalic = italic := by
  cases font <;> cases family <;> cases bold <;> cases italic <;> decide

theorem suits_iff :
    font.Suits family weight slant ↔ font = family.font weight.isBold (FontSlant.leans slant) := by
  have hbold : font.isBold = weight.isBold ↔ (font.isBold = true ↔ weight.isAtLeast .semiBold) := by
    rw [Bool.eq_iff_iff, FontWeight.isBold_iff]
  have hitalic : font.isItalic = FontSlant.leans slant ↔
      (font.isItalic = true ↔ slant = some .italic ∨ slant = some .oblique) := by
    rw [Bool.eq_iff_iff, FontSlant.leans_iff]
  rw [eq_font_iff, hbold, hitalic]
  exact ⟨fun h => ⟨h.family, h.bold, h.italic⟩, fun ⟨hf, hb, hi⟩ => ⟨hf, hb, hi⟩⟩

theorem name_inj {other : StandardFont} : font.name = other.name ↔ font = other := by
  cases font <;> cases other <;> decide

end StandardFont

theorem FontFamily.font_inj {bold italic bold' italic' : Bool}
    (h : family.font bold italic = family.font bold' italic') : bold = bold' ∧ italic = italic' := by
  obtain ⟨-, hbold, hitalic⟩ := StandardFont.eq_font_iff.mp (Eq.refl (family.font bold italic))
  obtain ⟨-, hbold', hitalic'⟩ := StandardFont.eq_font_iff.mp h
  exact ⟨hbold.symm.trans hbold', hitalic.symm.trans hitalic'⟩

namespace Font

/-- What a font has behind the name of its family if it suits a style. -/
def ending (weight : FontWeight) (slant : Option FontSlant) : String :=
  variantEnding weight.isBold (FontSlant.leans slant)

/-- What is left of the name of a standard font without an ending. -/
def stem (font : StandardFont) (bold italic : Bool) : String :=
  String.ofList (font.name.toList.take
    (font.name.toList.length - (variantEnding bold italic).toList.length))

theorem eq_stem {bold italic : Bool} (h : name ++ variantEnding bold italic = font.name) :
    name = stem font bold italic := by
  rw [stem, ← h, String.toList_append, List.length_append, Nat.add_sub_cancel, List.take_left,
    String.ofList_toList]

theorem font_of_stem (font : StandardFont) (bold italic : Bool) :
    stem font bold italic ++ variantEnding bold italic = font.name →
      ∀ family ∈ FontFamily.ofName? (stem font bold italic), family.font bold italic = font := by
  cases font <;> cases bold <;> cases italic <;> decide +kernel

/-- A family whose name with an ending is that of a standard font has this font. -/
theorem font_of_name (hfamily : FontFamily.ofName? name = some family) {bold italic : Bool}
    (h : name ++ variantEnding bold italic = font.name) : family.font bold italic = font := by
  obtain rfl := eq_stem h
  exact font_of_stem font bold italic h family hfamily

theorem forStyle_eq (hfamily : FontFamily.ofName? name = some family) (known : FontRegistry)
    (weight : FontWeight) (slant : Option FontSlant) :
    forStyle known (some name) weight slant =
      if name ++ ending weight slant ∈ known then name ++ ending weight slant
      else if name ∈ known then name
      else (family.font weight.isBold (FontSlant.leans slant)).name := by
  have hempty : FontFamily.ofName? "" = none := by decide +kernel
  unfold forStyle
  dsimp only
  split
  next h => cases h
  next h =>
    obtain rfl := Option.some.inj h
    rw [hempty] at hfamily
    cases hfamily
  next h =>
    obtain rfl := Option.some.inj h
    rw [ending, FontSlant.leans]
    by_cases hending :
        name ++ variantEnding weight.isBold ((slant.map FontSlant.isItalic).getD false) ∈ known
    · simp [hending]
    · by_cases hname : name ∈ known
      · simp [hending, hname]
      · simp [hending, hname, hfamily]

/-- A style in a standard family is set in the variant that suits it, whatever standard fonts are known,
unless the family is spelled as its upright font, this font is known, and none is known under the name
with the ending of the style. Then it is set upright. -/
theorem forStyle_suits (hknown : ∀ other ∈ known, StandardFont.IsName other)
    (hfamily : FontFamily.ofName? name = some family) (weight : FontWeight)
    (slant : Option FontSlant) :
    ((∃ font : StandardFont, font.Suits family weight slant ∧
        forStyle known (some name) weight slant = font.name) ↔
      (name ∈ known → name ++ ending weight slant ∈ known)) ∧
    (name ∈ known → name = (family.font false false).name) ∧
    (name ∈ known → name ++ ending weight slant ∉ known →
      forStyle known (some name) weight slant = name) := by
  have hupright : name ∈ known → name = (family.font false false).name := by
    intro hname
    obtain ⟨font, hfont⟩ := hknown name hname
    have hplain : name ++ variantEnding false false = font.name := by
      rw [hfont]
      exact String.append_empty
    rw [font_of_name hfamily hplain, hfont]
  rw [forStyle_eq hfamily]
  refine ⟨⟨?_, fun h => ?_⟩, hupright, fun hname hending => ?_⟩
  · rintro ⟨font, hsuits, hfont⟩ hname
    refine Decidable.byContradiction fun hending => ?_
    rw [if_neg hending, if_pos hname, hupright hname, StandardFont.name_inj] at hfont
    rw [StandardFont.suits_iff, ← hfont] at hsuits
    -- the upright font suits no other style, and upright fonts have no ending
    obtain ⟨hbold, hitalic⟩ := FontFamily.font_inj hsuits
    rw [ending, ← hbold, ← hitalic] at hending
    exact hending (by simpa [variantEnding] using hname)
  · by_cases hending : name ++ ending weight slant ∈ known
    · obtain ⟨font, hfont⟩ := hknown _ hending
      rw [if_pos hending]
      exact ⟨font, StandardFont.suits_iff.mpr (font_of_name hfamily hfont.symm).symm, hfont.symm⟩
    · rw [if_neg hending, if_neg (mt h hending)]
      exact ⟨_, StandardFont.suits_iff.mpr rfl, rfl⟩
  · rw [if_neg hending, if_pos hname]

theorem forStyle_suits_times_new_roman :
    (∀ other ∈ ["Helvetica", "Symbol", "ZapfDingbats", "Times-Roman"], StandardFont.IsName other) ∧
      FontFamily.ofName? "Times New Roman" = some .times ∧
      (∃ font : StandardFont, font.Suits .times .black (some .oblique) ∧
        forStyle ["Helvetica", "Symbol", "ZapfDingbats", "Times-Roman"] (some "Times New Roman") .black
          (some .oblique) = font.name) ∧
      forStyle ["Helvetica", "Symbol", "ZapfDingbats", "Times-Roman"] (some "Times New Roman") .black
        (some .oblique) = "Times-BoldItalic" := by
  have hknown : ∀ other ∈ ["Helvetica", "Symbol", "ZapfDingbats", "Times-Roman"],
      StandardFont.IsName other := by
    simp only [List.forall_mem_cons]
    exact ⟨⟨.helvetica, rfl⟩, ⟨.symbol, rfl⟩, ⟨.zapfDingbats, rfl⟩, ⟨.timesRoman, rfl⟩, by simp⟩
  have hfamily : FontFamily.ofName? "Times New Roman" = some .times := by decide +kernel
  obtain ⟨hsuits, -, -⟩ := forStyle_suits hknown hfamily .black (some .oblique)
  exact ⟨hknown, hfamily, hsuits.mpr fun h => absurd h (by decide), by decide +kernel⟩

/-- Once the upright font of a family is in use, a bold text is set in it if the family is spelled like
this font. -/
theorem forStyle_upright_helvetica : ¬ ∀ (known : FontRegistry) (name : String) (family : FontFamily)
    (weight : FontWeight) (slant : Option FontSlant),
    (∀ other ∈ known, StandardFont.IsName other) → FontFamily.ofName? name = some family →
      ∃ font : StandardFont, font.Suits family weight slant ∧
        forStyle known (some name) weight slant = font.name := by
  intro h
  have hknown : ∀ other ∈ ["Helvetica", "Symbol", "ZapfDingbats"], StandardFont.IsName other := by
    simp only [List.forall_mem_cons]
    exact ⟨⟨.helvetica, rfl⟩, ⟨.symbol, rfl⟩, ⟨.zapfDingbats, rfl⟩, by simp⟩
  obtain ⟨font, hsuits, hfont⟩ := h ["Helvetica", "Symbol", "ZapfDingbats"] "Helvetica" .helvetica
    .bold none hknown (by decide +kernel)
  have hset : forStyle ["Helvetica", "Symbol", "ZapfDingbats"] (some "Helvetica") .bold none =
      StandardFont.helvetica.name := rfl
  obtain rfl : StandardFont.helvetica = font := StandardFont.name_inj.mp (hset.symm.trans hfont)
  have hbold := hsuits.bold.mpr (FontWeight.isBold_iff.mp rfl)
  cases hbold

end Font

end CardPress
