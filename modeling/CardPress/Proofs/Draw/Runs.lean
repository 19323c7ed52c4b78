import CardPress.Proofs.Draw.Outcome
import CardPress.Proofs.Style.Attribute
import CardPress.Proofs.Style.Cascade

/-! Runs of text before fonts are chosen for them. The styles of runs come from the text, the card and
the project alone; the fonts known so far enter last. -/
namespace CardPress

variable {α : Type} [Scalar α] {scene : Scene α} {s : Studio α} {store : ImageStore}

/-- A run that names what it asks of a font instead of a font. -/
structure PlainRun (α : Type) where
  text : String
  family : Option String
  weight : FontWeight
  slant : Option FontSlant
  size : α
  color : Color
  background : Option Color
  icon : Option Picture

namespace PlainRun

/-- The font that a run finds among those that are known. -/
def font (r : PlainRun α) (known : FontRegistry) : String :=
  Font.forStyle known r.family r.weight r.slant

def set (known : FontRegistry) (r : PlainRun α) : TextRun α :=
  ⟨r.text, r.font known, r.size, r.color, r.background, r.icon⟩

end PlainRun

namespace Scene

def foreground (scene : Scene α) (style : FlatTextStyle α) : Except Failure Color :=
  match style.foreground with
  | some c => scene.project.resolveColor scene.card c
  | none => .ok .black

def background (scene : Scene α) (style : FlatTextStyle α) : Except Failure (Option Color) :=
  match style.background with
  | some c => (scene.project.resolveColor scene.card c).map some
  | none => .ok none

def fontSize (scene : Scene α) (style : FlatTextStyle α) : α :=
  match style.size with
  | some s => s.pixels scene.layout.geometry.dpi
  | none => Scalar.ofNat 14

def plainRun (scene : Scene α) (text : String) (style : FlatTextStyle α) (icon : Option Picture) :
    Except Failure (PlainRun α) := do
  let color ← scene.foreground style
  let background ← scene.background style
  return ⟨text, style.family, style.weight, style.slant, scene.fontSize style, color, background, icon⟩

/-- What stands for a placeholder: its icon, or its text if it has none. -/
def placeholderContent (scene : Scene α) (store : ImageStore) (name : String) :
    Except Failure (String × Option Picture) :=
  (store.load scene.photos scene.project.images name).1.map fun
    | some icon => ("", some icon)
    | none => (":" ++ name ++ ":", none)

def placeholderRun (scene : Scene α) (store : ImageStore) (name : String)
    (style : FlatTextStyle α) : Except Failure (PlainRun α) := do
  let (text, icon) ← scene.placeholderContent store name
  scene.plainRun text style icon

/-- The style inside a tag. -/
def innerStyle (scene : Scene α) (tag : String) (style : FlatTextStyle α) :
    Except Failure (FlatTextStyle α) :=
  match scene.project.styleSet? tag with
  | none => .ok style
  | some styles => do
    let inner := style.apply styles
    if ← Condition.allHold scene.card (inner.conditions.drop style.conditions.length) then
      return inner
    else return style

/-- The runs of marked-up text; `styles` are those inside the open tags, the innermost first. -/
def plainRuns (scene : Scene α) (store : ImageStore) (base : FlatTextStyle α) :
    List (FlatTextStyle α) → List Instruction → Except Failure (List (PlainRun α))
  | _, [] => .ok []
  | styles, i :: rest => do
    let style := styles.head?.getD base
    match i with
    | .text s => do
      let run ← scene.plainRun s style none
      let more ← plainRuns scene store base styles rest
      return run :: more
    | .placeholder name => do
      let run ← scene.placeholderRun store name style
      let more ← plainRuns scene store base styles rest
      return run :: more
    | .push tag => do
      let inner ← scene.innerStyle tag style
      plainRuns scene store base (inner :: styles) rest
    | .pop _ => plainRuns scene store base styles.tail rest

/-- The styles under a name; there may be none. -/
def namedStyles (scene : Scene α) : Option String → List (TextStyle α)
  | none | some "" => []
  | some name => (scene.project.styleSet? name).getD []

/-- The style of a text element before its marks take effect. -/
def baseStyle (scene : Scene α) (name : Option String) (styles : List (TextStyle α)) :
    FlatTextStyle α :=
  ({} : FlatTextStyle α).apply (scene.layout.baseTextStyles ++ scene.namedStyles name ++ styles)

omit [Scalar α] in
theorem namedStyles_some {name : String} (h : name ≠ "") :
    scene.namedStyles (some name) = (scene.project.styleSet? name).getD [] := by
  unfold namedStyles
  split
  · contradiction
  · rename_i hname
    exact absurd (Option.some.inj hname) h
  · rename_i hname
    rw [Option.some.inj hname]

omit [Scalar α] in
theorem namedStyles_cases (scene : Scene α) (name : Option String) :
    scene.namedStyles name = [] ∨
      ∃ name', scene.project.styleSet? name' = some (scene.namedStyles name) := by
  unfold namedStyles
  split
  · exact .inl rfl
  · exact .inl rfl
  · rename_i name _
    cases hs : scene.project.styleSet? name with
    | none => exact .inl rfl
    | some named => exact .inr ⟨name, hs⟩

variable {F : Option String → Prop} {base style : FlatTextStyle α}
  {styles : List (FlatTextStyle α)} {is : List Instruction} {run : PlainRun α}
  {runs : List (PlainRun α)}

theorem family_plainRun {text : String} {icon : Option Picture}
    (h : scene.plainRun text style icon = .ok run) : run.family = style.family := by
  obtain ⟨color, -, h⟩ := bind_eq_ok.mp h
  obtain ⟨background, -, h⟩ := bind_eq_ok.mp h
  cases h
  rfl

/-- Runs ask for no family but those that the styles around them ask for. -/
theorem family_plainRuns (hbase : F base.family) (hstyles : ∀ style ∈ styles, F style.family)
    (hsets : ∀ name xs, scene.project.styleSet? name = some xs → ∀ x ∈ xs, F x.family?)
    (h : scene.plainRuns store base styles is = .ok runs) : ∀ run ∈ runs, F run.family := by
  induction is generalizing styles runs with
  | nil =>
    cases h
    simp
  | cons i rest ih =>
    have htop : F (styles.head?.getD base).family := by
      cases styles with
      | nil => exact hbase
      | cons top outer => exact hstyles top (by simp)
    cases i with
    | text text =>
      obtain ⟨run, hrun, h⟩ := bind_eq_ok.mp h
      obtain ⟨more, hmore, h⟩ := bind_eq_ok.mp h
      cases h
      exact List.forall_mem_cons.mpr ⟨family_plainRun hrun ▸ htop, ih hstyles hmore⟩
    | placeholder name =>
      obtain ⟨run, hrun, h⟩ := bind_eq_ok.mp h
      obtain ⟨more, hmore, h⟩ := bind_eq_ok.mp h
      cases h
      obtain ⟨⟨text, icon⟩, -, hrun⟩ := bind_eq_ok.mp hrun
      exact List.forall_mem_cons.mpr ⟨family_plainRun hrun ▸ htop, ih hstyles hmore⟩
    | push tag =>
      obtain ⟨inner, hinner, h⟩ := bind_eq_ok.mp h
      have : F inner.family := by
        unfold innerStyle at hinner
        cases hs : scene.project.styleSet? tag with
        | none =>
          rw [hs] at hinner
          cases hinner
          exact htop
        | some xs =>
          rw [hs] at hinner
          obtain ⟨b, -, hinner⟩ := bind_eq_ok.mp hinner
          cases b with
          | true =>
            cases hinner
            exact FlatTextStyle.family_apply htop (hsets tag xs hs)
          | false =>
            cases hinner
            exact htop
      exact ih (List.forall_mem_cons.mpr ⟨this, hstyles⟩) h
    | pop tag =>
      exact ih (fun style hstyle => hstyles style (List.mem_of_mem_tail hstyle)) h

end Scene

namespace Draw

theorem outcome_textRun (text : String) (style : FlatTextStyle α) (icon : Option Picture) :
    (textRun scene text style icon).outcome s =
      ((scene.plainRun text style icon).map (PlainRun.set s.fonts), s) := by
  unfold textRun Scene.plainRun Scene.foreground Scene.background
  cases style.foreground with
  | none =>
    cases style.background with
    | none => rfl
    | some b =>
      dsimp only
      cases scene.project.resolveColor scene.card b <;> rfl
  | some c =>
    cases style.background with
    | none =>
      dsimp only
      cases scene.project.resolveColor scene.card c <;> rfl
    | some b =>
      dsimp only
      cases scene.project.resolveColor scene.card c with
      | error f => rfl
      | ok c => cases scene.project.resolveColor scene.card b <;> rfl

theorem textRun_yields (text : String) (style : FlatTextStyle α) (icon : Option Picture) :
    Yields scene (textRun scene text style icon) s
      ((scene.plainRun text style icon).map (PlainRun.set s.fonts)) :=
  ⟨s, .refl s, outcome_textRun text style icon⟩

omit [Scalar α] in
theorem pushed_yields (tag : String) (style : FlatTextStyle α) :
    Yields scene (pushed scene tag style) s (scene.innerStyle tag style) := by
  unfold pushed Scene.innerStyle
  cases scene.project.styleSet? tag with
  | none => exact (Yields.note _).bind_ok fun t _ => .pure style
  | some styles =>
    refine (Yields.lift _).bind fun b t _ => ?_
    cases b with
    | true => exact .pure _
    | false => exact (Yields.note _).bind_ok fun t _ => .pure style

theorem placeholderRun_yields (name : String) (style : FlatTextStyle α)
    (h : ImageStore.Alike scene.photos scene.project.images s.images store) :
    Yields scene (placeholderRun scene name style) s
      ((scene.placeholderRun store name style).map (PlainRun.set s.fonts)) := by
  unfold placeholderRun Scene.placeholderRun Scene.placeholderContent
  have hload : Yields scene (loadImage scene name) s
      (s.images.load scene.photos scene.project.images name).1 := .loadImage name
  rw [h name] at hload
  cases hr : (store.load scene.photos scene.project.images name).1 with
  | error f =>
    rw [hr] at hload
    exact hload.bind_error
  | ok found =>
    rw [hr] at hload
    refine hload.bind_ok fun t ht => ?_
    rw [← ht.fonts]
    cases found with
    | some icon => exact textRun_yields "" style (some icon)
    | none =>
      refine (Yields.note _).bind_ok fun u hu => ?_
      rw [← hu.fonts]
      exact textRun_yields _ style none

omit [Scalar α] in
/-- A run in front of those that follow. -/
theorem cons_yields {set : PlainRun α → TextRun α} {d : Draw α (TextRun α)}
    {k : Draw α (List (TextRun α))} {r : Except Failure (PlainRun α)}
    {rs : Except Failure (List (PlainRun α))} (hd : Yields scene d s (r.map set))
    (hk : ∀ t, scene.Rests s t → Yields scene k t (rs.map (List.map set))) :
    Yields scene (do
      let run ← d
      let more ← k
      return run :: more) s
      ((do
        let run ← r
        let more ← rs
        return run :: more).map (List.map set)) := by
  cases r with
  | error f => exact hd.bind_error
  | ok run =>
    refine hd.bind_ok fun t ht => ?_
    cases rs with
    | error f => exact (hk t ht).bind_error
    | ok more => exact (hk t ht).bind_ok fun u _ => .pure _

/-- Text comes to the same runs whatever was painted before, but for their fonts. -/
theorem textRuns_yields (scene : Scene α) (s : Studio α) (base : FlatTextStyle α)
    (tags : List (String × FlatTextStyle α)) (is : List Instruction)
    (h : ImageStore.Alike scene.photos scene.project.images s.images store) :
    Yields scene (textRuns scene base tags is) s
      ((scene.plainRuns store base (tags.map Prod.snd) is).map
        (List.map (PlainRun.set s.fonts))) := by
  induction is generalizing tags s with
  | nil => exact .pure []
  | cons i rest ih =>
    have later : ∀ t, scene.Rests s t → ∀ tags, Yields scene (textRuns scene base tags rest) t
        ((scene.plainRuns store base (tags.map Prod.snd) rest).map
          (List.map (PlainRun.set s.fonts))) := fun t ht tags => by
      rw [← ht.fonts]
      exact ih t tags (ht.images.trans h)
    have hhead : (tags.map Prod.snd).head? = tags.head?.map Prod.snd := by simp
    unfold textRuns Scene.plainRuns
    rw [hhead]
    cases i with
    | text text => exact cons_yields (textRun_yields text _ none) fun t ht => later t ht tags
    | placeholder name =>
      exact cons_yields (placeholderRun_yields name _ h) fun t ht => later t ht tags
    | push tag =>
      have hpush : Yields scene (pushed scene tag ((tags.head?.map Prod.snd).getD base)) s
          (scene.innerStyle tag ((tags.head?.map Prod.snd).getD base)) := pushed_yields tag _
      dsimp only
      cases hi : scene.innerStyle tag ((tags.head?.map Prod.snd).getD base) with
      | error f =>
        rw [hi] at hpush
        exact hpush.bind_error
      | ok inner =>
        rw [hi] at hpush
        exact hpush.bind_ok fun t ht => later t ht _
    | pop tag =>
      rcases tags with _ | ⟨⟨opened, style⟩, outer⟩
      · exact (Yields.note _).bind_ok fun t ht => later t ht []
      · dsimp only
        by_cases hcross : opened != tag
        · rw [if_pos hcross]
          exact (Yields.note _).bind_ok fun t ht => later t ht outer
        · rw [if_neg hcross]
          exact later s (.refl s) outer

omit [Scalar α] in
theorem baseStyle_yields (scene : Scene α) (name : Option String) (styles : List (TextStyle α))
    (s : Studio α) : Yields scene (baseStyle scene name styles) s (.ok (scene.baseStyle name styles)) := by
  unfold baseStyle Scene.baseStyle
  simp only [FlatTextStyle.apply_append]
  split
  · exact .pure _
  · exact .pure _
  · rename_i name hname
    rw [Scene.namedStyles_some hname]
    cases scene.project.styleSet? name with
    | some named => exact .pure _
    | none => exact (Yields.note _).bind_ok fun t _ => .pure _

omit [Scalar α] in
theorem baseStyle_cases (scene : Scene α) (name : Option String) (styles : List (TextStyle α)) :
    ∃ named, (named = [] ∨ ∃ name, scene.project.styleSet? name = some named) ∧
      ∀ s, Yields scene (baseStyle scene name styles) s
        (.ok (({} : FlatTextStyle α).apply (scene.layout.baseTextStyles ++ named ++ styles))) :=
  ⟨scene.namedStyles name, scene.namedStyles_cases name, baseStyle_yields scene name styles⟩

end Draw

open TextStyle in
omit [Scalar α] in
/-- Styles in a row are laid one over the other, and the last one that gives an attribute a value wins;
so a text element's own styles win over those of the set that it names, and these over the layout's. An
empty name names no set. -/
theorem Draw.baseStyle_layers (scene : Scene α) (name : Option String) (own : List (TextStyle α))
    (s : Studio α) :
    (∀ (style : FlatTextStyle α) (xs ys : List (TextStyle α)),
      (style.apply xs).apply ys = style.apply (xs ++ ys)) ∧
    (∀ style : FlatTextStyle α, style.apply [] = style) ∧
    (∀ (style result : FlatTextStyle α) (xs : List (TextStyle α)), result = style.apply xs ↔
      (∀ a, result.get? a = (lastGiven? xs a).or (style.get? a)) ∧
        result.conditions = style.conditions ++ xs.filterMap TextStyle.condition?) ∧
    ∃ base t, (baseStyle scene name own).outcome s = (.ok base, t) ∧ scene.Rests s t ∧
      base = ({} : FlatTextStyle α).apply
        (scene.layout.baseTextStyles ++ scene.namedStyles name ++ own) ∧
      ∀ a, base.get? a = (lastGiven? own a).or ((lastGiven? (scene.namedStyles name) a).or
        ((lastGiven? scene.layout.baseTextStyles a).or (({} : FlatTextStyle α).get? a))) := by
  obtain ⟨t, hrests, hbase⟩ := baseStyle_yields scene name own s
  refine ⟨fun style xs ys => (FlatTextStyle.apply_append style xs ys).symm, FlatTextStyle.apply_nil,
    fun style result xs => FlatTextStyle.eq_apply_iff, _, t, hbase, hrests, rfl, fun a => ?_⟩
  rw [Scene.baseStyle, FlatTextStyle.get?_apply, lastGiven?_append, lastGiven?_append,
    Option.or_assoc, Option.or_assoc]

end CardPress
