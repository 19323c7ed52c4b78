import CardPress.Proofs.Draw.OpenTags
import CardPress.Proofs.Draw.Tandem
import CardPress.Proofs.Markup.Grammar
import CardPress.Proofs.Number.Exact
import CardPress.Proofs.Paint.Letters

/-! From the contents of a text to its page: what is visible of them is written once and in order,
whatever is between. -/
namespace CardPress

open Text

/-- Text without the tags in it; placeholders stay as they are written. -/
def Markup.withoutTags (s : String) : String :=
  String.join (((parse s).filter Instruction.isShown).map Instruction.written)

variable {α : Type} [Scalar α] {scene : Scene α} {store : ImageStore} {base style : FlatTextStyle α}
  {styles : List (FlatTextStyle α)} {is : List Instruction} {run : PlainRun α}
  {runs : List (PlainRun α)}

namespace Scene

/-- Runs are text, and together they are what the instructions show, as it is written. -/
structure Spells (runs : List (PlainRun α)) (is : List Instruction) : Prop where
  icon : ∀ run ∈ runs, run.icon = none
  text : (runs.flatMap fun run => run.text.toList) =
    (is.filter Instruction.isShown).flatMap fun i => i.written.toList

omit [Scalar α] in
theorem Spells.shown {i : Instruction} (h : Spells runs is) (hi : i.isShown)
    (hicon : run.icon = none) (htext : run.text = i.written) : Spells (run :: runs) (i :: is) where
  icon := List.forall_mem_cons.mpr ⟨hicon, h.icon⟩
  text := by simp [hi, htext, h.text]

omit [Scalar α] in
theorem Spells.tag {i : Instruction} (h : Spells runs is) (hi : i.isShown = false) :
    Spells runs (i :: is) := ⟨h.icon, by simp [hi, h.text]⟩

theorem content_plainRun {text : String} {icon : Option Picture}
    (h : scene.plainRun text style icon = .ok run) : run.text = text ∧ run.icon = icon := by
  obtain ⟨color, -, h⟩ := bind_eq_ok.mp h
  obtain ⟨background, -, h⟩ := bind_eq_ok.mp h
  cases h
  exact ⟨rfl, rfl⟩

variable (hnone : ∀ name, (store.load scene.photos scene.project.images name).1 = .ok none)

include hnone

theorem content_placeholderRun {name : String}
    (h : scene.placeholderRun store name style = .ok run) :
    run.text = ":" ++ name ++ ":" ∧ run.icon = none := by
  have hcontent : scene.placeholderContent store name = .ok (":" ++ name ++ ":", none) := by
    rw [placeholderContent, hnone name]
    rfl
  rw [placeholderRun, hcontent] at h
  exact content_plainRun h

/-- Where no name leads to a picture, tags lose their letters and nothing else does. -/
theorem plainRuns_spells (h : scene.plainRuns store base styles is = .ok runs) : Spells runs is := by
  induction is generalizing styles runs with
  | nil =>
    cases h
    exact ⟨by simp, rfl⟩
  | cons i rest ih =>
    cases i with
    | text s =>
      obtain ⟨run, hrun, h⟩ := bind_eq_ok.mp h
      obtain ⟨more, hmore, h⟩ := bind_eq_ok.mp h
      cases h
      obtain ⟨htext, hicon⟩ := content_plainRun hrun
      exact (ih hmore).shown rfl hicon htext
    | placeholder name =>
      obtain ⟨run, hrun, h⟩ := bind_eq_ok.mp h
      obtain ⟨more, hmore, h⟩ := bind_eq_ok.mp h
      cases h
      obtain ⟨htext, hicon⟩ := content_placeholderRun hnone hrun
      exact (ih hmore).shown rfl hicon htext
    | push tag =>
      obtain ⟨inner, -, h⟩ := bind_eq_ok.mp h
      exact (ih h).tag rfl
    | pop tag => exact (ih h).tag rfl

end Scene

namespace Draw

theorem textRuns_spell {s t : Studio α} {tags : List (String × FlatTextStyle α)}
    {runs : List (TextRun α)}
    (hnone : ∀ name, (s.images.load scene.photos scene.project.images name).1 = .ok none)
    (h : (textRuns scene base tags is).outcome s = (.ok runs, t)) :
    t.calls = s.calls ∧ (∀ run ∈ runs, run.icon = none) ∧
      (runs.flatMap fun run => run.text.toList) =
        (is.filter Instruction.isShown).flatMap fun i => i.written.toList := by
  obtain ⟨hruns, hrests⟩ := (textRuns_yields scene s base tags is (.refl _)).of_outcome h
  cases hplain : scene.plainRuns s.images base (tags.map Prod.snd) is with
  | error f =>
    rw [hplain] at hruns
    cases hruns
  | ok plain =>
    rw [hplain] at hruns
    cases hruns
    have hspells := Scene.plainRuns_spells hnone hplain
    exact ⟨hrests.calls, by simpa [PlainRun.set] using hspells.icon,
      by simpa [List.flatMap_map, PlainRun.set] using hspells.text⟩

/-- A text whose conditions hold paints its runs, if there are any. -/
theorem outcome_text {contents : CardText} {frame : Frame α} {name : Option String}
    {textStyles : List (TextStyle α)} {s t u : Studio α} {source : String} {runs : List (TextRun α)}
    (hbase : (baseStyle scene name textStyles).outcome s = (.ok base, t))
    (hconditions : Condition.allHold scene.card base.conditions = .ok true)
    (hsource : contents.render scene.card = .ok source)
    (hruns : (textRuns scene base [] (Markup.parse source)).outcome t = (.ok runs, u)) :
    (text scene contents frame name textStyles).outcome s =
      (.ok (), if runs.isEmpty then u else u.painted scene (.text runs frame base.align)) := by
  unfold text
  rw [outcome_of_ok hbase, hconditions, outcome_of_ok (outcome_lift_eq_ok.mpr ⟨rfl, rfl⟩),
    if_pos rfl, hsource, outcome_of_ok (outcome_lift_eq_ok.mpr ⟨rfl, rfl⟩), outcome_of_ok hruns]
  cases runs <;> rfl

/-- Where no image has a name, a text whose conditions hold and whose runs are not transparent writes
what is visible of its contents without their tags, once and in order. -/
theorem text_writes_contents (contents : CardText) (frame : Frame α) (name : Option String)
    (styles : List (TextStyle α)) {s t u : Studio α}
    (himages : ∀ image, scene.project.images.get? image = none)
    (hstore : ImageStore.Reached scene.photos scene.project.images s.images)
    (hbase : (baseStyle scene name styles).outcome s = (.ok base, u))
    (hconditions : Condition.allHold scene.card base.conditions = .ok true)
    (h : (text scene contents frame name styles).outcome s = (.ok (), t)) :
    ∃ source runs calls v, contents.render scene.card = .ok source ∧
      (textRuns scene base [] (Markup.parse source)).outcome u = (.ok runs, v) ∧
      t.calls = s.calls ++ calls ∧
      ((∀ run ∈ runs, run.color.isTransparent = false) →
        visible ((calls.flatMap PaintCall.canvasCalls).flatMap CanvasCall.letters) =
          visible (Markup.withoutTags source).toList) := by
  have hrests : scene.Rests s u := by
    obtain ⟨named, -, hyields⟩ := baseStyle_cases scene name styles
    exact ((hyields s).of_outcome hbase).2
  have hnone : ∀ image, (u.images.load scene.photos scene.project.images image).1 = .ok none := by
    intro image
    rw [hrests.images image]
    exact hstore.load_of_empty himages image
  have hsteps := h
  unfold text at hsteps
  rw [outcome_of_ok hbase, hconditions, outcome_of_ok (outcome_lift_eq_ok.mpr ⟨rfl, rfl⟩),
    if_pos rfl] at hsteps
  obtain ⟨source, v, hrender, hsteps⟩ := outcome_bind_eq_ok.mp hsteps
  obtain ⟨hsource, rfl⟩ := outcome_lift_eq_ok.mp hrender
  obtain ⟨runs, w, hruns, -⟩ := outcome_bind_eq_ok.mp hsteps
  obtain ⟨hcalls, hicons, hletters⟩ := textRuns_spell hnone hruns
  have hwritten : (runs.flatMap fun run => run.text.toList) = (Markup.withoutTags source).toList := by
    rw [hletters, Markup.withoutTags, String.toList_join, List.flatMap_map]
  obtain rfl := congrArg Prod.snd (h.symm.trans (outcome_text hbase hconditions hsource hruns))
  rw [hrests.calls] at hcalls
  cases runs with
  | nil =>
    refine ⟨source, [], [], w, hsource, hruns, by simpa using hcalls, fun _ => ?_⟩
    rw [← hwritten]
    rfl
  | cons run rest =>
    refine ⟨source, run :: rest, [.text (run :: rest) frame base.align], w, hsource, hruns,
      congrArg (· ++ [_]) hcalls, fun hcolors => ?_⟩
    rw [List.flatMap_singleton, ← hwritten]
    exact PaintCall.letters_text (fun run hrun => ⟨hicons run hrun, hcolors run hrun⟩) _ _

/-- A deck with a bold style and no images. -/
def spellScene : Scene Rat where
  project := { styles := Named.empty.put "b" [.bold] }
  photos := fun _ => none
  surface := .page
  card := ⟨"a", .empty⟩
  layout := ⟨"default", ⟨40, 40, .zero, .zero, 72⟩, [], [], []⟩

def spell : CardText := ⟨"<b>Fire</b>ball  :fire:\n</b>a < b", none⟩

theorem textRuns_spell_black : ∃ runs t,
    (textRuns spellScene {} [] (Markup.parse spell.source)).outcome {} = (.ok runs, t) ∧
      ∀ run ∈ runs, run.color = .black := by
  have hparse : Markup.parse spell.source = [.push "b", .text "Fire", .pop "b", .text "ball  ",
      .placeholder "fire", .text "\n", .pop "b", .text "a < b"] := by decide
  rw [hparse]
  exact ⟨[_, _, _, _, _], _, rfl, by simp⟩

theorem text_writes_contents_spell : ∃ t,
    (text spellScene spell ⟨0, 0, 40, 40⟩ none []).outcome {} = (.ok (), t) ∧
      visible ((t.calls.flatMap PaintCall.canvasCalls).flatMap CanvasCall.letters) =
        "Fireball:fire:a<b".toList := by
  obtain ⟨black, u, hblack, hcolors⟩ := textRuns_spell_black
  have hbase : (baseStyle spellScene none []).outcome {} = (.ok {}, {}) := rfl
  obtain ⟨t, ht⟩ : ∃ t, (text spellScene spell ⟨0, 0, 40, 40⟩ none []).outcome {} = (.ok (), t) :=
    ⟨_, outcome_text hbase rfl rfl hblack⟩
  refine ⟨t, ht, ?_⟩
  obtain ⟨source, runs, calls, v, hsource, hruns, hcalls, hletters⟩ :=
    text_writes_contents spell ⟨0, 0, 40, 40⟩ none [] (fun _ => rfl) .start hbase rfl ht
  obtain rfl : spell.source = source := Except.ok.inj hsource
  obtain rfl : black = runs := Except.ok.inj (congrArg Prod.fst (hblack.symm.trans hruns))
  rw [hcalls, List.nil_append, hletters fun run hrun => by rw [hcolors run hrun]; rfl]
  decide

end Draw

end CardPress
