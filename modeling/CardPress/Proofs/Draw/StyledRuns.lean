import CardPress.Proofs.Draw.OpenTags
import CardPress.Proofs.Number.Exact

/-! The runs of marked-up text: one for each text and placeholder, in order, in the style of the tags
that are open there. -/
namespace CardPress

open Markup

variable {α : Type} [Scalar α] {scene : Scene α} {store : ImageStore} {base : FlatTextStyle α}
  {i : Instruction} {is rest : List Instruction} {opened : List String}
  {styles : List (FlatTextStyle α)} {run : PlainRun α} {runs : List (PlainRun α)}

namespace Scene

/-- A run shows an instruction in the style of the open tags. -/
def Sets (scene : Scene α) (store : ImageStore) (base : FlatTextStyle α) (opened : List String)
    (i : Instruction) (run : PlainRun α) : Prop :=
  ∃ text icon, scene.content store i = .ok (text, icon) ∧
    scene.plainRun text (scene.styleIn base opened) icon = .ok run

/-- Runs show what is shown of the instructions, one each and in order; `opened` are the tags that are
open in front of them. -/
structure Shows (scene : Scene α) (store : ImageStore) (base : FlatTextStyle α)
    (opened : List String) (is : List Instruction) (runs : List (PlainRun α)) : Prop where
  length : runs.length = (is.filter Instruction.isShown).length
  run : ∀ pre i post, is = pre ++ i :: post → i.isShown →
    ∃ run, runs[(pre.filter Instruction.isShown).length]? = some run ∧
      scene.Sets store base (tagsBehind opened pre) i run

theorem Shows.nil : scene.Shows store base opened [] [] :=
  ⟨rfl, fun pre i post h => by simp at h⟩

theorem Shows.shown (hi : i.isShown) (hrun : scene.Sets store base opened i run)
    (h : scene.Shows store base opened rest runs) :
    scene.Shows store base opened (i :: rest) (run :: runs) := by
  refine ⟨by simp [hi, h.length], fun pre j post hsplit hj => ?_⟩
  cases pre with
  | nil =>
    obtain ⟨rfl, -⟩ := List.cons.inj hsplit
    exact ⟨run, rfl, hrun⟩
  | cons first pre =>
    obtain ⟨rfl, hrest⟩ := List.cons.inj hsplit
    obtain ⟨found, hfound, hsets⟩ := h.run pre j post hrest hj
    refine ⟨found, by simpa [hi] using hfound, ?_⟩
    rw [tagsBehind, List.foldl_cons, Instruction.tagsAfter_of_isShown hi]
    exact hsets

theorem Shows.tag (hi : i.isShown = false)
    (h : scene.Shows store base (i.tagsAfter opened) rest runs) :
    scene.Shows store base opened (i :: rest) runs := by
  refine ⟨by simp [hi, h.length], fun pre j post hsplit hj => ?_⟩
  cases pre with
  | nil =>
    obtain ⟨rfl, -⟩ := List.cons.inj hsplit
    simp [hi] at hj
  | cons first pre =>
    obtain ⟨rfl, hrest⟩ := List.cons.inj hsplit
    obtain ⟨found, hfound, hsets⟩ := h.run pre j post hrest hj
    exact ⟨found, by simpa [hi] using hfound, hsets⟩

end Scene

namespace Draw

end Draw

end CardPress
