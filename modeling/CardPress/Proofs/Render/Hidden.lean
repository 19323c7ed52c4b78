import CardPress.Proofs.Draw.Hidden
import CardPress.Proofs.Render.History

/-! Pages of cards without the elements that are hidden on them. -/
namespace CardPress

variable {α : Type} [Scalar α]

namespace Render

variable {source source' : Source α} {c : Card} {layout layout' : Layout α} {scene : Scene α}
  {layouts : Named (Layout α)} {es : List (Element α)} {width height : α}
  {opening : List (CanvasCall α)}

end Render

end CardPress
