import Mathlib.Analysis.SpecialFunctions.Trigonometric.Basic
import Mathlib.Tactic.Linarith
import Mathlib.Tactic.LinearCombination
import Mathlib.Tactic.Ring
import CardPress.Impose
import CardPress.Paint.Canvas
import CardPress.Proofs.Draw.Outcome
import CardPress.Proofs.Number.Exact
import CardPress.Proofs.Paint.Page

/-! Where a card comes to lie on its slot, in exact numbers: turned and mirrored about its middle, and
nothing else. -/
namespace CardPress

/-! Real numbers as lengths: fractions do not do, since most angles have no cosine among these. -/

/-- A real number has no text of its own; nothing that is said of lengths here asks for one. -/
noncomputable instance : Scalar ℝ where
  decideLt := inferInstance
  decideLe := inferInstance
  ofNat n := n
  ofNumeral? n := n.toFraction?.map fun x => (x : ℝ)
  floorQuotient x y := .ok ⌊x / y⌋
  text _ := ""

namespace Scalar

@[simp] theorem ofNat_real (n : Nat) : (ofNat n : ℝ) = n := rfl

@[simp] theorem zero_real : (zero : ℝ) = 0 := Nat.cast_zero

theorem isZero_real (x : ℝ) : isZero x = true ↔ x = 0 := by
  unfold isZero
  rw [zero_real, decide_eq_true_iff]
  exact ⟨fun h => le_antisymm h.1 h.2, fun h => ⟨h.le, h.ge⟩⟩

theorem divide_real {x y : ℝ} (h : y ≠ 0) : divide x y = .ok (x / y) := by
  unfold divide
  rw [if_neg (mt (isZero_real y).mp h)]

end Scalar

/-! Cosines and sines. -/

/-- The cosine and the sine of so many right angles. -/
def quarterTurns (k : ℤ) : ℝ × ℝ :=
  if k % 4 = 0 then (1, 0) else if k % 4 = 1 then (0, 1) else if k % 4 = 2 then (-1, 0) else (0, -1)

namespace Trigonometry

/-- Angles in degrees have numbers for their cosines and sines that lie on the unit circle, are
mirrored for the opposite angle, and are exact for right angles. -/
structure IsCircular (trig : Trigonometry ℝ) (cos sin : ℝ → ℝ) : Prop where
  value : ∀ d, trig d = .ok (cos d, sin d)
  circle : ∀ d, cos d ^ 2 + sin d ^ 2 = 1
  cos_neg : ∀ d, cos (-d) = cos d
  sin_neg : ∀ d, sin (-d) = -sin d
  quarters : ∀ k : ℤ, (cos (90 * k), sin (90 * k)) = quarterTurns k

variable {trig : Trigonometry ℝ} {cos sin : ℝ → ℝ}

theorem IsCircular.zero (h : trig.IsCircular cos sin) : cos 0 = 1 ∧ sin 0 = 0 := by
  simpa [quarterTurns] using h.quarters 0

/-- After half turns the sine is zero, and the cosine is one or its opposite. -/
theorem IsCircular.half (h : trig.IsCircular cos sin) (k : ℤ) :
    sin (180 * k) = 0 ∧ (cos (180 * k) = 1 ∨ cos (180 * k) = -1) := by
  have hq := h.quarters (2 * k)
  rw [show (90 : ℝ) * (2 * k : ℤ) = 180 * k by push_cast; ring] at hq
  rcases Int.emod_two_eq_zero_or_one k with hk | hk
  · rw [quarterTurns, if_pos (by omega), Prod.mk.injEq] at hq
    exact ⟨hq.2, .inl hq.1⟩
  · rw [quarterTurns, if_neg (by omega), if_neg (by omega), if_pos (by omega), Prod.mk.injEq] at hq
    exact ⟨hq.2, .inr hq.1⟩

/-- The cosine and the sine of every angle, which have no rounding to them. -/
noncomputable def exact : Trigonometry ℝ := fun d =>
  .ok (Real.cos (d * (Real.pi / 180)), Real.sin (d * (Real.pi / 180)))

theorem exact_isCircular : exact.IsCircular (fun d => Real.cos (d * (Real.pi / 180)))
    fun d => Real.sin (d * (Real.pi / 180)) where
  value _ := rfl
  circle d := Real.cos_sq_add_sin_sq _
  cos_neg d := by rw [neg_mul, Real.cos_neg]
  sin_neg d := by rw [neg_mul, Real.sin_neg]
  quarters k := by
    have hk : (90 : ℝ) * k * (Real.pi / 180) =
        (k % 4 : ℤ) * (Real.pi / 2) + (k / 4 : ℤ) * (2 * Real.pi) := by
      have hdiv : (k : ℝ) = 4 * (k / 4 : ℤ) + (k % 4 : ℤ) := by
        exact_mod_cast (Int.mul_ediv_add_emod k 4).symm
      rw [hdiv]
      ring
    rw [hk, Real.cos_add_int_mul_two_pi, Real.sin_add_int_mul_two_pi]
    unfold quarterTurns
    have hfour : k % 4 = 0 ∨ k % 4 = 1 ∨ k % 4 = 2 ∨ k % 4 = 3 := by omega
    rcases hfour with h | h | h | h <;> rw [h]
    · simp
    · simp
    · have htwo : ((2 : ℤ) : ℝ) * (Real.pi / 2) = Real.pi := by push_cast; ring
      rw [htwo, Real.cos_pi, Real.sin_pi]
      rfl
    · have hthree : ((3 : ℤ) : ℝ) * (Real.pi / 2) = Real.pi / 2 + Real.pi := by push_cast; ring
      rw [hthree, Real.cos_add_pi, Real.sin_add_pi]
      simp

end Trigonometry

/-! Where transforms send points. -/

namespace Transform

variable (t : Transform ℝ) (x y u v : ℝ)

@[simp] theorem apply_identity : (identity : Transform ℝ).apply x y = (x, y) := by
  simp [identity, apply]

@[simp] theorem apply_andThen (s : Transform ℝ) :
    (t.andThen s).apply x y = s.apply (t.apply x y).1 (t.apply x y).2 := by
  simp only [apply, andThen]
  ext <;> simp only <;> ring

@[simp] theorem apply_translated :
    (t.translate u v).apply x y = ((t.apply x y).1 + u, (t.apply x y).2 + v) := by
  simp only [apply, translate]
  ext <;> simp only <;> ring

@[simp] theorem apply_scaled :
    (t.scale u v).apply x y = (u * (t.apply x y).1, v * (t.apply x y).2) := by
  simp only [apply, scale, andThen, Scalar.zero_real]
  ext <;> simp only <;> ring

@[simp] theorem apply_rotated :
    (t.rotate u v).apply x y =
      (u * (t.apply x y).1 - v * (t.apply x y).2, v * (t.apply x y).1 + u * (t.apply x y).2) := by
  simp only [apply, rotate, andThen, Scalar.zero_real]
  ext <;> simp only <;> ring

/-- Transforms are told apart by where they send points. -/
theorem eq_of_apply {s t : Transform ℝ} (h : ∀ x y, s.apply x y = t.apply x y) : s = t := by
  have h0 := h 0 0
  have hx := h 1 0
  have hy := h 0 1
  simp only [apply, Prod.mk.injEq, mul_zero, mul_one, zero_add] at h0 hx hy
  obtain ⟨a, b, c, d, e, f⟩ := s
  obtain ⟨a', b', c', d', e', f'⟩ := t
  simp only [mk.injEq]
  simp only at h0 hx hy
  refine ⟨?_, ?_, ?_, ?_, h0.1, h0.2⟩ <;> linarith

end Transform

/-- The points of a rectangle, whose sides may be negative. -/
def Frame.points (f : Frame ℝ) : Set (ℝ × ℝ) :=
  Set.uIcc f.x (f.x + f.width) ×ˢ Set.uIcc f.y (f.y + f.height)

/-- The square of the distance between two points. -/
def distSq (p q : ℝ × ℝ) : ℝ := (p.1 - q.1) ^ 2 + (p.2 - q.2) ^ 2

namespace Slot

variable {trig : Trigonometry ℝ} {cos sin : ℝ → ℝ}

def mirror (v : ℝ × ℝ) : Option Axis → ℝ × ℝ
  | none => v
  | some .horizontal => (-v.1, v.2)
  | some .vertical => (v.1, -v.2)

/-- A vector turned clockwise, where the second coordinate grows upward. -/
def clockwise (cos sin : ℝ → ℝ) (v : ℝ × ℝ) : Option ℝ → ℝ × ℝ
  | none => v
  | some d => (v.1 * cos d + v.2 * sin d, v.2 * cos d - v.1 * sin d)

/-- What a slot makes of a vector of a card: it is mirrored first and turned then. -/
def vector (cos sin : ℝ → ℝ) (slot : Slot ℝ) (v : ℝ × ℝ) : ℝ × ℝ :=
  clockwise cos sin (mirror v slot.reflect) slot.rotate

theorem apply_reflected (reflect : Option Axis) (t : Transform ℝ) (x y : ℝ) :
    (reflected t reflect).apply x y = mirror (t.apply x y) reflect := by
  cases reflect with
  | none => rfl
  | some axis => cases axis <;> simp [reflected, mirror]

/-- Turning about the middle of a box at the origin. -/
theorem exists_turned (h : trig.IsCircular cos sin) (reflect : Option Axis) (angle : Option ℝ)
    (box : Area ℝ) (t : Transform ℝ) :
    ∃ t', turned trig reflect angle box t = .ok t' ∧ ∀ x y, t'.apply x y =
      (box.width / 2, box.height / 2) + clockwise cos sin
        (mirror (t.apply x y - (box.width / 2, box.height / 2)) reflect) angle := by
  have hmiddle : ∀ x y, (reflected (t.translate (-box.width / 2) (-box.height / 2)) reflect).apply x y =
      mirror (t.apply x y - (box.width / 2, box.height / 2)) reflect := by
    intro x y
    rw [apply_reflected, Transform.apply_translated]
    congr 1
    ext <;> simp only [Prod.fst_sub, Prod.snd_sub] <;> ring
  unfold turned
  simp only [Scalar.ofNat_real, Nat.cast_ofNat]
  cases angle with
  | none =>
    refine ⟨_, rfl, fun x y => ?_⟩
    rw [Transform.apply_translated, hmiddle]
    ext <;> simp only [clockwise, Prod.fst_add, Prod.snd_add] <;> ring
  | some d =>
    dsimp only
    rw [h.value, h.cos_neg, h.sin_neg]
    refine ⟨_, rfl, fun x y => ?_⟩
    rw [Transform.apply_translated, Transform.apply_rotated, hmiddle]
    ext <;> simp only [clockwise, Prod.fst_add, Prod.snd_add] <;> ring

/-- An angle of zero turns nothing. -/
theorem clockwise_filter (h : trig.IsCircular cos sin) (angle : Option ℝ) (v : ℝ × ℝ) :
    clockwise cos sin v (angle.filter fun d => !Scalar.isZero d) = clockwise cos sin v angle := by
  cases angle with
  | none => rfl
  | some d =>
    rw [Option.filter_some]
    by_cases hd : d = 0
    · obtain ⟨hc, hs⟩ := h.zero
      rw [if_neg (by simpa using (Scalar.isZero_real d).mpr hd), hd]
      simp [clockwise, hc, hs]
    · rw [if_pos (by simpa using mt (Scalar.isZero_real d).mp hd)]

/-- The middle of a card's box on a page of some height, once the card lies on the slot. -/
noncomputable def middle (slot : Slot ℝ) (box : Area ℝ) (pageHeight : ℝ) : ℝ × ℝ :=
  (slot.x + box.width / 2, pageHeight - slot.y - box.height / 2)

/-- A point of a card goes as far from the middle of the slot as it is from the middle of the box. -/
def Sends (cos sin : ℝ → ℝ) (slot : Slot ℝ) (box : Area ℝ) (pageHeight : ℝ) (t : Transform ℝ) :
    Prop :=
  ∀ x y, t.apply x y = slot.middle box pageHeight +
    slot.vector cos sin (x - (box.x + box.width / 2), y - (box.y + box.height / 2))

/-- Moving a box to the origin and what was turned about its middle there to the slot. -/
theorem sends_of_turned {slot : Slot ℝ} {box : Area ℝ} {t : Transform ℝ} (pageHeight : ℝ)
    (h : ∀ x y, t.apply x y = (box.width / 2, box.height / 2) + slot.vector cos sin
      (Transform.apply (Transform.identity.translate (-box.x) (-box.y)) x y -
        (box.width / 2, box.height / 2))) :
    slot.Sends cos sin box pageHeight (t.translate slot.x (pageHeight - slot.y - box.height)) := by
  intro x y
  have hmiddle : Transform.apply (Transform.identity.translate (-box.x) (-box.y)) x y -
      (box.width / 2, box.height / 2) =
        (x - (box.x + box.width / 2), y - (box.y + box.height / 2)) := by
    ext <;> simp <;> ring
  rw [Transform.apply_translated, h, hmiddle]
  ext <;> simp only [middle, Prod.fst_add, Prod.snd_add] <;> ring

/-- The way of a slot that mirrors or turns gives the same for one that does neither. -/
theorem exists_transform (h : trig.IsCircular cos sin) (slot : Slot ℝ) (box : Area ℝ)
    (pageHeight : ℝ) : ∃ t, slot.transform trig box pageHeight = .ok t ∧
      slot.Sends cos sin box pageHeight t := by
  let angle := slot.rotate.filter fun d => !Scalar.isZero d
  have hvector : ∀ v, clockwise cos sin (mirror v slot.reflect) angle = slot.vector cos sin v :=
    fun v => clockwise_filter h slot.rotate _
  unfold transform
  dsimp only
  by_cases hturned : (slot.reflect.isSome || angle.isSome) = true
  · rw [if_pos hturned]
    obtain ⟨t, ht, happly⟩ := exists_turned h slot.reflect angle box
      (Transform.identity.translate (-box.x) (-box.y))
    rw [ht]
    exact ⟨_, rfl, sends_of_turned pageHeight fun x y => by rw [happly, hvector]⟩
  · rw [if_neg hturned]
    refine ⟨_, rfl, sends_of_turned pageHeight fun x y => ?_⟩
    simp only [Bool.or_eq_true, not_or, Bool.not_eq_true, Option.isSome_eq_false_iff,
      Option.isNone_iff_eq_none] at hturned
    rw [← hvector, hturned.1, hturned.2, mirror, clockwise, add_sub_cancel]

/-- Turned by half turns only, if at all. -/
def IsStraight (slot : Slot ℝ) : Prop := ∀ d, slot.rotate = some d → ∃ k : ℤ, d = 180 * k

/-- Neither mirrored nor turned. -/
def IsPlain (slot : Slot ℝ) : Prop := slot.reflect = none ∧ ∀ d, slot.rotate = some d → d = 0

theorem distSq_mirror (v : ℝ × ℝ) (reflect : Option Axis) :
    (mirror v reflect).1 ^ 2 + (mirror v reflect).2 ^ 2 = v.1 ^ 2 + v.2 ^ 2 := by
  cases reflect with
  | none => rfl
  | some axis => cases axis <;> simp only [mirror] <;> ring

theorem distSq_vector (h : trig.IsCircular cos sin) (slot : Slot ℝ) (v : ℝ × ℝ) :
    (slot.vector cos sin v).1 ^ 2 + (slot.vector cos sin v).2 ^ 2 = v.1 ^ 2 + v.2 ^ 2 := by
  rw [← distSq_mirror v slot.reflect, vector]
  cases slot.rotate with
  | none => rfl
  | some d =>
    simp only [clockwise]
    linear_combination ((mirror v slot.reflect).1 ^ 2 + (mirror v slot.reflect).2 ^ 2) * h.circle d

theorem vector_sub (slot : Slot ℝ) (v w : ℝ × ℝ) :
    slot.vector cos sin (v - w) = slot.vector cos sin v - slot.vector cos sin w := by
  have hmirror : mirror (v - w) slot.reflect = mirror v slot.reflect - mirror w slot.reflect := by
    cases slot.reflect with
    | none => rfl
    | some axis => cases axis <;> ext <;> simp only [mirror, Prod.fst_sub, Prod.snd_sub] <;> ring
  rw [vector, hmirror]
  cases hrotate : slot.rotate with
  | none => simp only [vector, hrotate, clockwise]
  | some d =>
    ext <;> simp only [vector, hrotate, clockwise, Prod.fst_sub, Prod.snd_sub] <;> ring

/-- A straight slot keeps or turns round each of the two directions. -/
theorem IsStraight.vector {slot : Slot ℝ} (hs : slot.IsStraight) (h : trig.IsCircular cos sin) :
    ∃ a b : ℝ, (a = 1 ∨ a = -1) ∧ (b = 1 ∨ b = -1) ∧
      ∀ v, slot.vector cos sin v = (a * v.1, b * v.2) := by
  obtain ⟨a, b, ha, hb, hmirror⟩ : ∃ a b : ℝ, (a = 1 ∨ a = -1) ∧ (b = 1 ∨ b = -1) ∧
      ∀ v, mirror v slot.reflect = (a * v.1, b * v.2) := by
    cases slot.reflect with
    | none => exact ⟨1, 1, .inl rfl, .inl rfl, fun v => by simp [mirror]⟩
    | some axis =>
      cases axis with
      | horizontal => exact ⟨-1, 1, .inr rfl, .inl rfl, fun v => by simp [mirror]⟩
      | vertical => exact ⟨1, -1, .inl rfl, .inr rfl, fun v => by simp [mirror]⟩
  cases hrotate : slot.rotate with
  | none => exact ⟨a, b, ha, hb, fun v => by rw [Slot.vector, hrotate, clockwise, hmirror]⟩
  | some d =>
    obtain ⟨k, rfl⟩ := hs d hrotate
    obtain ⟨hsin, hcos⟩ := h.half k
    have hturn : ∀ v, slot.vector cos sin v = (cos (180 * k) * a * v.1, cos (180 * k) * b * v.2) := by
      intro v
      rw [Slot.vector, hrotate, clockwise, hmirror, hsin]
      ext <;> simp only <;> ring
    rcases hcos with hcos | hcos <;> rw [hcos] at hturn
    · exact ⟨1 * a, 1 * b, by simpa using ha, by simpa using hb, hturn⟩
    · exact ⟨-1 * a, -1 * b, by rcases ha with rfl | rfl <;> simp, by rcases hb with rfl | rfl <;> simp,
        hturn⟩

/-- An interval kept or turned round is the one of the same length about the new middle. -/
theorem image_interval {a : ℝ} (ha : a = 1 ∨ a = -1) (middle middle' length : ℝ) :
    (fun x => middle' + a * (x - middle)) '' Set.uIcc (middle - length / 2) (middle + length / 2) =
      Set.uIcc (middle' - length / 2) (middle' + length / 2) := by
  rcases ha with rfl | rfl
  · have hshift : (fun x : ℝ => middle' + 1 * (x - middle)) = fun x => (middle' - middle) + x := by
      funext x
      ring
    rw [hshift, Set.image_const_add_uIcc]
    congr 1 <;> ring
  · have hflip : (fun x : ℝ => middle' + -1 * (x - middle)) = fun x => (middle' + middle) - x := by
      funext x
      ring
    rw [hflip, Set.image_const_sub_uIcc, Set.uIcc_comm]
    congr 1 <;> ring

/-- On a straight slot the box covers the rectangle below and to the right of the slot's corner. -/
theorem Sends.image_box {slot : Slot ℝ} {box : Area ℝ} {pageHeight : ℝ} {t : Transform ℝ}
    (ht : slot.Sends cos sin box pageHeight t) (h : trig.IsCircular cos sin) (hs : slot.IsStraight) :
    (fun p : ℝ × ℝ => t.apply p.1 p.2) '' box.points =
      Frame.points ⟨slot.x, pageHeight - slot.y - box.height, box.width, box.height⟩ := by
  obtain ⟨a, b, ha, hb, hvector⟩ := hs.vector h
  have happly : (fun p : ℝ × ℝ => t.apply p.1 p.2) = Prod.map
      (fun x => (slot.x + box.width / 2) + a * (x - (box.x + box.width / 2)))
      (fun y => (pageHeight - slot.y - box.height / 2) + b * (y - (box.y + box.height / 2))) := by
    funext p
    rw [ht, hvector]
    rfl
  have hinterval : ∀ x w : ℝ,
      Set.uIcc x (x + w) = Set.uIcc (x + w / 2 - w / 2) (x + w / 2 + w / 2) := by
    intro x w
    congr 1 <;> ring
  rw [happly, Frame.points, Set.prodMap_image_prod, hinterval box.x, hinterval box.y,
    image_interval ha, image_interval hb, Frame.points]
  congr 2 <;> ring

end Slot

/-! The page of a card. -/

namespace CanvasCall

/-- What a call makes of where points go. -/
def moved {α : Type} [Scalar α] (t : Transform α) : CanvasCall α → Transform α
  | .translate x y => (Transform.identity.translate x y).andThen t
  | .scale x y => (Transform.identity.scale x y).andThen t
  | _ => t

/-- Where points go after calls on a new page. -/
def placement {α : Type} [Scalar α] (cs : List (CanvasCall α)) : Transform α :=
  cs.foldl moved Transform.identity

/-- It is where the pen of the page sends them. -/
theorem placement_eq_place {cs : List (CanvasCall Rat)} (h : ∀ c ∈ cs, c.isPaired = false) :
    placement cs = (PageState.blank.after cs).pen.place := by
  have hfold : ∀ s : PageState, cs.foldl moved s.pen.place = (s.after cs).pen.place := by
    induction cs with
    | nil => exact fun s => rfl
    | cons c rest ih =>
      intro s
      have hstep : moved s.pen.place c = (s.step c).pen.place := by
        cases c <;> first | rfl | simp [isPaired] at h
      rw [List.foldl_cons, hstep, ih fun c hc => h c (List.mem_cons_of_mem _ hc)]
      rfl
  exact hfold PageState.blank

theorem exists_turnOver (height : ℝ) {dpi : ℝ} (hdpi : 0 < dpi) :
    ∃ turn, turnOver height dpi = .ok turn ∧
      ∀ x y, (placement turn).apply x y = (x * 72 / dpi, (height - y) * 72 / dpi) := by
  unfold turnOver
  rw [Scalar.divide_real hdpi.ne']
  refine ⟨_, rfl, fun x y => ?_⟩
  simp only [placement, List.foldl_cons, List.foldl_nil, moved, Transform.apply_andThen,
    Transform.apply_scaled, Transform.apply_translated, Transform.apply_identity,
    Scalar.ofNat_real, Scalar.zero_real]
  ext <;> push_cast <;> ring

end CanvasCall

/-- The box of a card in points, from the bottom left corner of its page. -/
noncomputable def Geometry.box (g : Geometry ℝ) : Area ℝ :=
  ⟨g.cut.left * 72 / g.dpi, g.cut.bottom * 72 / g.dpi, g.contentWidth * 72 / g.dpi,
    g.contentHeight * 72 / g.dpi⟩

theorem Geometry.contentBox_eq {g : Geometry ℝ} (hdpi : 0 < g.dpi) : g.contentBox = .ok g.box := by
  have hpoints : ∀ x : ℝ, pointsOfPixels x g.dpi = .ok (x * 72 / g.dpi) := by
    intro x
    unfold pointsOfPixels
    rw [Scalar.divide_real hdpi.ne', Scalar.ofNat_real]
    push_cast
    rfl
  unfold contentBox
  simp only [hpoints]
  rfl

namespace Slot

variable {trig : Trigonometry ℝ} {cos sin : ℝ → ℝ}

/-- A card's page is moved so that nothing but its place changes, is mirrored and turned as the slot
asks, and has the middle of its box on the middle of the slot. -/
structure Lands (trig : Trigonometry ℝ) (cos sin : ℝ → ℝ) (slot : Slot ℝ) (g : Geometry ℝ)
    (pageHeight : ℝ) (t : Transform ℝ) : Prop where
  isometry : ∀ p q : ℝ × ℝ, distSq (t.apply p.1 p.2) (t.apply q.1 q.2) = distSq p q
  linear : ∀ p v : ℝ × ℝ,
    t.apply (p.1 + v.1) (p.2 + v.2) = t.apply p.1 p.2 + slot.vector cos sin v
  middle : t.apply (g.box.x + g.box.width / 2) (g.box.y + g.box.height / 2) =
    (slot.x + g.box.width / 2, pageHeight - slot.y - g.box.height / 2)
  straight : slot.IsStraight → (fun p : ℝ × ℝ => t.apply p.1 p.2) '' g.box.points =
    Frame.points ⟨slot.x, pageHeight - slot.y - g.box.height, g.box.width, g.box.height⟩
  general : (turned trig slot.reflect slot.rotate g.box
      (Transform.identity.translate (-g.box.x) (-g.box.y))).map
        (·.translate slot.x (pageHeight - slot.y - g.box.height)) = .ok t
  page : slot.IsPlain → ∃ turn, CanvasCall.turnOver g.height g.dpi = .ok turn ∧
    ∀ x y, ((CanvasCall.placement turn).andThen t).apply x y =
      (slot.x + (x - g.cut.left) * 72 / g.dpi, pageHeight - slot.y - (y - g.cut.top) * 72 / g.dpi)

theorem Sends.page {slot : Slot ℝ} {g : Geometry ℝ} {pageHeight : ℝ} {t : Transform ℝ}
    (ht : slot.Sends cos sin g.box pageHeight t) (h : trig.IsCircular cos sin) (hdpi : 0 < g.dpi)
    (hplain : slot.IsPlain) : ∃ turn, CanvasCall.turnOver g.height g.dpi = .ok turn ∧
      ∀ x y, ((CanvasCall.placement turn).andThen t).apply x y =
        (slot.x + (x - g.cut.left) * 72 / g.dpi,
          pageHeight - slot.y - (y - g.cut.top) * 72 / g.dpi) := by
  have hvector : ∀ v, slot.vector cos sin v = v := by
    intro v
    rw [vector, hplain.1, mirror]
    cases hrotate : slot.rotate with
    | none => rfl
    | some d =>
      obtain ⟨hc, hs⟩ := h.zero
      simp [clockwise, hplain.2 d hrotate, hc, hs]
  obtain ⟨turn, hturn, hplace⟩ := CanvasCall.exists_turnOver g.height hdpi
  refine ⟨turn, hturn, fun x y => ?_⟩
  rw [Transform.apply_andThen, hplace, ht, hvector]
  simp only [Slot.middle, Geometry.box, Geometry.contentWidth, Geometry.contentHeight]
  ext <;> simp only [Prod.fst_add, Prod.snd_add] <;> ring

theorem Sends.isometry {slot : Slot ℝ} {box : Area ℝ} {pageHeight : ℝ} {t : Transform ℝ}
    (ht : slot.Sends cos sin box pageHeight t) (h : trig.IsCircular cos sin) (p q : ℝ × ℝ) :
    distSq (t.apply p.1 p.2) (t.apply q.1 q.2) = distSq p q := by
  have hdiff : t.apply p.1 p.2 - t.apply q.1 q.2 = slot.vector cos sin (p - q) := by
    rw [ht, ht, add_sub_add_left_eq_sub, ← vector_sub]
    congr 1
    ext <;> simp only [Prod.fst_sub, Prod.snd_sub] <;> ring
  have hdist := distSq_vector h slot (p - q)
  rw [← hdiff] at hdist
  exact hdist

theorem Sends.linear {slot : Slot ℝ} {box : Area ℝ} {pageHeight : ℝ} {t : Transform ℝ}
    (ht : slot.Sends cos sin box pageHeight t) (p v : ℝ × ℝ) :
    t.apply (p.1 + v.1) (p.2 + v.2) = t.apply p.1 p.2 + slot.vector cos sin v := by
  have hv : slot.vector cos sin v =
      t.apply (p.1 + v.1) (p.2 + v.2) - t.apply p.1 p.2 := by
    rw [ht, ht, add_sub_add_left_eq_sub, ← vector_sub]
    congr 1
    ext <;> simp only [Prod.fst_sub, Prod.snd_sub] <;> ring
  rw [hv, add_sub_cancel]

theorem Sends.middle {slot : Slot ℝ} {box : Area ℝ} {pageHeight : ℝ} {t : Transform ℝ}
    (ht : slot.Sends cos sin box pageHeight t) :
    t.apply (box.x + box.width / 2) (box.y + box.height / 2) = slot.middle box pageHeight := by
  have hzero : slot.vector cos sin (0, 0) = 0 := by
    have hsub : slot.vector cos sin ((0, 0) - (0, 0)) =
        slot.vector cos sin (0, 0) - slot.vector cos sin (0, 0) := vector_sub slot (0, 0) (0, 0)
    rwa [sub_self, sub_self] at hsub
  rw [ht, sub_self, sub_self, hzero, add_zero]

/-- A card lands on its slot. -/
theorem transform_lands (h : trig.IsCircular cos sin) (slot : Slot ℝ) (g : Geometry ℝ)
    (hdpi : 0 < g.dpi) (pageHeight : ℝ) :
    ∃ t, g.contentBox = .ok g.box ∧ slot.transform trig g.box pageHeight = .ok t ∧
      slot.Lands trig cos sin g pageHeight t := by
  obtain ⟨t, ht, hsends⟩ := exists_transform h slot g.box pageHeight
  obtain ⟨t', ht', happly⟩ := exists_turned h slot.reflect slot.rotate g.box
    (Transform.identity.translate (-g.box.x) (-g.box.y))
  have hgeneral : t'.translate slot.x (pageHeight - slot.y - g.box.height) = t :=
    Transform.eq_of_apply fun x y => by rw [sends_of_turned pageHeight happly, hsends]
  refine ⟨t, Geometry.contentBox_eq hdpi, ht, hsends.isometry h, hsends.linear, hsends.middle,
    hsends.image_box h, ?_, hsends.page h hdpi⟩
  rw [ht', ← hgeneral]
  rfl

/-- A card that is turned upside down and mirrored: its content, cut off by other amounts at the
bottom and on the left, covers what it would cover as it is. -/
theorem transform_lands_mirrored : ∃ t, Slot.transform Trigonometry.exact
      ⟨10, 20, some 180, some .horizontal⟩ ⟨2, 3 / 2, 47, 23⟩ 792 = .ok t ∧
    (fun p : ℝ × ℝ => t.apply p.1 p.2) '' Frame.points ⟨2, 3 / 2, 47, 23⟩ =
      Frame.points ⟨10, 749, 47, 23⟩ := by
  let slot : Slot ℝ := ⟨10, 20, some 180, some .horizontal⟩
  let g : Geometry ℝ := ⟨100, 50, ⟨1, 2, 3, 4⟩, ⟨0, 0, 0, 0⟩, 144⟩
  obtain ⟨t, -, ht, hlands⟩ := transform_lands Trigonometry.exact_isCircular slot g
    (by norm_num [g]) 792
  have hbox : g.box = ⟨2, 3 / 2, 47, 23⟩ := by
    norm_num [g, Geometry.box, Geometry.contentWidth, Geometry.contentHeight]
  have hstraight := hlands.straight fun d hd => ⟨1, by simpa [slot] using hd.symm⟩
  rw [hbox] at ht hstraight
  refine ⟨t, ht, hstraight.trans ?_⟩
  norm_num [slot]

end Slot

end CardPress
