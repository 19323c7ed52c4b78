import CardPress.Proofs.Style.Cascade

/-! The attributes of text. In a cascade each of them has the value that the last style gives it
which gives it one, and a cascade is known by its attributes and its conditions. -/
namespace CardPress

variable {α : Type}

/-- What a style may give text, apart from conditions. -/
inductive TextAttribute where
  | foreground
  | background
  | size
  | align
  | family
  | weight
  | width
  | slant

def TextAttribute.Value (α : Type) : TextAttribute → Type
  | foreground | background => ColorRef
  | size => TextSize α
  | align => Alignment
  | family => String
  | weight => FontWeight
  | width => FontWidth
  | slant => FontSlant

namespace TextStyle

/-- What a style gives an attribute; a font gives only what it names. -/
def given? : TextStyle α → (a : TextAttribute) → Option (a.Value α)
  | font family _ _ _, .family => family
  | font _ weight _ _, .weight => weight
  | font _ _ width _, .width => width
  | font _ _ _ slant, .slant => slant
  | size s, .size => some s
  | align mode, .align => some mode
  | foreground color, .foreground => some color
  | background color, .background => some color
  | _, _ => none

def lastGiven? (styles : List (TextStyle α)) (a : TextAttribute) : Option (a.Value α) :=
  (styles.filterMap (·.given? a)).getLast?

variable (x : TextStyle α) (xs ys : List (TextStyle α)) (a : TextAttribute)

theorem lastGiven?_append :
    lastGiven? (xs ++ ys) a = (lastGiven? ys a).or (lastGiven? xs a) := by
  unfold lastGiven?
  rw [List.filterMap_append, List.getLast?_append]

theorem lastGiven?_cons : lastGiven? (x :: xs) a = (lastGiven? xs a).or (x.given? a) := by
  rw [← List.singleton_append, lastGiven?_append]
  cases h : x.given? a <;> simp [lastGiven?, h]

end TextStyle

open TextStyle

namespace FlatTextStyle

/-- The value of an attribute, if it has one. -/
def get? (s : FlatTextStyle α) : (a : TextAttribute) → Option (a.Value α)
  | .foreground => s.foreground
  | .background => s.background
  | .size => s.size
  | .align => some s.align
  | .family => s.family
  | .weight => some s.weight
  | .width => some s.width
  | .slant => s.slant

theorem get?_add (s : FlatTextStyle α) (x : TextStyle α) (a : TextAttribute) :
    (s.add x).get? a = (x.given? a).or (s.get? a) := by
  cases x with
  | font family weight width slant =>
    cases a with
    | weight => cases weight <;> rfl
    | width => cases width <;> rfl
    | _ => rfl
  | _ => cases a <;> rfl

/-- The last style that gives an attribute a value wins. -/
theorem get?_apply (s : FlatTextStyle α) (xs : List (TextStyle α)) (a : TextAttribute) :
    (s.apply xs).get? a = (lastGiven? xs a).or (s.get? a) := by
  induction xs generalizing s with
  | nil => rfl
  | cons x xs ih => rw [apply_cons, ih, get?_add, lastGiven?_cons, Option.or_assoc]

theorem eq_of_get? {s t : FlatTextStyle α} (h : ∀ a, s.get? a = t.get? a)
    (hconditions : s.conditions = t.conditions) : s = t := by
  obtain ⟨foreground, background, size, align, family, weight, width, slant, conditions⟩ := s
  obtain rfl : foreground = t.foreground := h .foreground
  obtain rfl : background = t.background := h .background
  obtain rfl : size = t.size := h .size
  obtain rfl : align = t.align := Option.some.inj (h .align)
  obtain rfl : family = t.family := h .family
  obtain rfl : weight = t.weight := Option.some.inj (h .weight)
  obtain rfl : width = t.width := Option.some.inj (h .width)
  obtain rfl : slant = t.slant := h .slant
  obtain rfl : conditions = t.conditions := hconditions
  rfl

/-- A cascade is the one style with these attributes and conditions. -/
theorem eq_apply_iff {s t : FlatTextStyle α} {xs : List (TextStyle α)} :
    t = s.apply xs ↔ (∀ a, t.get? a = (lastGiven? xs a).or (s.get? a)) ∧
      t.conditions = s.conditions ++ xs.filterMap TextStyle.condition? := by
  constructor
  · rintro rfl
    exact ⟨get?_apply s xs, conditions_apply s xs⟩
  · rintro ⟨hget, hconditions⟩
    refine eq_of_get? (fun a => ?_) ?_
    · rw [hget, get?_apply]
    · rw [hconditions, conditions_apply]

end FlatTextStyle

end CardPress
