import CardPress.Style.Text

/-! What a cascade adds up to: styles in a row, and the conditions and colours that it collects. -/
namespace CardPress

variable {α : Type}

namespace TextStyle

def condition? : TextStyle α → Option Condition
  | onlyIf c => some c
  | _ => none

/-- The font family that a style asks for. -/
def family? : TextStyle α → Option String
  | font family _ _ _ => family
  | _ => none

/-- The styles that every deck has ask for no family. -/
theorem family_builtins {name : String} {xs : List (TextStyle α)}
    (h : builtins.lookup name = some xs) : ∀ x ∈ xs, x.family? = none := by
  have hall : ∀ e ∈ (builtins : List (String × List (TextStyle α))),
      ∀ x ∈ e.2, x.family? = none := by
    intro e he
    rcases List.mem_append.mp he with he | he
    · simp only [List.mem_cons, List.not_mem_nil, or_false] at he
      rcases he with rfl | rfl | rfl | rfl <;> simp [bold, italic, family?]
    · obtain ⟨⟨name, color⟩, -, rfl⟩ := List.mem_map.mp he
      simp [family?]
  obtain ⟨front, rest, hl, -⟩ := List.lookup_eq_some_iff.mp h
  exact hall (name, xs) (by rw [hl]; simp)

end TextStyle

namespace FlatTextStyle

variable {s : FlatTextStyle α} {xs ys : List (TextStyle α)} {c : ColorRef}

theorem apply_append (s : FlatTextStyle α) (xs ys : List (TextStyle α)) :
    s.apply (xs ++ ys) = (s.apply xs).apply ys := List.foldl_append

theorem apply_nil (s : FlatTextStyle α) : s.apply [] = s := rfl

theorem apply_cons (s : FlatTextStyle α) (x : TextStyle α) (xs : List (TextStyle α)) :
    s.apply (x :: xs) = (s.add x).apply xs := rfl

/-- Conditions join those that are there, in order. -/
theorem conditions_apply (s : FlatTextStyle α) (xs : List (TextStyle α)) :
    (s.apply xs).conditions = s.conditions ++ xs.filterMap TextStyle.condition? := by
  induction xs generalizing s with
  | nil => simp [apply_nil]
  | cons x xs ih =>
    rw [apply_cons, ih]
    cases x <;> simp [add, TextStyle.condition?, List.filterMap_cons]

theorem foreground_of_apply (h : (s.apply xs).foreground = some c) :
    s.foreground = some c ∨ .foreground c ∈ xs := by
  induction xs generalizing s with
  | nil => exact .inl h
  | cons x xs ih =>
    rcases ih (s := s.add x) h with h | h
    · cases x <;> simp_all [add]
    · exact .inr (List.mem_cons_of_mem x h)

theorem background_of_apply (h : (s.apply xs).background = some c) :
    s.background = some c ∨ .background c ∈ xs := by
  induction xs generalizing s with
  | nil => exact .inl h
  | cons x xs ih =>
    rcases ih (s := s.add x) h with h | h
    · cases x <;> simp_all [add]
    · exact .inr (List.mem_cons_of_mem x h)

/-- What is true of every family that is asked for is true of the family of the cascade. -/
theorem family_apply {F : Option String → Prop} (hs : F s.family)
    (hxs : ∀ x ∈ xs, F x.family?) : F (s.apply xs).family := by
  induction xs generalizing s with
  | nil => exact hs
  | cons x xs ih =>
    refine ih (s := s.add x) ?_ fun y hy => hxs y (List.mem_cons_of_mem x hy)
    have hx := hxs x (by simp)
    cases x with
    | font family weight width slant =>
      cases family with
      | none => exact hs
      | some name => exact hx
    | _ => exact hs

end FlatTextStyle

namespace Condition

variable {card : Card} {c : Condition} {cs : List Condition}

def isMet (card : Card) (c : Condition) : Bool := c.holds card matches .ok true

/-- One of the conditions is not met, and those before it can be decided. -/
def Hides (card : Card) (cs : List Condition) : Prop :=
  ∃ before c after, cs = before ++ c :: after ∧ (∀ d ∈ before, ∃ b, d.holds card = .ok b) ∧
    c.holds card = .ok false

theorem allHold_cons_of_unmet (h : c.holds card = .ok false) :
    allHold card (c :: cs) = .ok false := by
  rw [allHold, h]
  rfl

theorem allHold_cons_of_met (h : c.holds card = .ok true) :
    allHold card (c :: cs) = allHold card cs := by
  rw [allHold, h]
  rfl

theorem allHold_of_hides (h : Hides card cs) : allHold card cs = .ok false := by
  obtain ⟨before, c, after, rfl, hbefore, hc⟩ := h
  induction before with
  | nil => exact allHold_cons_of_unmet hc
  | cons d before ih =>
    obtain ⟨⟨b, hb⟩, hbefore⟩ := List.forall_mem_cons.mp hbefore
    cases b with
    | false => exact allHold_cons_of_unmet hb
    | true => exact (allHold_cons_of_met hb).trans (ih hbefore)

end Condition

end CardPress
