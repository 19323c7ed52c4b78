import CardPress.Proofs.Template.Scan
import CardPress.Template.Grammar.Stream

/-! Reading tokens one after the other: from tokens on lines of a kind all reading leaves such tokens, and the
fault that ends it is on such a line. -/
namespace CardPress.Template

variable {P : Nat → Prop} {α β ε : Type} {fuel : Nat}

/-- What it comes to has `Q`, and what it fails with has `R`. -/
def Ends (Q : α → Prop) (R : ε → Prop) : Except ε α → Prop
  | .ok a => Q a
  | .error e => R e

namespace Ends

variable {Q : α → Prop} {R : ε → Prop} {S : β → Prop} {r : Except ε α} {f : α → Except ε β}

theorem bind (h : Ends Q R r) (hf : ∀ a, Q a → Ends S R (f a)) : Ends S R (r >>= f) := by
  cases r with
  | ok a => exact hf a h
  | error e => exact h

theorem pure {a : α} (h : Q a) : Ends Q R (Pure.pure a : Except ε α) := h

theorem mono {Q' : α → Prop} (h : Ends Q R r) (hQ : ∀ a, Q a → Q' a) : Ends Q' R r := by
  cases r with
  | ok a => exact hQ a h
  | error e => exact h

theorem map {f : α → β} (h : Ends Q R r) (hf : ∀ a, Q a → S (f a)) : Ends S R (r.map f) := by
  cases r with
  | ok a => exact hf a h
  | error e => exact h

end Ends

/-- What is still to be read, and the line noted for the last part, are on lines of a kind. -/
structure Stream.On (P : Nat → Prop) (s : Stream) : Prop where
  current : P s.current.line
  rest : ∀ t ∈ s.rest, P t.line
  refusal : ∀ r, s.refusal = some r → r.On P
  place : P s.place

namespace Parse

/-- From tokens on lines of a kind it reads a part of which `Q` holds, leaving such tokens, or it fails on
such a line. -/
def Keeps (P : Nat → Prop) (Q : α → Prop) (p : Parse α) : Prop :=
  ∀ s : Stream, s.On P → Ends (fun read => Q read.1 ∧ read.2.On P) (Refusal.On P) (p.run s)

/-- The same whatever part is read. -/
abbrev Stays (P : Nat → Prop) (p : Parse α) : Prop := Keeps P (fun _ => True) p

namespace Keeps

variable {Q R : α → Prop} {S : β → Prop} {p q : Parse α} {f : α → Parse β} {here : Nat}

theorem pure {a : α} (h : Q a) : Keeps P Q (Pure.pure a) := fun _ hs => ⟨h, hs⟩

theorem fail (h : P here) (problem : Problem) : Keeps P Q (Parse.fail here problem) := fun _ _ => h

theorem bind (h : Keeps P Q p) (hf : ∀ a, Q a → Keeps P S (f a)) : Keeps P S (p >>= f) := by
  intro s hs
  rw [StateT.run_bind]
  exact Ends.bind (h s hs) fun read hread => hf read.1 hread.1 read.2 hread.2

theorem andThen {q : Parse β} (h : Keeps P Q p) (hq : Keeps P S q) : Keeps P S (p >>= fun _ => q) :=
  h.bind fun _ _ => hq

theorem mono (h : Keeps P Q p) (hQ : ∀ a, Q a → R a) : Keeps P R p :=
  fun s hs => (h s hs).mono fun read hread => ⟨hQ read.1 hread.1, hread.2⟩

theorem map {g : α → β} (h : Keeps P Q p) (hg : ∀ a, Q a → S (g a)) : Keeps P S (g <$> p) := by
  rw [← bind_pure_comp]
  exact h.bind fun a ha => pure (hg a ha)

/-- Two ways to go on in the same manner. -/
theorem ite_bind {c : Prop} [Decidable c] (hp : Keeps P Q p) (hq : Keeps P Q q)
    (hf : ∀ a, Q a → Keeps P S (f a)) : Keeps P S (if c then p >>= f else q >>= f) := by
  split
  · exact hp.bind hf
  · exact hq.bind hf

/-- A step that is left out on a condition. -/
theorem ite_skip {c : Prop} [Decidable c] {q : Parse β} (hp : Keeps P Q p) (hq : Keeps P S q) :
    Keeps P S (if c then p >>= fun _ => q else q) := by
  split
  · exact hp.andThen hq
  · exact hq

theorem lexeme : Stays P Parse.lexeme := fun _ hs => ⟨trivial, hs⟩

theorem line : Keeps P P Parse.line := fun _ hs => ⟨hs.current, hs⟩

theorem place : Keeps P P Parse.place := fun _ hs => ⟨hs.place, hs⟩

theorem placed {a : α} (hline : P here) (h : Q a) : Keeps P Q (Parse.placed here a) :=
  fun _ hs => ⟨h, { hs with place := hline }⟩

/-- A refusal on a condition, at the line that is read. -/
theorem ite_fail {c : Prop} [Decidable c] {q : Parse β} {problem : Problem} (h : Keeps P S q) :
    Keeps P S (if c then Parse.line >>= fun here => (Parse.fail here problem : Parse PUnit) >>= fun _ => q
      else q) := by
  split
  · exact bind line fun _ hline => andThen (fail (Q := fun _ => True) hline problem) h
  · exact h

theorem advance : Keeps P (fun t => P t.line) Parse.advance := by
  intro s hs
  obtain ⟨current, rest, refusal, place⟩ := s
  cases rest with
  | cons t rest => exact ⟨hs.current, { hs with
      current := hs.rest t List.mem_cons_self
      rest := fun u hu => hs.rest u (List.mem_cons_of_mem t hu) }⟩
  | nil =>
    cases refusal with
    | some r => exact hs.refusal r rfl
    | none => exact ⟨hs.current, { hs with current := hs.current }⟩

theorem peek : Stays P Parse.peek := by
  intro s hs
  obtain ⟨current, rest, refusal, place⟩ := s
  cases rest with
  | cons t rest => exact ⟨trivial, hs⟩
  | nil =>
    cases refusal with
    | some r => exact hs.refusal r rfl
    | none => exact ⟨trivial, hs⟩

theorem skipIf (test : Lexeme → Bool) : Stays P (Parse.skipIf test) := by
  refine bind lexeme ?_
  intro l _
  split
  · exact andThen advance (pure trivial)
  · exact pure trivial

theorem skipSign (s : String) : Stays P (Parse.skipSign s) := skipIf _

theorem skipWord (s : String) : Stays P (Parse.skipWord s) := skipIf _

theorem skipWords (first second : String) : Stays P (Parse.skipWords first second) := by
  unfold Parse.skipWords
  refine bind lexeme ?_
  intro l _
  dsimp only
  split
  · refine bind peek ?_
    intro next _
    split
    · exact andThen advance (andThen advance (pure trivial))
    · exact pure trivial
  · exact pure trivial

theorem refuse (wanted : String) : Keeps P Q (Parse.refuse wanted) := by
  refine bind lexeme ?_
  intro l _
  split
  · exact bind line fun _ hline => fail hline _
  · exact bind line fun _ hline => fail hline _

theorem expect (test : Lexeme → Bool) (wanted : String) : Stays P (Parse.expect test wanted) := by
  refine bind lexeme ?_
  intro l _
  split
  · exact advance.mono fun _ _ => trivial
  · exact refuse wanted

theorem expectSign (s : String) : Stays P (Parse.expectSign s) := expect _ s

theorem expectWord (s : String) : Stays P (Parse.expectWord s) := expect _ s

theorem expectBlockEnd : Stays P Parse.expectBlockEnd := expect _ _

theorem expectName : Stays P Parse.expectName := by
  refine bind lexeme ?_
  intro l _
  split
  · exact andThen advance (pure trivial)
  · exact refuse "name"

theorem dottedName (fuel : Nat) (s : String) : Stays P (Parse.dottedName fuel s) := by
  induction fuel generalizing s with
  | zero => exact pure trivial
  | succ fuel ih =>
    refine bind (skipSign ".") ?_
    intro more _
    split
    · exact bind expectName fun t _ => ih (s ++ "." ++ t)
    · exact pure trivial

end Keeps

end Parse

end CardPress.Template
