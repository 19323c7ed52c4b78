import CardPress.Markup

/-! The grammar of markup, apart from any reader: which texts are tokens, how text falls into tokens
and literal characters, and how instructions are written back. -/
namespace CardPress

namespace Instruction

/-- How an instruction is written in text. -/
def written : Instruction → String
  | text s => s
  | push tag => "<" ++ tag ++ ">"
  | pop tag => "</" ++ tag ++ ">"
  | placeholder name => ":" ++ name ++ ":"

def isText : Instruction → Bool
  | text _ => true
  | _ => false

end Instruction

namespace Markup

variable {c : Char} {cs rest u : List Char} {i : Instruction} {items : List Item}

/-- `A-Z`, `a-z`, `0-9`, `.`, `_` and `-`. -/
def InTagClass (c : Char) : Prop :=
  ('A' ≤ c ∧ c ≤ 'Z') ∨ ('a' ≤ c ∧ c ≤ 'z') ∨ ('0' ≤ c ∧ c ≤ '9') ∨ c = '.' ∨ c = '_' ∨ c = '-'

def InPlaceholderClass (c : Char) : Prop := InTagClass c ∨ c = '/'

def IsName (p : Char → Prop) (name : List Char) : Prop := name ≠ [] ∧ ∀ c ∈ name, p c

/-- Texts are not empty, and names are names. -/
def WellFormed : Instruction → Prop
  | .text s => s ≠ ""
  | .push tag | .pop tag => IsName InTagClass tag.toList
  | .placeholder name => IsName InPlaceholderClass name.toList

/-- Text that starts with a token, the token, and what is left behind it. -/
inductive Begins : Instruction → List Char → List Char → Prop
  | push {name rest : List Char} (h : IsName InTagClass name) :
      Begins (.push (String.ofList name)) ('<' :: (name ++ '>' :: rest)) rest
  | pop {name rest : List Char} (h : IsName InTagClass name) :
      Begins (.pop (String.ofList name)) ('<' :: '/' :: (name ++ '>' :: rest)) rest
  | placeholder {name rest : List Char} (h : IsName InPlaceholderClass name) :
      Begins (.placeholder (String.ofList name)) (':' :: (name ++ ':' :: rest)) rest

/-- What text falls into. -/
inductive Item where
  | token (i : Instruction)
  | literal (c : Char)

def Item.written : Item → List Char
  | token i => i.written.toList
  | literal c => [c]

/-- Scanning from left to right: a token where one starts, two colons together, or else one literal
character. -/
inductive Scans : List Char → List Item → Prop
  | done : Scans [] []
  | token {i : Instruction} {cs rest : List Char} {items : List Item}
      (hb : Begins i cs rest) (h : Scans rest items) : Scans cs (.token i :: items)
  | colons {rest : List Char} {items : List Item} (h : Scans rest items) :
      Scans (':' :: ':' :: rest) (.literal ':' :: .literal ':' :: items)
  | literal {c : Char} {cs : List Char} {items : List Item}
      (hb : ∀ i rest, ¬ Begins i (c :: cs) rest) (hc : ¬ (c = ':' ∧ cs.head? = some ':'))
      (h : Scans cs items) : Scans (c :: cs) (.literal c :: items)

def textOf (literal : List Char) : List Instruction :=
  if literal = [] then [] else [.text (String.ofList literal)]

/-- Literal characters side by side become one text; `literal` are those in front. -/
def gather (literal : List Char) : List Item → List Instruction
  | [] => textOf literal
  | .literal c :: items => gather (literal ++ [c]) items
  | .token i :: items => textOf literal ++ i :: gather [] items

/-- The beginning of a token that breaks at what follows it. -/
inductive Breaks : List Char → List Char → Prop
  | opening {name rest : List Char} (h : ∀ c ∈ name, InTagClass c)
      (hn : ∀ c, rest.head? = some c → ¬ InTagClass c)
      (hs : name = [] → rest.head? ≠ some '/') (he : name ≠ [] → rest.head? ≠ some '>') :
      Breaks ('<' :: name) rest
  | closing {name rest : List Char} (h : ∀ c ∈ name, InTagClass c)
      (hn : ∀ c, rest.head? = some c → ¬ InTagClass c)
      (he : name ≠ [] → rest.head? ≠ some '>') : Breaks ('<' :: '/' :: name) rest
  | placeholder {name rest : List Char} (h : ∀ c ∈ name, InPlaceholderClass c)
      (hn : ∀ c, rest.head? = some c → ¬ InPlaceholderClass c)
      (he : rest.head? ≠ some ':') : Breaks (':' :: name) rest

/-! The two classes of characters. -/

theorem isNameChar_iff : isNameChar c = true ↔ InTagClass c := by
  have hupper : c.isUpper = decide ('A' ≤ c ∧ c ≤ 'Z') := rfl
  have hlower : c.isLower = (decide ('a' ≤ c) && decide (c ≤ 'z')) := rfl
  have hdigit : c.isDigit = (decide ('0' ≤ c) && decide (c ≤ '9')) := rfl
  have halphanum : c.isAlphanum = (c.isUpper || c.isLower || c.isDigit) := rfl
  simp only [isNameChar, InTagClass, halphanum, hupper, hlower, hdigit, Bool.or_eq_true,
    Bool.and_eq_true, decide_eq_true_eq, or_assoc]

theorem isPlaceholderChar_iff : isPlaceholderChar c = true ↔ InPlaceholderClass c := by
  simp [isPlaceholderChar, InPlaceholderClass, isNameChar_iff]

theorem ne_of_inTagClass (h : InTagClass c) : c ≠ '<' ∧ c ≠ '>' ∧ c ≠ '/' ∧ c ≠ ':' := by
  rw [← isNameChar_iff] at h
  refine ⟨?_, ?_, ?_, ?_⟩ <;> rintro rfl <;> exact absurd h (by decide)

theorem ne_of_inPlaceholderClass (h : InPlaceholderClass c) : c ≠ '<' ∧ c ≠ ':' := by
  rcases h with h | rfl
  · exact ⟨(ne_of_inTagClass h).1, (ne_of_inTagClass h).2.2.2⟩
  · decide

/-- The longest front of a text that lies in a class. -/
theorem exists_span (p : Char → Prop) (cs : List Char) :
    ∃ name rest, cs = name ++ rest ∧ (∀ c ∈ name, p c) ∧ ∀ c, rest.head? = some c → ¬ p c := by
  induction cs with
  | nil => exact ⟨[], [], rfl, by simp, by simp⟩
  | cons c cs ih =>
    by_cases hc : p c
    · obtain ⟨name, rest, rfl, hn, hr⟩ := ih
      exact ⟨c :: name, rest, rfl, by simpa [hc] using hn, hr⟩
    · exact ⟨[], c :: cs, rfl, by simp, by simpa using hc⟩

/-- A text has one front in a class behind which the class ends. -/
theorem span_unique {p : Char → Prop} {name name' rest rest' : List Char}
    (h : ∀ c ∈ name, p c) (h' : ∀ c ∈ name', p c)
    (hr : ∀ c, rest.head? = some c → ¬ p c) (hr' : ∀ c, rest'.head? = some c → ¬ p c)
    (he : name ++ rest = name' ++ rest') : name = name' ∧ rest = rest' := by
  induction name generalizing name' with
  | nil =>
    cases name' with
    | nil => exact ⟨rfl, he⟩
    | cons c name' => exact absurd (h' c (by simp)) (hr c (by rw [← List.nil_append rest, he]; rfl))
  | cons c name ih =>
    cases name' with
    | nil => exact absurd (h c (by simp)) (hr' c (by rw [← List.nil_append rest', ← he]; rfl))
    | cons c' name' =>
      obtain ⟨rfl, ht⟩ := List.cons.inj he
      obtain ⟨rfl, rfl⟩ := ih (fun a ha => h a (by simp [ha])) (fun a ha => h' a (by simp [ha])) ht
      exact ⟨rfl, rfl⟩

theorem gt_ends (c : Char) (h : ('>' :: rest).head? = some c) : ¬ InTagClass c := by
  cases h
  exact fun hc => (ne_of_inTagClass hc).2.1 rfl

theorem colon_ends (c : Char) (h : (':' :: rest).head? = some c) : ¬ InPlaceholderClass c := by
  cases h
  exact fun hc => (ne_of_inPlaceholderClass hc).2 rfl

/-! Tokens. -/

theorem Begins.isText_eq (h : Begins i cs rest) : i.isText = false := by
  cases h <;> rfl

theorem Begins.wellFormed (h : Begins i cs rest) : WellFormed i := by
  cases h <;> simpa [WellFormed]

theorem Begins.written_append (h : Begins i cs rest) : i.written.toList ++ rest = cs := by
  cases h <;> simp [Instruction.written]

theorem Begins.length_lt (h : Begins i cs rest) : rest.length < cs.length := by
  cases h <;> simp <;> omega

theorem Begins.head (h : Begins i (c :: cs) rest) : c = '<' ∨ c = ':' := by
  cases h <;> simp

theorem not_begins_colons : ¬ Begins i (':' :: ':' :: cs) rest := by
  intro h
  generalize hcs : ':' :: ':' :: cs = t at h
  cases h with
  | push h => simp at hcs
  | pop h => simp at hcs
  | @placeholder name _ h =>
    cases name with
    | nil => exact h.1 rfl
    | cons c name =>
      obtain ⟨rfl, -⟩ := List.cons.inj (List.cons.inj hcs).2
      exact (ne_of_inPlaceholderClass (h.2 ':' (by simp))).2 rfl

theorem not_isName_slash {name : List Char} : ¬ IsName InTagClass ('/' :: name) :=
  fun h => (ne_of_inTagClass (h.2 '/' (by simp))).2.2.1 rfl

/-- At most one token starts a text. -/
theorem Begins.unique {i' : Instruction} {rest' : List Char} (h : Begins i cs rest)
    (h' : Begins i' cs rest') : i = i' ∧ rest = rest' := by
  cases h with
  | @push name _ h =>
    generalize hcs : '<' :: (name ++ '>' :: rest) = t at h'
    cases h' with
    | push h' =>
      obtain ⟨rfl, ht⟩ := span_unique h.2 h'.2 gt_ends gt_ends (List.cons.inj hcs).2
      exact ⟨rfl, (List.cons.inj ht).2⟩
    | pop h' =>
      cases name with
      | nil => exact absurd rfl h.1
      | cons c name =>
        obtain ⟨rfl, -⟩ := List.cons.inj (List.cons.inj hcs).2
        exact absurd h not_isName_slash
    | placeholder h' => simp at hcs
  | @pop name _ h =>
    generalize hcs : '<' :: '/' :: (name ++ '>' :: rest) = t at h'
    cases h' with
    | @push name' _ h' =>
      cases name' with
      | nil => exact absurd rfl h'.1
      | cons c name' =>
        obtain ⟨rfl, -⟩ := List.cons.inj (List.cons.inj hcs).2
        exact absurd h' not_isName_slash
    | pop h' =>
      obtain ⟨rfl, ht⟩ :=
        span_unique h.2 h'.2 gt_ends gt_ends (List.cons.inj (List.cons.inj hcs).2).2
      exact ⟨rfl, (List.cons.inj ht).2⟩
    | placeholder h' => simp at hcs
  | @placeholder name _ h =>
    generalize hcs : ':' :: (name ++ ':' :: rest) = t at h'
    cases h' with
    | push h' => simp at hcs
    | pop h' => simp at hcs
    | placeholder h' =>
      obtain ⟨rfl, ht⟩ := span_unique h.2 h'.2 colon_ends colon_ends (List.cons.inj hcs).2
      exact ⟨rfl, (List.cons.inj ht).2⟩

/-! Scans. -/

/-- A text falls into items in one way only. -/
theorem Scans.unique {items' : List Item} (h : Scans cs items) (h' : Scans cs items') :
    items = items' := by
  induction h generalizing items' with
  | done =>
    cases h' with
    | done => rfl
    | token hb _ => exact absurd hb.length_lt (by simp)
  | token hb _ ih =>
    cases h' with
    | done => exact absurd hb.length_lt (by simp)
    | token hb' h' =>
      obtain ⟨rfl, rfl⟩ := hb.unique hb'
      rw [ih h']
    | colons h' => exact absurd hb not_begins_colons
    | literal hb' _ _ => exact absurd hb (hb' _ _)
  | colons _ ih =>
    cases h' with
    | token hb' _ => exact absurd hb' not_begins_colons
    | colons h' => rw [ih h']
    | literal _ hc _ => exact absurd ⟨rfl, rfl⟩ hc
  | literal hb hc _ ih =>
    cases h' with
    | token hb' _ => exact absurd hb' (hb _ _)
    | colons _ => exact absurd ⟨rfl, rfl⟩ hc
    | literal _ _ h' => rw [ih h']

theorem Scans.literals {name : List Char} (hn : ∀ c ∈ name, c ≠ '<' ∧ c ≠ ':')
    (h : Scans rest items) : Scans (name ++ rest) (name.map .literal ++ items) := by
  induction name with
  | nil => exact h
  | cons c name ih =>
    have hc := hn c (by simp)
    refine .literal ?_ (fun he => hc.2 he.1) (ih fun a ha => hn a (by simp [ha]))
    intro i rest hb
    exact hb.head.elim hc.1 hc.2

theorem Breaks.not_begins (hu : Breaks u rest) {r : List Char} : ¬ Begins i (u ++ rest) r := by
  intro h
  generalize hcs : u ++ rest = t at h
  cases hu with
  | @opening name _ hn hr hs he =>
    cases h with
    | push h =>
      obtain ⟨rfl, rfl⟩ := span_unique hn h.2 hr gt_ends (List.cons.inj hcs).2
      exact he h.1 rfl
    | pop h =>
      cases name with
      | nil => exact hs rfl (by simp_all)
      | cons c name =>
        obtain ⟨rfl, -⟩ := List.cons.inj (List.cons.inj hcs).2
        exact (ne_of_inTagClass (hn '/' (by simp))).2.2.1 rfl
    | placeholder h => simp at hcs
  | closing hn hr he =>
    cases h with
    | @push name _ h =>
      cases name with
      | nil => exact h.1 rfl
      | cons c name =>
        obtain ⟨rfl, -⟩ := List.cons.inj (List.cons.inj hcs).2
        exact not_isName_slash h
    | pop h =>
      obtain ⟨rfl, rfl⟩ :=
        span_unique hn h.2 hr gt_ends (List.cons.inj (List.cons.inj hcs).2).2
      exact he h.1 rfl
    | placeholder h => simp at hcs
  | placeholder hn hr he =>
    cases h with
    | push h => simp at hcs
    | pop h => simp at hcs
    | placeholder h =>
      obtain ⟨rfl, rfl⟩ := span_unique hn h.2 hr colon_ends (List.cons.inj hcs).2
      exact he rfl

/-- A beginning that breaks is literal text and hides nothing behind it. -/
theorem Scans.breaks (hu : Breaks u rest) (h : Scans rest items) :
    Scans (u ++ rest) (u.map .literal ++ items) := by
  have hb := fun i r => hu.not_begins (i := i) (r := r)
  cases hu with
  | opening hn hr hs he =>
    refine .literal hb (by simp) (h.literals fun c hc => ?_)
    exact ⟨(ne_of_inTagClass (hn c hc)).1, (ne_of_inTagClass (hn c hc)).2.2.2⟩
  | closing hn hr he =>
    refine .literal hb (by simp) (.literal (fun _ _ hb => ?_) (by simp) (h.literals fun c hc => ?_))
    · simpa using hb.head
    · exact ⟨(ne_of_inTagClass (hn c hc)).1, (ne_of_inTagClass (hn c hc)).2.2.2⟩
  | @placeholder name _ hn hr he =>
    refine .literal hb ?_ (h.literals fun c hc => ne_of_inPlaceholderClass (hn c hc))
    rintro ⟨-, hd⟩
    cases name with
    | nil => exact he hd
    | cons c name =>
      obtain rfl : c = ':' := by simpa using hd
      exact (ne_of_inPlaceholderClass (hn ':' (by simp))).2 rfl

theorem Scans.begins (h : Scans cs items) (hi : .token i ∈ items) :
    ∃ cs rest, Begins i cs rest := by
  induction h with
  | done => simp at hi
  | token hb _ ih =>
    rcases List.mem_cons.1 hi with he | hi
    · cases he
      exact ⟨_, _, hb⟩
    · exact ih hi
  | colons _ ih => exact ih (by simpa using hi)
  | literal _ _ _ ih => exact ih (by simpa using hi)

/-- Items are the text that they were scanned from. -/
theorem Scans.written (h : Scans cs items) : items.flatMap Item.written = cs := by
  induction h with
  | done => rfl
  | token hb _ ih => simp [Item.written, ih, hb.written_append]
  | colons _ ih => simp [Item.written, ih]
  | literal _ _ _ ih => simp [Item.written, ih]

/-- How a text can start. -/
theorem start_cases (cs : List Char) :
    cs = [] ∨ (∃ i rest, Begins i cs rest) ∨ (∃ rest, cs = ':' :: ':' :: rest) ∨
      (∃ c rest, cs = c :: rest ∧ c ≠ '<' ∧ c ≠ ':') ∨
      ∃ u rest, cs = u ++ rest ∧ u ≠ [] ∧ Breaks u rest := by
  cases cs with
  | nil => exact .inl rfl
  | cons c cs =>
    right
    by_cases hlt : c = '<'
    · subst c
      obtain ⟨name, rest, rfl, hn, hr⟩ := exists_span InTagClass cs
      by_cases he : name ≠ [] ∧ rest.head? = some '>'
      · obtain ⟨r, rfl⟩ := List.head?_eq_some_iff.1 he.2
        exact .inl ⟨_, _, .push ⟨he.1, hn⟩⟩
      by_cases hs : name = [] ∧ rest.head? = some '/'
      · obtain ⟨r, rfl⟩ := List.head?_eq_some_iff.1 hs.2
        obtain ⟨rfl, -⟩ := hs
        obtain ⟨name, rest, rfl, hn, hr⟩ := exists_span InTagClass r
        by_cases he : name ≠ [] ∧ rest.head? = some '>'
        · obtain ⟨r, rfl⟩ := List.head?_eq_some_iff.1 he.2
          exact .inl ⟨_, _, .pop ⟨he.1, hn⟩⟩
        · exact .inr (.inr (.inr ⟨'<' :: '/' :: name, rest, rfl, by simp,
            .closing hn hr fun h h' => he ⟨h, h'⟩⟩))
      · exact .inr (.inr (.inr ⟨'<' :: name, rest, rfl, by simp,
          .opening hn hr (fun h h' => hs ⟨h, h'⟩) fun h h' => he ⟨h, h'⟩⟩))
    by_cases hcolon : c = ':'
    · subst c
      obtain ⟨name, rest, rfl, hn, hr⟩ := exists_span InPlaceholderClass cs
      by_cases he : rest.head? = some ':'
      · obtain ⟨r, rfl⟩ := List.head?_eq_some_iff.1 he
        by_cases hname : name = []
        · exact .inr (.inl ⟨r, by simp [hname]⟩)
        · exact .inl ⟨_, _, .placeholder ⟨hname, hn⟩⟩
      · exact .inr (.inr (.inr ⟨':' :: name, rest, rfl, by simp, .placeholder hn hr he⟩))
    · exact .inr (.inr (.inl ⟨c, cs, rfl, hlt, hcolon⟩))

end Markup

end CardPress
