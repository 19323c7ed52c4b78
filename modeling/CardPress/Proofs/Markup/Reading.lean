import CardPress.Proofs.Markup.Grammar
import Mathlib.Data.List.Chain

/-! Reading markup character by character comes to what the grammar says, and loses nothing. -/
namespace CardPress

namespace Markup

variable {c : Char} {cs rest u l : List Char} {i : Instruction} {items : List Item} {p : Pending}

/-! One character at a time. -/

theorem flush_eq (l : List Char) : flush l = textOf l.reverse := by
  cases l <;> simp [flush, textOf, ofReversed]

theorem read_cons : read p (c :: cs) = (step p c).1 ++ read (step p c).2 cs := by
  rw [read]
  split <;> simp [*]

/-- A token that breaks becomes plain text, and the character that broke it is read again. -/
theorem read_broken
    (h : ∀ c, rest.head? = some c → step p c = ([], .start (p.token.written ++ p.literal) c)) :
    read p rest = read ⟨p.token.written ++ p.literal, .none⟩ rest := by
  cases rest with
  | nil => rfl
  | cons c cs =>
    rw [read_cons, read_cons, h c rfl]
    rfl

theorem step_opening (h : InTagClass c) (n : List Char) :
    step ⟨l, .opening n⟩ c = ([], ⟨l, .opening (c :: n)⟩) := by
  simp [step, isNameChar_iff.2 h, (ne_of_inTagClass h).2.1]

theorem step_closing (h : InTagClass c) (n : List Char) :
    step ⟨l, .closing n⟩ c = ([], ⟨l, .closing (c :: n)⟩) := by
  simp [step, isNameChar_iff.2 h, (ne_of_inTagClass h).2.1]

theorem step_placeholder (h : InPlaceholderClass c) (n : List Char) :
    step ⟨l, .placeholder n⟩ c = ([], ⟨l, .placeholder (c :: n)⟩) := by
  simp [step, isPlaceholderChar_iff.2 h, (ne_of_inPlaceholderClass h).2]

/-- A name is collected in reverse. -/
theorem read_name {allowed : Char → Prop} {token : List Char → Token}
    (hs : ∀ c, allowed c → ∀ n, step ⟨l, token n⟩ c = ([], ⟨l, token (c :: n)⟩))
    {name : List Char} (h : ∀ c ∈ name, allowed c) (n : List Char) :
    read ⟨l, token n⟩ (name ++ rest) = read ⟨l, token (name.reverse ++ n)⟩ rest := by
  induction name generalizing n with
  | nil => rfl
  | cons c name ih =>
    rw [List.cons_append, read_cons, hs c (h c (by simp)) n]
    simpa using ih (fun a ha => h a (by simp [ha])) (c :: n)

theorem read_lt : read ⟨l, .none⟩ ('<' :: cs) = read ⟨l, .bracket⟩ cs := by
  simp [read_cons, step, Pending.start, Token.written]

theorem read_colon : read ⟨l, .none⟩ (':' :: cs) = read ⟨l, .placeholder []⟩ cs := by
  simp [read_cons, step, Pending.start, Token.written]

theorem read_bracket_slash : read ⟨l, .bracket⟩ ('/' :: cs) = read ⟨l, .closing []⟩ cs := by
  simp [read_cons, step]

theorem read_bracket_name (h : InTagClass c) :
    read ⟨l, .bracket⟩ (c :: cs) = read ⟨l, .opening [c]⟩ cs := by
  simp [read_cons, step, isNameChar_iff.2 h, (ne_of_inTagClass h).2.2.1]

/-! What starts a text, behind plain text `l`. -/

theorem read_literal (hlt : c ≠ '<') (hcolon : c ≠ ':') :
    read ⟨l, .none⟩ (c :: cs) = read ⟨c :: l, .none⟩ cs := by
  simp [read_cons, step, Pending.start, Token.written, hlt, hcolon]

theorem read_colons : read ⟨l, .none⟩ (':' :: ':' :: cs) = read ⟨':' :: ':' :: l, .none⟩ cs := by
  rw [read_colon, read_cons]
  simp [step, Token.written]

theorem read_begins (h : Begins i cs rest) :
    read ⟨l, .none⟩ cs = flush l ++ i :: read ⟨[], .none⟩ rest := by
  cases h with
  | push h =>
    obtain ⟨c, name, rfl⟩ := List.exists_cons_of_ne_nil h.1
    have hn : ∀ d ∈ name, InTagClass d := fun d hd => h.2 d (List.mem_cons_of_mem c hd)
    rw [read_lt, List.cons_append, read_bracket_name (h.2 c (by simp)),
      read_name (fun d => step_opening) hn, read_cons]
    simp [step, ofReversed]
  | pop h =>
    rw [read_lt, read_bracket_slash, read_name (fun d => step_closing) h.2, read_cons]
    simp [step, ofReversed, h.1]
  | placeholder h =>
    rw [read_colon, read_name (fun d => step_placeholder) h.2, read_cons]
    simp [step, ofReversed, h.1]

theorem read_breaks (h : Breaks u rest) :
    read ⟨l, .none⟩ (u ++ rest) = read ⟨u.reverse ++ l, .none⟩ rest := by
  cases h with
  | @opening name _ h hn hs he =>
    cases name with
    | nil =>
      rw [List.cons_append, List.nil_append, read_lt, read_broken]
      · simp [Token.written]
      · intro c hc
        have hslash : c ≠ '/' := by
          rintro rfl
          exact hs rfl hc
        simp [step, hslash, mt isNameChar_iff.1 (hn c hc)]
    | cons d name =>
      rw [List.cons_append, List.cons_append, read_lt, read_bracket_name (h d (by simp)),
        read_name (fun d => step_opening) fun a ha => h a (List.mem_cons_of_mem d ha), read_broken]
      · simp [Token.written]
      · intro c hc
        have hgt : c ≠ '>' := by
          rintro rfl
          exact he (by simp) hc
        simp [step, hgt, mt isNameChar_iff.1 (hn c hc)]
  | @closing name _ h hn he =>
    rw [List.cons_append, List.cons_append, read_lt, read_bracket_slash,
      read_name (fun d => step_closing) h, read_broken]
    · simp [Token.written]
    · intro c hc
      by_cases hgt : c = '>'
      · subst c
        have hname : name = [] := by_contra fun hne => he hne hc
        simp [step, hname, Pending.start]
      · simp [step, hgt, mt isNameChar_iff.1 (hn c hc)]
  | placeholder h hn he =>
    rw [List.cons_append, read_colon, read_name (fun d => step_placeholder) h, read_broken]
    · simp [Token.written]
    · intro c hc
      have hcolon : c ≠ ':' := by
        rintro rfl
        exact he hc
      simp [step, hcolon, mt isPlaceholderChar_iff.1 (hn c hc)]

/-! Whole texts. -/

theorem gather_literals (us l : List Char) :
    gather l (us.map .literal ++ items) = gather (l ++ us) items := by
  induction us generalizing l with
  | nil => simp
  | cons c us ih => simpa [gather] using ih (l ++ [c])

/-- Reading behind plain text gathers what the grammar makes of the rest. -/
theorem exists_scan (cs : List Char) :
    ∃ items, Scans cs items ∧ ∀ l, read ⟨l, .none⟩ cs = gather l.reverse items := by
  induction hlen : cs.length using Nat.strong_induction_on generalizing cs with
  | _ n ih =>
    subst n
    obtain rfl | ⟨i, rest, hb⟩ | ⟨rest, rfl⟩ | ⟨c, rest, rfl, hlt, hcolon⟩ | ⟨u, rest, rfl, hu, hb⟩ :=
      start_cases cs
    · exact ⟨[], .done, fun l => flush_eq l⟩
    · obtain ⟨items, hs, hr⟩ := ih _ hb.length_lt rest rfl
      refine ⟨_, .token hb hs, fun l => ?_⟩
      rw [read_begins hb, hr, flush_eq]
      rfl
    · have hshorter : rest.length < (':' :: ':' :: rest).length := by
        rw [List.length_cons, List.length_cons]
        omega
      obtain ⟨items, hs, hr⟩ := ih _ hshorter rest rfl
      refine ⟨_, .colons hs, fun l => ?_⟩
      rw [read_colons, hr]
      simp [gather]
    · obtain ⟨items, hs, hr⟩ := ih _ (by simp) rest rfl
      have hplain : ∀ d ∈ [c], d ≠ '<' ∧ d ≠ ':' := by simp [hlt, hcolon]
      refine ⟨_, hs.literals hplain, fun l => ?_⟩
      rw [read_literal hlt hcolon, hr]
      simp [gather]
    · obtain ⟨items, hs, hr⟩ := ih _ (by simpa using List.length_pos_iff.2 hu) rest rfl
      refine ⟨_, hs.breaks hb, fun l => ?_⟩
      rw [read_breaks hb, hr, gather_literals]
      simp

theorem parse_eq_iff (s : String) (is : List Instruction) :
    parse s = is ↔ ∃ items, Scans s.toList items ∧ gather [] items = is := by
  obtain ⟨items, hs, hr⟩ := exists_scan s.toList
  constructor
  · rintro rfl
    exact ⟨items, hs, (hr []).symm⟩
  · rintro ⟨items', hs', rfl⟩
    rw [hs'.unique hs]
    exact hr []

/-! What gathering keeps. -/

theorem textOf_written (l : List Char) : (textOf l).flatMap (·.written.toList) = l := by
  unfold textOf
  split <;> simp_all [Instruction.written]

theorem gather_written (l : List Char) (items : List Item) :
    (gather l items).flatMap (·.written.toList) = l ++ items.flatMap Item.written := by
  induction items generalizing l with
  | nil => simp [gather, textOf_written]
  | cons item items ih =>
    cases item with
    | token i => simp [gather, textOf_written, Item.written, ih]
    | literal c => simp [gather, Item.written, ih]

theorem textOf_wellFormed (l : List Char) (hi : i ∈ textOf l) : WellFormed i := by
  unfold textOf at hi
  split at hi
  · simp at hi
  · obtain rfl := List.mem_singleton.1 hi
    simpa [WellFormed, ← String.toList_inj]

theorem gather_wellFormed {l : List Char} (h : ∀ i, .token i ∈ items → WellFormed i)
    (hi : i ∈ gather l items) : WellFormed i := by
  induction items generalizing l with
  | nil => exact textOf_wellFormed l hi
  | cons item items ih =>
    have ih := fun l => ih (l := l) fun i hi => h i (List.mem_cons_of_mem item hi)
    cases item with
    | token j =>
      rcases List.mem_append.1 hi with hi | hi
      · exact textOf_wellFormed l hi
      rcases List.mem_cons.1 hi with rfl | hi
      · exact h i (by simp)
      · exact ih [] hi
    | literal c => exact ih (l ++ [c]) hi

/-- Two texts side by side would be one. -/
def Apart (i j : Instruction) : Prop := ¬ (i.isText = true ∧ j.isText = true)

theorem gather_apart {l : List Char} (h : ∀ i, .token i ∈ items → i.isText = false) :
    (gather l items).IsChain Apart := by
  induction items generalizing l with
  | nil =>
    simp only [gather, textOf]
    split <;> simp
  | cons item items ih =>
    have ih := fun l => ih (l := l) fun i hi => h i (List.mem_cons_of_mem item hi)
    cases item with
    | token j =>
      have hj : j.isText = false := h j (by simp)
      have htail : (j :: gather [] items).IsChain Apart :=
        List.isChain_cons.2 ⟨fun k _ => by simp [Apart, hj], ih []⟩
      simp only [gather, textOf]
      split
      · exact htail
      · exact List.isChain_cons.2 ⟨fun k hk => by simp_all [Apart], htail⟩
    | literal c => exact ih (l ++ [c])

/-- Reading loses nothing: written back the instructions are the text. No text is empty or stands
beside another, and names are made of the characters of names. -/
theorem parse_lossless (s : String) :
    String.join ((parse s).map Instruction.written) = s ∧ (∀ i ∈ parse s, WellFormed i) ∧
      (parse s).IsChain Apart := by
  obtain ⟨items, hs, hp⟩ := (parse_eq_iff s _).1 rfl
  rw [← hp]
  refine ⟨?_, fun i hi => ?_, ?_⟩
  · rw [← String.toList_inj, String.toList_join, List.flatMap_map, gather_written, hs.written]
    rfl
  · refine gather_wellFormed (fun i hi => ?_) hi
    obtain ⟨_, _, hb⟩ := hs.begins hi
    exact hb.wellFormed
  · refine gather_apart fun i hi => ?_
    obtain ⟨_, _, hb⟩ := hs.begins hi
    exact hb.isText_eq

theorem parse_lossless_mixed :
    Instruction.push "b" ∈ parse "</>a<b>:x" ∧ WellFormed (.push "b") := by
  have h : Instruction.push "b" ∈ parse "</>a<b>:x" := by decide
  exact ⟨h, (parse_lossless "</>a<b>:x").2.1 _ h⟩

/-- Reading comes to what the grammar scans. Wherever a beginning breaks, scanning goes on with what
broke it, so that no token behind it is hidden. -/
theorem parse_follows_grammar (s : String) :
    (∀ is, parse s = is ↔ ∃ items, Scans s.toList items ∧ gather [] items = is) ∧
      ∀ u rest, Breaks u rest → ∀ items,
        Scans (u ++ rest) items ↔ ∃ back, Scans rest back ∧ items = u.map .literal ++ back := by
  refine ⟨parse_eq_iff s, fun u rest hu items => ⟨fun h => ?_, ?_⟩⟩
  · obtain ⟨back, hb, -⟩ := exists_scan rest
    exact ⟨back, hb, h.unique (hb.breaks hu)⟩
  · rintro ⟨back, hb, rfl⟩
    exact hb.breaks hu

theorem parse_follows_grammar_broken_placeholder :
    Breaks [':', 'a', '/'] ['<', 'b', '>'] ∧
      ∀ items, Scans [':', 'a', '/', '<', 'b', '>'] items ↔
        ∃ back, Scans ['<', 'b', '>'] back ∧
          items = [.literal ':', .literal 'a', .literal '/'] ++ back := by
  have h : Breaks [':', 'a', '/'] ['<', 'b', '>'] := by
    have hname : ∀ c ∈ ['a', '/'], InPlaceholderClass c := by
      intro c hc
      rw [← isPlaceholderChar_iff]
      simp only [List.mem_cons, List.not_mem_nil, or_false] at hc
      rcases hc with rfl | rfl <;> decide
    refine .placeholder hname (fun c hc => ?_) (by simp)
    cases hc
    exact fun hc => (ne_of_inPlaceholderClass hc).1 rfl
  exact ⟨h, (parse_follows_grammar ":a/<b>").2 _ _ h⟩

end Markup

end CardPress
