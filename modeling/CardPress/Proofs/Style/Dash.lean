import CardPress.Proofs.Text.Lower
import CardPress.Proofs.Text.Trim
import CardPress.Style.Dash

/-! Dash patterns: lengths that are read from a pattern draw it again, with its long marks as dots, and
lengths that are drawn are read again. -/
namespace CardPress

open Text

namespace DashPattern

variable {inMark mark : Bool} {length n : Nat} {c : Char} {cs before after : List Char}
  {segments rest : List Nat} {p : String}

/-- What marks and gaps are drawn with. -/
def ink (inMark : Bool) : Char := if inMark then '.' else ' '

/-- The characters of patterns. -/
def strokes : List Char := ['.', '-', ' ']

/-- How much of a mark or a gap a character draws. -/
inductive Stroke : Char → Bool → Nat → Prop where
  | dot : Stroke '.' true 1
  | dash : Stroke '-' true 3
  | space : Stroke ' ' false 1

/-- A pattern with three dots for each long mark. -/
def inDots (cs : List Char) : List Char := cs.flatMap fun c => if c = '-' then ['.', '.', '.'] else [c]

/-- Marks and gaps in turn, a mark first. Where a pattern begins with a gap, the mark before it has no
length; all others have one, and some mark is to be seen. -/
structure Alternates (segments : List Nat) : Prop where
  later : ∀ n ∈ segments.tail, 0 < n
  marked : ∃ i n, segments[i]? = some n ∧ i % 2 = 0 ∧ 0 < n

theorem exists_stroke (h : c ∈ strokes) : ∃ mark n, Stroke c mark n := by
  simp only [strokes, List.mem_cons, List.not_mem_nil, or_false] at h
  obtain rfl | rfl | rfl := h
  · exact ⟨true, 1, .dot⟩
  · exact ⟨true, 3, .dash⟩
  · exact ⟨false, 1, .space⟩

theorem stroke_ink (mark : Bool) : Stroke (ink mark) mark 1 := by
  cases mark
  · exact .space
  · exact .dot

namespace Stroke

theorem pos (h : Stroke c mark n) : 0 < n := by cases h <;> decide

theorem inDots_cons (h : Stroke c mark n) (cs : List Char) :
    inDots (c :: cs) = List.replicate n (ink mark) ++ inDots cs := by cases h <;> rfl

/-- A stroke makes longer what is being read, or ends it. -/
theorem segmentsFrom_cons (h : Stroke c mark n) (inMark : Bool) (length : Nat) (cs : List Char) :
    segmentsFrom inMark length (c :: cs) =
      (if mark = inMark then segmentsFrom inMark (length + n) cs
        else (segmentsFrom mark n cs).map (length :: ·)).mapError fun e => (e.1, e.2 + 1) := by
  cases h <;> cases inMark <;> rfl

end Stroke

theorem segmentsFrom_cons_of_not_stroke (h : c ∉ strokes) (inMark : Bool) (length : Nat)
    (cs : List Char) : segmentsFrom inMark length (c :: cs) = .error (c, 0) := by
  simp only [strokes, List.mem_cons, List.not_mem_nil, or_false, not_or] at h
  obtain ⟨hdot, hdash, hspace⟩ := h
  simp [segmentsFrom, markLength?, hdot, hdash, hspace]

/-- Reading stops at the first character that is no stroke. -/
theorem segmentsFrom_error (hbefore : ∀ d ∈ before, d ∈ strokes) (hc : c ∉ strokes)
    (inMark : Bool) (length : Nat) (after : List Char) :
    segmentsFrom inMark length (before ++ c :: after) = .error (c, before.length) := by
  induction before generalizing inMark length with
  | nil => exact segmentsFrom_cons_of_not_stroke hc inMark length after
  | cons d before ih =>
    obtain ⟨hd, hbefore⟩ := List.forall_mem_cons.mp hbefore
    obtain ⟨mark, n, hstroke⟩ := exists_stroke hd
    rw [List.cons_append, hstroke.segmentsFrom_cons, ih hbefore, ih hbefore]
    split <;> rfl

/-- Strokes are read as lengths that draw them again behind what was read before. -/
theorem segmentsFrom_ok (hcs : ∀ c ∈ cs, c ∈ strokes) (inMark : Bool) (length : Nat) :
    ∃ first rest, segmentsFrom inMark length cs = .ok (first :: rest) ∧ length ≤ first ∧
      (∀ n ∈ rest, 0 < n) ∧
      drawFrom inMark (first :: rest) = List.replicate length (ink inMark) ++ inDots cs := by
  -- a stroke may still lengthen what is being read, so its length goes along
  induction cs generalizing inMark length with
  | nil => exact ⟨length, [], rfl, le_rfl, by simp, rfl⟩
  | cons c cs ih =>
    obtain ⟨hc, hcs⟩ := List.forall_mem_cons.mp hcs
    obtain ⟨mark, n, hstroke⟩ := exists_stroke hc
    rw [hstroke.segmentsFrom_cons, hstroke.inDots_cons]
    by_cases hsame : mark = inMark
    · subst hsame
      obtain ⟨first, rest, hread, hle, hrest, hdraw⟩ := ih hcs mark (length + n)
      refine ⟨first, rest, by rw [if_pos rfl, hread]; rfl, by omega, hrest, ?_⟩
      rw [hdraw, ← List.replicate_append_replicate, List.append_assoc]
    · obtain rfl : mark = !inMark := Bool.eq_not.mpr hsame
      obtain ⟨first, rest, hread, hle, hrest, hdraw⟩ := ih hcs (!inMark) n
      refine ⟨length, first :: rest, by rw [if_neg hsame, hread]; rfl, le_rfl, ?_, ?_⟩
      · exact List.forall_mem_cons.mpr ⟨hstroke.pos.trans_le hle, hrest⟩
      · rw [drawFrom, hdraw]
        rfl

theorem segmentsFrom_replicate (h : segmentsFrom inMark (length + n) cs = .ok segments) :
    segmentsFrom inMark length (List.replicate n (ink inMark) ++ cs) = .ok segments := by
  induction n generalizing length with
  | zero => exact h
  | succ n ih =>
    rw [List.replicate_succ, List.cons_append, (stroke_ink inMark).segmentsFrom_cons, if_pos rfl,
      ih (by rwa [Nat.add_assoc, Nat.add_comm 1])]
    rfl

/-- Lengths that are drawn are read again, the first one behind what was read before. -/
theorem segmentsFrom_drawFrom (hrest : ∀ m ∈ rest, 0 < m) (inMark : Bool) (length n : Nat) :
    segmentsFrom inMark length (drawFrom inMark (n :: rest)) = .ok ((length + n) :: rest) := by
  refine segmentsFrom_replicate ?_
  induction rest generalizing inMark length n with
  | nil => rfl
  | cons m rest ih =>
    obtain ⟨hm, hlater⟩ := List.forall_mem_cons.mp hrest
    obtain ⟨k, rfl⟩ := Nat.exists_eq_succ_of_ne_zero hm.ne'
    have hread : segmentsFrom (!inMark) 1 (List.replicate k (ink !inMark) ++ drawFrom (!!inMark) rest) =
        .ok ((1 + k) :: rest) := segmentsFrom_replicate (ih hlater (!inMark) 1 k)
    change segmentsFrom inMark (length + n)
      (ink (!inMark) :: (List.replicate k (ink !inMark) ++ drawFrom (!!inMark) rest)) = _
    rw [(stroke_ink !inMark).segmentsFrom_cons, if_neg (by simp), hread, Nat.add_comm 1]
    rfl

/-- A dot is drawn for marks only. -/
theorem dot_mem_drawFrom (inMark : Bool) (segments : List Nat) :
    '.' ∈ drawFrom inMark segments ↔
      ∃ i n, segments[i]? = some n ∧ (i % 2 = 0 ↔ inMark = true) ∧ 0 < n := by
  induction segments generalizing inMark with
  | nil => simp [drawFrom]
  | cons n rest ih =>
    rw [drawFrom, List.mem_append, ih, List.mem_replicate]
    constructor
    · rintro (⟨hn, hink⟩ | ⟨i, m, hm, heven, hpos⟩)
      · refine ⟨0, n, rfl, ?_, Nat.pos_of_ne_zero hn⟩
        cases inMark
        · exact absurd hink (by decide)
        · simp
      · refine ⟨i + 1, m, hm, ?_, hpos⟩
        cases inMark <;> simp at heven ⊢ <;> omega
    · rintro ⟨_ | i, m, hm, heven, hpos⟩
      · obtain rfl := Option.some.inj hm
        obtain rfl : inMark = true := heven.mp rfl
        exact Or.inl ⟨hpos.ne', rfl⟩
      · refine Or.inr ⟨i, m, hm, ?_, hpos⟩
        cases inMark <;> simp at heven ⊢ <;> omega

theorem dot_mem_inDots (hcs : ∀ c ∈ cs, c ∈ strokes) (hc : c ∈ cs) (hblank : isBlank c = false) :
    '.' ∈ inDots cs := by
  refine List.mem_flatMap.mpr ⟨c, hc, ?_⟩
  obtain ⟨mark, n, hstroke⟩ := exists_stroke (hcs c hc)
  cases hstroke with
  | dot => simp
  | dash => simp
  | space => exact absurd hblank (by decide)

theorem mem_draw (h : c ∈ drawFrom inMark segments) : c = '.' ∨ c = ' ' := by
  induction segments generalizing inMark with
  | nil => simp [drawFrom] at h
  | cons n rest ih =>
    rcases List.mem_append.mp h with h | h
    · rw [List.eq_of_mem_replicate h]
      cases inMark <;> simp
    · exact ih h

/-- Text that stands for itself: neither blank nor the name of a pattern. -/
def IsPlain (p : String) : Prop := lower (trim p) ∉ ["", "solid", "dotted", "dashed"]

theorem isPlain_iff : IsPlain p ↔ (∃ c ∈ p.toList, isBlank c = false) ∧
    lower (trim p) ∉ ["solid", "dotted", "dashed"] := by
  have hblank : lower (trim p) = "" ↔ ¬ ∃ c ∈ p.toList, isBlank c = false := by
    rw [lower_eq_empty_iff, trim_eq_empty_iff]
    simp
  rw [IsPlain, List.mem_cons, not_or, hblank, not_not]

theorem ofString_of_isPlain (h : IsPlain p) : ofString p =
    ((segmentsFrom true 0 p.toList).map dashes).mapError
      fun e => .parse (.dashCharacter e.1 p e.2) := by
  simp only [IsPlain, List.mem_cons, List.not_mem_nil, or_false, not_or] at h
  obtain ⟨hempty, hsolid, hdotted, hdashed⟩ := h
  cases hread : segmentsFrom true 0 p.toList <;>
    simp [ofString, hempty, hsolid, hdotted, hdashed, hread, Except.map, Except.mapError]

/-- What is drawn with a dot is no name. -/
theorem isPlain_draw (h : '.' ∈ drawFrom true segments) : IsPlain (draw segments) := by
  have hdraw : (draw segments).toList = drawFrom true segments := String.toList_ofList
  rw [isPlain_iff, hdraw]
  refine ⟨⟨'.', h, by decide⟩, fun hword => ?_⟩
  have hink : ∀ c ∈ trimList (draw segments).toList, c = '.' ∨ c = ' ' := fun c hc =>
    mem_draw (hdraw ▸ mem_of_mem_trimList hc)
  have hlower : lower (trim (draw segments)) = trim (draw segments) := by
    rw [lower, trim, String.toList_ofList, lowerFrom_of_isKept]
    intro c hc
    obtain rfl | rfl := hink c hc <;> decide +kernel
  rw [hlower] at hword
  have hword : trimList (draw segments).toList ∈ ["solid".toList, "dotted".toList, "dashed".toList] := by
    simpa [trim, ← String.toList_inj] using hword
  simp only [List.mem_cons, List.not_mem_nil, or_false] at hword
  obtain hword | hword | hword := hword <;> rw [hword] at hink <;>
    simp at hink

theorem ofString_draw_of_alternates (h : Alternates segments) :
    ofString (draw segments) = .ok (dashes segments) := by
  obtain ⟨i, n, hi, heven, hpos⟩ := h.marked
  have hdot : '.' ∈ drawFrom true segments :=
    (dot_mem_drawFrom true segments).mpr ⟨i, n, hi, by simp [heven], hpos⟩
  rw [ofString_of_isPlain (isPlain_draw hdot), draw, String.toList_ofList]
  cases segments with
  | nil => simp at hi
  | cons first rest =>
    have hlater : ∀ n ∈ rest, 0 < n := h.later
    rw [segmentsFrom_drawFrom hlater true 0 first, Nat.zero_add]
    rfl

theorem ofString_of_strokes (h : IsPlain p) (hp : ∀ c ∈ p.toList, c ∈ strokes) :
    ∃ segments, ofString p = .ok (dashes segments) ∧ Alternates segments ∧
      draw segments = String.ofList (inDots p.toList) := by
  obtain ⟨⟨c, hc, hblank⟩, -⟩ := isPlain_iff.mp h
  obtain ⟨first, rest, hread, -, hrest, hdraw⟩ := segmentsFrom_ok hp true 0
  have hdraw : drawFrom true (first :: rest) = inDots p.toList := hdraw
  have hdot := dot_mem_inDots hp hc hblank
  rw [← hdraw, dot_mem_drawFrom] at hdot
  refine ⟨first :: rest, ?_, ⟨hrest, ?_⟩, congrArg _ hdraw⟩
  · rw [ofString_of_isPlain h, hread]
    rfl
  · simpa using hdot

/-- Text is made of strokes, or has a first character that is none. -/
theorem strokes_or (cs : List Char) : (∀ c ∈ cs, c ∈ strokes) ∨
    ∃ before c after, cs = before ++ c :: after ∧ (∀ d ∈ before, d ∈ strokes) ∧ c ∉ strokes := by
  induction cs with
  | nil => simp
  | cons c cs ih =>
    by_cases hc : c ∈ strokes
    · obtain h | ⟨before, d, after, rfl, hbefore, hd⟩ := ih
      · exact Or.inl (List.forall_mem_cons.mpr ⟨hc, h⟩)
      · exact Or.inr ⟨c :: before, d, after, rfl, List.forall_mem_cons.mpr ⟨hc, hbefore⟩, hd⟩
    · exact Or.inr ⟨[], c, cs, rfl, by simp, hc⟩

theorem ofString_of_not_stroke (h : IsPlain p) (hp : p.toList = before ++ c :: after)
    (hbefore : ∀ d ∈ before, d ∈ strokes) (hc : c ∉ strokes) :
    ofString p = .error (.parse (.dashCharacter c p before.length)) := by
  rw [ofString_of_isPlain h, hp, segmentsFrom_error hbefore hc]
  rfl

theorem ofString_eq_error_iff (h : IsPlain p) {f : Failure} :
    ofString p = .error f ↔ ∃ before c after, p.toList = before ++ c :: after ∧
      (∀ d ∈ before, d ∈ strokes) ∧ c ∉ strokes ∧ f = .parse (.dashCharacter c p before.length) := by
  constructor
  · intro hf
    obtain hp | ⟨before, c, after, hp, hbefore, hc⟩ := strokes_or p.toList
    · obtain ⟨segments, hok, -⟩ := ofString_of_strokes h hp
      rw [hok] at hf
      cases hf
    · rw [ofString_of_not_stroke h hp hbefore hc] at hf
      exact ⟨before, c, after, hp, hbefore, hc, (Except.error.inj hf).symm⟩
  · rintro ⟨before, c, after, hp, hbefore, hc, rfl⟩
    exact ofString_of_not_stroke h hp hbefore hc

/-- Every pattern that is accepted, by name or as it is drawn, has such lengths. -/
theorem alternates_of_ofString (h : ofString p = .ok (dashes segments)) : Alternates segments := by
  by_cases hplain : IsPlain p
  · obtain hp | ⟨before, c, after, hp, hbefore, hc⟩ := strokes_or p.toList
    · obtain ⟨found, hok, halternates, -⟩ := ofString_of_strokes hplain hp
      rw [hok] at h
      cases h
      exact halternates
    · rw [ofString_of_not_stroke hplain hp hbefore hc] at h
      cases h
  · have hpair (n : Nat) (hn : 0 < n) : Alternates [n, 1] :=
      ⟨by simp, 0, n, rfl, rfl, hn⟩
    simp only [IsPlain, List.mem_cons, List.not_mem_nil, or_false, not_not] at hplain
    unfold ofString at h
    obtain hword | hword | hword | hword := hplain <;> simp [hword] at h
    · rw [← h]
      exact hpair 1 (by decide)
    · rw [← h]
      exact hpair 3 (by decide)

/-- A pattern is refused for its first character that is no stroke, and for nothing else. The lengths
of any other draw it again, and lengths that are drawn are read again. -/
theorem ofString_draws :
    (∀ p : String, (∃ c ∈ p.toList, isBlank c = false) →
      lower (trim p) ∉ ["solid", "dotted", "dashed"] →
        (∀ f, ofString p = .error f ↔ ∃ before c after, p.toList = before ++ c :: after ∧
          (∀ d ∈ before, d ∈ strokes) ∧ c ∉ strokes ∧
            f = .parse (.dashCharacter c p before.length)) ∧
        ((∀ c ∈ p.toList, c ∈ strokes) →
          ∃ segments, ofString p = .ok (dashes segments) ∧ Alternates segments ∧
            draw segments = String.ofList (inDots p.toList))) ∧
    (∀ segments, Alternates segments → ofString (draw segments) = .ok (dashes segments)) ∧
    ∀ p segments, ofString p = .ok (dashes segments) →
      ofString (draw segments) = .ok (dashes segments) := by
  refine ⟨fun p hblank hword => ?_, fun _ => ofString_draw_of_alternates, fun p segments h => ?_⟩
  · have hplain : IsPlain p := isPlain_iff.mpr ⟨hblank, hword⟩
    exact ⟨fun f => ofString_eq_error_iff hplain, ofString_of_strokes hplain⟩
  · exact ofString_draw_of_alternates (alternates_of_ofString h)

theorem ofString_draws_gap_first :
    (∃ c ∈ "  .- .".toList, isBlank c = false) ∧
      lower (trim "  .- .") ∉ ["solid", "dotted", "dashed"] ∧
      (∀ c ∈ "  .- .".toList, c ∈ strokes) ∧
      (∃ segments, ofString "  .- ." = .ok (dashes segments) ∧ Alternates segments ∧
        draw segments = "  .... .") ∧
      ofString ". x" = .error (.parse (.dashCharacter 'x' ". x" 2)) ∧
      Alternates [0, 2, 4, 1, 1] ∧
      ofString (draw [0, 2, 4, 1, 1]) = .ok (dashes [0, 2, 4, 1, 1]) ∧
      ofString "Dotted" = .ok (dashes [1, 1]) ∧ ofString (draw [1, 1]) = .ok (dashes [1, 1]) := by
  have hblank : ∃ c ∈ "  .- .".toList, isBlank c = false := ⟨'.', by decide, by decide⟩
  have hword : lower (trim "  .- .") ∉ ["solid", "dotted", "dashed"] := by decide +kernel
  have hstrokes : ∀ c ∈ "  .- .".toList, c ∈ strokes := by simp [strokes]
  have halternates : Alternates [0, 2, 4, 1, 1] := ⟨by simp, 2, 4, rfl, rfl, by decide⟩
  have hnamed : ofString "Dotted" = .ok (dashes [1, 1]) := by decide +kernel
  obtain ⟨hplain, hdraw, hagain⟩ := ofString_draws
  refine ⟨hblank, hword, hstrokes, (hplain _ hblank hword).2 hstrokes, ?_, halternates,
    hdraw _ halternates, hnamed, hagain _ _ hnamed⟩
  have hrefused := (hplain ". x" ⟨'.', by decide, by decide⟩ (by decide +kernel)).1
  exact (hrefused _).mpr ⟨['.', ' '], 'x', [], rfl, by simp [strokes], by decide, rfl⟩

end DashPattern

end CardPress
