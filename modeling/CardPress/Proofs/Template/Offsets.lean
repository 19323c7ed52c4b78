import CardPress.CardText
import CardPress.Proofs.Template.Plan
import CardPress.Proofs.Text.Lines

/-! Where the line of a template fault starts. The template language ends a line at a line feed, at a
carriage return or at both together, while offsets are found by the lines of text in general, which other
characters end as well. -/
namespace CardPress.Template

open Text (isLineEnd lineList consFirst flatten_consFirst length_consFirst consFirst_append)

variable {c : Char} {cs before after : List Char} {n : Nat}

/-- The lines that the template language counts. What stands behind the last end of a line is a line too,
also if it is empty. -/
def sourceLines : List Char → List (List Char)
  | [] => [[]]
  | '\r' :: '\n' :: cs => ['\r', '\n'] :: sourceLines cs
  | c :: cs => if c = '\n' ∨ c = '\r' then [c] :: sourceLines cs else consFirst c (sourceLines cs)

/-- How many characters stand before a line; lines count from one. -/
def lineStart (source : String) (line : Nat) : Nat :=
  ((sourceLines source.toList).take (line - 1)).flatten.length

/-- Characters that end a line of text, but none of a template. -/
def isStray (c : Char) : Bool := isLineEnd c && c != '\n' && c != '\r'

/-- A number of complete lines of a template, and what stands behind them. -/
inductive Complete : Nat → List Char → List Char → Prop where
  | none (after : List Char) : Complete 0 [] after
  | pair {n : Nat} {before after : List Char} : Complete n before after →
      Complete (n + 1) ('\r' :: '\n' :: before) after
  | ending {n : Nat} {c : Char} {before after : List Char} : c = '\n' ∨ c = '\r' →
      (∀ cs, c = '\r' → before ++ after = '\n' :: cs → False) → Complete n before after →
      Complete (n + 1) (c :: before) after
  | letter {n : Nat} {c : Char} {before after : List Char} : ¬(c = '\n' ∨ c = '\r') →
      Complete (n + 1) before after → Complete (n + 1) (c :: before) after

theorem sourceLines_ne_nil (cs : List Char) : sourceLines cs ≠ [] := by
  induction cs using sourceLines.induct with
  | case1 => exact List.cons_ne_nil _ _
  | case2 cs ih => exact List.cons_ne_nil _ _
  | case3 c cs hpair hend ih =>
    rw [sourceLines.eq_3 _ _ hpair, if_pos hend]
    exact List.cons_ne_nil _ _
  | case4 c cs hpair hend ih =>
    rw [sourceLines.eq_3 _ _ hpair, if_neg hend]
    cases sourceLines cs with
    | nil => exact List.cons_ne_nil _ _
    | cons l ls => exact List.cons_ne_nil _ _

theorem sourceLines_letter (hc : ¬(c = '\n' ∨ c = '\r')) (cs : List Char) :
    sourceLines (c :: cs) = consFirst c (sourceLines cs) := by
  have hpair : ∀ rest, c = '\r' → cs = '\n' :: rest → False := fun _ hr _ => hc (.inr hr)
  rw [sourceLines.eq_3 _ _ hpair, if_neg hc]

theorem flatten_sourceLines (cs : List Char) : (sourceLines cs).flatten = cs := by
  induction cs using sourceLines.induct with
  | case1 => rfl
  | case2 cs ih => rw [sourceLines, List.flatten_cons, ih]; rfl
  | case3 c cs hpair hend ih => rw [sourceLines.eq_3 _ _ hpair, if_pos hend, List.flatten_cons, ih]; rfl
  | case4 c cs hpair hend ih => rw [sourceLines.eq_3 _ _ hpair, if_neg hend, flatten_consFirst, ih]

/-- Carriage returns that become line feeds end the same lines. -/
theorem length_sourceLines (cs : List Char) :
    (sourceLines cs).length = Scan.newlines (Scan.plainLines cs) + 1 := by
  induction cs using sourceLines.induct with
  | case1 => rfl
  | case2 cs ih =>
    rw [sourceLines, List.length_cons, ih, Scan.plainLines]
    simp [Scan.newlines]
  | case3 c cs hpair hend ih =>
    rw [sourceLines.eq_3 _ _ hpair, if_pos hend, List.length_cons, ih, Scan.plainLines.eq_2 _ _ hpair]
    obtain rfl | rfl := hend <;> simp [Scan.newlines]
  | case4 c cs hpair hend ih =>
    obtain ⟨hfeed, hreturn⟩ := not_or.mp hend
    rw [sourceLines.eq_3 _ _ hpair, if_neg hend, length_consFirst (sourceLines_ne_nil cs), ih,
      Scan.plainLines.eq_2 _ _ hpair, if_neg hreturn]
    simp [Scan.newlines, hfeed]

/-- The first lines of a text but for the last one are complete. -/
theorem complete_take (cs : List Char) {n : Nat} (h : n < (sourceLines cs).length) :
    Complete n ((sourceLines cs).take n).flatten ((sourceLines cs).drop n).flatten := by
  induction cs using sourceLines.induct generalizing n with
  | case1 =>
    obtain rfl : n = 0 := Nat.lt_one_iff.mp h
    exact .none _
  | case2 cs ih =>
    rw [sourceLines] at h ⊢
    cases n with
    | zero => exact .none _
    | succ n => exact .pair (ih (Nat.lt_of_succ_lt_succ h))
  | case3 c cs hpair hend ih =>
    rw [sourceLines.eq_3 _ _ hpair, if_pos hend] at h ⊢
    cases n with
    | zero => exact .none _
    | succ n =>
      have hjoin : ((sourceLines cs).take n).flatten ++ ((sourceLines cs).drop n).flatten = cs := by
        rw [← List.flatten_append, List.take_append_drop, flatten_sourceLines]
      refine .ending hend ?_ (ih (Nat.lt_of_succ_lt_succ h))
      exact fun rest hr hcs => hpair rest hr (hjoin.symm.trans hcs)
  | case4 c cs hpair hend ih =>
    rw [sourceLines.eq_3 _ _ hpair, if_neg hend] at h ⊢
    rw [length_consFirst (sourceLines_ne_nil cs)] at h
    cases n with
    | zero => exact .none _
    | succ n =>
      have hrest := ih h
      cases hlines : sourceLines cs with
      | nil => exact absurd hlines (sourceLines_ne_nil cs)
      | cons l ls =>
        rw [hlines] at hrest
        exact .letter hend hrest

namespace Complete

theorem not_pair (h : ∀ rest, c = '\r' → before ++ after = '\n' :: rest → False) :
    ∀ rest, c = '\r' → before = '\n' :: rest → False :=
  fun rest hr hbefore => h (rest ++ after) hr (by rw [hbefore]; rfl)

/-- Complete lines are lines by themselves, with an empty one behind them. -/
theorem sourceLines_eq (h : Complete n before after) :
    ∃ ls, ls.length = n ∧ sourceLines before = ls ++ [[]] ∧
      sourceLines (before ++ after) = ls ++ sourceLines after := by
  induction h with
  | none after => exact ⟨[], rfl, rfl, rfl⟩
  | pair h ih =>
    obtain ⟨ls, hlength, hbefore, hall⟩ := ih
    refine ⟨['\r', '\n'] :: ls, ?_, ?_, ?_⟩
    · rw [List.length_cons, hlength]
    · rw [sourceLines, hbefore]
      rfl
    · rw [List.cons_append, List.cons_append, sourceLines, hall]
      rfl
  | @ending n c before after hend hpair h ih =>
    obtain ⟨ls, hlength, hbefore, hall⟩ := ih
    refine ⟨[c] :: ls, ?_, ?_, ?_⟩
    · rw [List.length_cons, hlength]
    · rw [sourceLines.eq_3 _ _ (not_pair hpair), if_pos hend, hbefore]
      rfl
    · rw [List.cons_append, sourceLines.eq_3 _ _ hpair, if_pos hend, hall]
      rfl
  | @letter n c before after hc h ih =>
    obtain ⟨ls, hlength, hbefore, hall⟩ := ih
    have hls : ls ≠ [] := List.ne_nil_of_length_eq_add_one hlength
    refine ⟨consFirst c ls, ?_, ?_, ?_⟩
    · rw [length_consFirst hls, hlength]
    · rw [sourceLines_letter hc, hbefore, consFirst_append hls]
    · rw [List.cons_append, sourceLines_letter hc, hall, consFirst_append hls]

/-- Complete lines are cut into lines of text without what stands behind them, one for each of their
stray characters more. -/
theorem lineList_eq (h : Complete n before after) :
    lineList (before ++ after) = lineList before ++ lineList after ∧
      (lineList before).length = n + before.countP isStray := by
  induction h with
  | none after => exact ⟨rfl, rfl⟩
  | @pair n before after h ih =>
    obtain ⟨hall, hlength⟩ := ih
    constructor
    · rw [List.cons_append, List.cons_append, lineList, lineList, hall]
      rfl
    · rw [lineList, List.length_cons, hlength, List.countP_cons_of_neg (by decide),
        List.countP_cons_of_neg (by decide)]
      omega
  | @ending n c before after hend hpair h ih =>
    obtain ⟨hall, hlength⟩ := ih
    have hline : isLineEnd c = true := by
      obtain rfl | rfl := hend
      · decide
      · decide
    have hstray : ¬isStray c = true := by
      obtain rfl | rfl := hend
      · decide
      · decide
    constructor
    · rw [List.cons_append, Text.lineList.eq_3 _ _ hpair, if_pos hline, Text.lineList.eq_3 _ _ (not_pair hpair),
        if_pos hline, hall]
      rfl
    · rw [Text.lineList.eq_3 _ _ (not_pair hpair), if_pos hline, List.length_cons, hlength,
        List.countP_cons_of_neg hstray]
      omega
  | @letter n c before after hc h ih =>
    obtain ⟨hall, hlength⟩ := ih
    obtain ⟨hfeed, hreturn⟩ := not_or.mp hc
    have hpair (cs : List Char) : ∀ rest, c = '\r' → cs = '\n' :: rest → False := fun _ hr _ => hreturn hr
    rw [List.cons_append, Text.lineList.eq_3 _ _ (hpair _), Text.lineList.eq_3 _ _ (hpair _)]
    by_cases hline : isLineEnd c = true
    · have hstray : isStray c = true := by simp [isStray, hline, hfeed, hreturn]
      rw [if_pos hline, if_pos hline, hall, List.length_cons, hlength, List.countP_cons_of_pos hstray]
      exact ⟨rfl, by omega⟩
    · have hstray : ¬isStray c = true := by simp [isStray, hline]
      have hne : lineList before ≠ [] := by
        intro hnil
        rw [hnil, List.length_nil] at hlength
        omega
      rw [if_neg hline, if_neg hline, hall, consFirst_append hne, length_consFirst hne, hlength,
        List.countP_cons_of_neg hstray]
      exact ⟨rfl, rfl⟩

end Complete

/-- The first of some parts that are not empty are as long as all of them only if they are all of them. -/
theorem length_flatten_take {ls : List (List Char)} (h : ∀ l ∈ ls, l ≠ []) {n : Nat} :
    (ls.take n).flatten.length ≤ ls.flatten.length ∧
      ((ls.take n).flatten.length = ls.flatten.length ↔ ls.length ≤ n) := by
  have hjoin : ls.flatten.length = (ls.take n).flatten.length + (ls.drop n).flatten.length := by
    rw [← List.length_append, ← List.flatten_append, List.take_append_drop]
  have hdrop : (ls.drop n).flatten = [] ↔ ls.length ≤ n := by
    rw [← List.drop_eq_nil_iff, List.flatten_eq_nil_iff]
    constructor
    · intro hnil
      refine List.eq_nil_iff_forall_not_mem.mpr fun l hl => ?_
      exact h l (List.mem_of_mem_drop hl) (hnil l hl)
    · intro hnil
      rw [hnil]
      exact List.forall_mem_nil _
  refine ⟨by omega, ?_⟩
  rw [← hdrop, ← List.length_eq_zero_iff]
  omega

theorem lineOffset_eq {source : String} (hn : 1 ≤ n) :
    CardText.lineOffset source n = some ((lineList source.toList).take (n - 1)).flatten.length := by
  unfold CardText.lineOffset
  rw [if_neg (Nat.one_le_iff_ne_zero.mp hn), List.length_flatten]
  rfl

/-- Cut where a line starts, a text leaves the complete lines in front of it and the lines from it on. -/
theorem sourceLines_take_drop (cs : List Char) (h : n < (sourceLines cs).length) :
    sourceLines ((sourceLines cs).take n).flatten = (sourceLines cs).take n ++ [[]] ∧
      sourceLines ((sourceLines cs).drop n).flatten = (sourceLines cs).drop n := by
  obtain ⟨ls, hlength, hbefore, hall⟩ := (complete_take cs h).sourceLines_eq
  rw [← List.flatten_append, List.take_append_drop, flatten_sourceLines] at hall
  constructor
  · rw [hbefore, hall, ← hlength, List.take_left]
  · have hdrop : (ls ++ sourceLines ((sourceLines cs).drop n).flatten).drop n =
        sourceLines ((sourceLines cs).drop n).flatten := by
      rw [← hlength]
      exact List.drop_left
    rw [← hall] at hdrop
    exact hdrop.symm

/-- Lines of text never come behind the lines of a template. They keep up with them as long as no stray
character has ended one. -/
theorem length_take_lineList (cs : List Char) (h : n < (sourceLines cs).length) :
    ((lineList cs).take n).flatten.length ≤ ((sourceLines cs).take n).flatten.length ∧
      (((lineList cs).take n).flatten.length = ((sourceLines cs).take n).flatten.length ↔
        ∀ c ∈ ((sourceLines cs).take n).flatten, isStray c = false) := by
  obtain ⟨hall, hlength⟩ := (complete_take cs h).lineList_eq
  rw [← List.flatten_append, List.take_append_drop, flatten_sourceLines] at hall
  set before := ((sourceLines cs).take n).flatten
  have htake : (lineList cs).take n = (lineList before).take n := by
    rw [hall, List.take_append_of_le_length (by omega)]
  have hfull : ∀ l ∈ lineList before, l ≠ [] := fun _ => Text.lineList_ne_nil_of_mem
  have hparts := length_flatten_take hfull (n := n)
  rw [Text.flatten_lineList, ← htake] at hparts
  refine ⟨hparts.1, hparts.2.trans ?_⟩
  have hcount : (lineList before).length ≤ n ↔ before.countP isStray = 0 := by omega
  rw [hcount, List.countP_eq_zero]
  simp only [Bool.not_eq_true]

/-- No stray character stands before a line. -/
def PlainBefore (source : String) (line : Nat) : Prop :=
  ∀ c ∈ source.toList.take (lineStart source line), isStray c = false

theorem flatten_take (source : String) (line : Nat) :
    source.toList.take (lineStart source line) = ((sourceLines source.toList).take (line - 1)).flatten := by
  have hjoin := flatten_sourceLines source.toList
  rw [← List.take_append_drop (line - 1) (sourceLines source.toList), List.flatten_append] at hjoin
  conv_lhs => rw [← hjoin]
  exact List.take_left

theorem flatten_drop (source : String) (line : Nat) :
    source.toList.drop (lineStart source line) = ((sourceLines source.toList).drop (line - 1)).flatten := by
  have hjoin := flatten_sourceLines source.toList
  rw [← List.take_append_drop (line - 1) (sourceLines source.toList), List.flatten_append] at hjoin
  conv_lhs => rw [← hjoin]
  exact List.drop_left

/-- What a text is refused for as a template is on one of its lines. -/
theorem compile_refuses (source : String) :
    RefusesOn (fun line => 1 ≤ line ∧ line ≤ (sourceLines source.toList).length) (compile source) := by
  have hcovers : Scan.Covers (fun line => 1 ≤ line ∧ line ≤ (sourceLines source.toList).length) 1
      (Scan.plainLines source.toList) := by
    intro line hfrom hto
    rw [length_sourceLines]
    exact ⟨hfrom, by omega⟩
  unfold compile
  refine Ends.bind (Stmt.ofScan_ends hcovers.here (Scan.ofString_on hcovers)) ?_
  intro body hbody
  exact .bind (Plan.ofStmts_refuses hbody) fun _ _ => .pure trivial

end Template

namespace CardText

open Template (sourceLines lineStart PlainBefore)

theorem ofString_flaw {source text : String} {f : Template.Fault} {offset : Nat}
    (h : ofString source = .error (.problem (.template (.flaw f offset) text))) :
    Template.compile source = .error (.fault f) ∧ offset = (lineOffset source f.line).getD 0 ∧ text = source := by
  unfold ofString at h
  split at h
  · split at h
    · cases h
    · next g hg =>
      cases h
      exact ⟨hg, rfl, rfl⟩
    · cases h
  · cases h

/-- Text whose tokens cannot be read. -/
theorem ofString_of_fault {source : String} {scan : Template.Scan} {f : Template.Fault} {offset : Nat}
    (hmark : hasMark source.toList = true) (hscan : Template.Scan.ofString source = scan)
    (hread : Template.Stmt.ofScan scan = .error (.fault f)) (hoffset : lineOffset source f.line = some offset) :
    ofString source = .error (.problem (.template (.flaw f offset) source)) := by
  have hcompile : Template.compile source = .error (.fault f) := by
    unfold Template.compile
    rw [hscan, hread]
    rfl
  unfold ofString
  rw [if_pos hmark, hcompile]
  simp only [hoffset, Option.getD_some]

theorem lineOffset_le {source : String} {n : Nat} (hfirst : 1 ≤ n)
    (hlast : n ≤ (sourceLines source.toList).length) :
    ∃ k, lineOffset source n = some k ∧ k ≤ lineStart source n ∧
      (k = lineStart source n ↔ PlainBefore source n) := by
  have hlines := Template.length_take_lineList source.toList (n := n - 1) (by omega)
  refine ⟨_, Template.lineOffset_eq hfirst, hlines.1, hlines.2.trans ?_⟩
  rw [PlainBefore, Template.flatten_take]

/-- Where a line of a template starts. Cut at its start, the text leaves just the lines before it, and the
lines from it on. The offset found for a line is never behind its start, and it is the start exactly if no
character that ends a line of text but none of a template stands before it. The fault of a template is on
one of its lines, and its offset is the one found for that line. -/
theorem offset_eq_lineStart_iff (source : String) :
    (∀ n, 1 ≤ n → n ≤ (sourceLines source.toList).length →
      sourceLines (source.toList.take (lineStart source n)) = (sourceLines source.toList).take (n - 1) ++ [[]] ∧
      sourceLines (source.toList.drop (lineStart source n)) = (sourceLines source.toList).drop (n - 1) ∧
      ∃ k, lineOffset source n = some k ∧ k ≤ lineStart source n ∧
        (k = lineStart source n ↔ PlainBefore source n)) ∧
    ∀ f offset text, ofString source = .error (.problem (.template (.flaw f offset) text)) →
      text = source ∧ 1 ≤ f.line ∧ f.line ≤ (sourceLines source.toList).length ∧
      lineOffset source f.line = some offset ∧ offset ≤ lineStart source f.line ∧
      (offset = lineStart source f.line ↔ PlainBefore source f.line) := by
  constructor
  · intro n hfirst hlast
    obtain ⟨htake, hdrop⟩ := Template.sourceLines_take_drop source.toList (n := n - 1) (by omega)
    rw [Template.flatten_take, Template.flatten_drop]
    exact ⟨htake, hdrop, lineOffset_le hfirst hlast⟩
  · intro f offset text h
    obtain ⟨hcompile, hoffset, rfl⟩ := ofString_flaw h
    have hline := Template.compile_refuses text
    rw [hcompile] at hline
    obtain ⟨hfirst, hlast⟩ := hline
    obtain ⟨k, hk, hle, hiff⟩ := lineOffset_le hfirst hlast
    rw [hk] at hoffset
    obtain rfl : offset = k := hoffset
    exact ⟨rfl, hfirst, hlast, hk, hle, hiff⟩

theorem offset_eq_lineStart_iff_second :
    ofString "a\n\x7b\x7b" =
        .error (.problem (.template (.flaw ⟨.unexpected "end of template", 2⟩ 2) "a\n\x7b\x7b")) ∧
      2 = lineStart "a\n\x7b\x7b" 2 := by
  have hscan : Template.Scan.ofString "a\n\x7b\x7b" = ⟨[⟨1, .data "a\n"⟩, ⟨2, .variableBegin⟩], none⟩ := rfl
  have hflaw : ofString "a\n\x7b\x7b" =
      .error (.problem (.template (.flaw ⟨.unexpected "end of template", 2⟩ 2) "a\n\x7b\x7b")) :=
    ofString_of_fault rfl hscan rfl rfl
  have hplain : PlainBefore "a\n\x7b\x7b" 2 := by
    intro c hc
    have hbefore : c ∈ ['a', '\n'] := hc
    simp only [List.mem_cons, List.not_mem_nil, or_false] at hbefore
    obtain rfl | rfl := hbefore
    · decide
    · decide
  obtain ⟨-, -, -, -, -, hiff⟩ := (offset_eq_lineStart_iff "a\n\x7b\x7b").2 _ _ _ hflaw
  exact ⟨hflaw, hiff.mpr hplain⟩

/-- A form feed ends no line of a template: the second line starts at 4 here, but the offset is 2. -/
theorem offset_behind_form_feed :
    ofString "a\x0cb\n\x7b\x7b" =
        .error (.problem (.template (.flaw ⟨.unexpected "end of template", 2⟩ 2) "a\x0cb\n\x7b\x7b")) ∧
      lineOffset "a\x0cb\n\x7b\x7b" 2 = some 2 ∧ lineStart "a\x0cb\n\x7b\x7b" 2 = 4 := by
  have hscan : Template.Scan.ofString "a\x0cb\n\x7b\x7b" =
      ⟨[⟨1, .data "a\x0cb\n"⟩, ⟨2, .variableBegin⟩], none⟩ := rfl
  refine ⟨ofString_of_fault rfl hscan rfl rfl, ?_, ?_⟩
  · decide
  · decide

end CardText

end CardPress
