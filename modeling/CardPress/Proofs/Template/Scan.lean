import CardPress.Template.Token

/-! Cutting template text into tokens: every token, and the fault if there is one, stands on a line of the
text. -/
namespace CardPress.Template

variable {P : Nat → Prop} {α : Type}

/-- A refusal is for a fault on a line of a kind, or for a part that cannot be computed. -/
def Refusal.On (P : Nat → Prop) : Refusal → Prop
  | .fault f => P f.line
  | .trouble _ => True

namespace Literal

variable {cs rest digits body : List Char} {ok : Char → Bool}

theorem spanDigitsFrom_suffix (ok : Char → Bool) (afterDigit : Bool) (cs : List Char) :
    (spanDigitsFrom ok afterDigit cs).2 <:+ cs := by
  induction cs generalizing afterDigit with
  | nil => exact List.suffix_refl _
  | cons c cs ih =>
    rw [spanDigitsFrom]
    split
    · exact (ih true).trans (List.suffix_cons c cs)
    · split
      · exact (ih false).trans (List.suffix_cons c cs)
      · exact List.suffix_refl _

theorem spanDigits_suffix (ok : Char → Bool) (cs : List Char) : (spanDigits ok cs).2 <:+ cs :=
  spanDigitsFrom_suffix ok false cs

theorem spanExponent_suffix {mark : List Char} (h : spanExponent cs = some (mark, digits, rest)) :
    rest <:+ cs := by
  cases cs with
  | nil => cases h
  | cons c cs =>
    rw [spanExponent] at h
    split at h
    · dsimp only at h
      split at h
      · cases h
      · cases h
        have hdigits := spanDigits_suffix isDecimal
          (cs.drop (cs.takeWhile fun d => d = '+' || d = '-').length)
        exact (hdigits.trans (List.drop_suffix _ cs)).trans (List.suffix_cons c cs)
    · cases h

theorem spanFraction_suffix (cs : List Char) : (spanFraction cs).2 <:+ cs := by
  unfold spanFraction
  split
  · next cs =>
    dsimp only
    split
    · exact List.suffix_refl _
    · exact (spanDigits_suffix isDecimal cs).trans (List.suffix_cons _ cs)
  · exact List.suffix_refl _

theorem real?_suffix {w : Written} (h : real? cs = some (w, rest)) : rest <:+ cs := by
  have hfraction : (spanFraction (spanDigits isDecimal cs).2).2 <:+ cs :=
    (spanFraction_suffix _).trans (spanDigits_suffix isDecimal cs)
  unfold real? at h
  dsimp only at h
  split at h
  · cases h
  · split at h
    · next hexponent =>
      cases h
      exact (spanExponent_suffix hexponent).trans hfraction
    · split at h
      · cases h
      · cases h
        exact hfraction

theorem basedDigits_suffix {base : Nat} {n : Except Trouble Nat}
    (h : basedDigits base ok cs = some (n, rest)) : rest <:+ cs := by
  unfold basedDigits at h
  dsimp only at h
  split at h
  · next tail =>
    split at h
    · cases h
    · cases h
      exact (spanDigits_suffix ok tail).trans (List.suffix_cons _ tail)
  · split at h
    · cases h
    · cases h
      exact spanDigits_suffix ok cs

theorem afterZero?_suffix {n : Except Trouble Nat} (h : afterZero? cs = some (n, rest)) : rest <:+ cs := by
  cases cs with
  | nil => cases h
  | cons c body =>
    have hbody : rest <:+ body := by
      unfold afterZero? at h
      dsimp only at h
      split at h
      · exact basedDigits_suffix h
      · exact basedDigits_suffix h
      · exact basedDigits_suffix h
      · cases h
    exact hbody.trans (List.suffix_cons c body)

theorem whole?_suffix {n : Except Trouble Nat} (h : whole? cs = some (n, rest)) : rest <:+ cs := by
  unfold whole? at h
  split at h
  · next cs =>
    cases hzero : afterZero? cs with
    | some found =>
      rw [hzero] at h
      cases h
      exact (afterZero?_suffix hzero).trans (List.suffix_cons _ cs)
    | none =>
      rw [hzero] at h
      simp only [Option.orElse_none, Option.some.injEq, Prod.mk.injEq] at h
      rw [← h.2]
      exact spanDigits_suffix _ ('0' :: cs)
  · next c cs _ =>
    split at h
    · cases h
      exact spanDigits_suffix isDecimal (c :: cs)
    · cases h
  · cases h

theorem spanString_suffix {mark : Char} (h : spanString mark cs = some (body, rest)) : rest <:+ cs := by
  induction cs using spanString.induct mark generalizing body with
  | case1 => cases h
  | case2 cs =>
    rw [spanString.eq_def] at h
    simp only [↓reduceIte, Option.some.injEq, Prod.mk.injEq] at h
    rw [← h.2]
    exact List.suffix_cons mark cs
  | case3 hmark =>
    simp only [spanString, if_neg hmark, if_pos] at h
    cases h
  | case4 c cs hmark ih =>
    simp only [spanString, if_neg hmark, if_pos, Option.map_eq_some_iff] at h
    obtain ⟨⟨more, behind⟩, hspan, h⟩ := h
    cases h
    exact ((ih hspan).trans (List.suffix_cons c cs)).trans (List.suffix_cons _ _)
  | case5 c cs hmark hbackslash ih =>
    rw [spanString.eq_def] at h
    simp only [if_neg hmark, if_neg hbackslash, Option.map_eq_some_iff] at h
    obtain ⟨⟨more, behind⟩, hspan, h⟩ := h
    cases h
    exact (ih hspan).trans (List.suffix_cons c cs)

end Literal

namespace Scan

variable {cs rest : List Char} {line : Nat}

theorem takeControl_suffix (cs : List Char) : (takeControl cs).2 <:+ cs := by
  unfold takeControl
  split
  · exact List.suffix_cons _ _
  · exact List.suffix_cons _ _
  · exact List.suffix_refl _

theorem dropWord_suffix {word : List Char} (h : dropWord word cs = some rest) : rest <:+ cs := by
  unfold dropWord at h
  split at h
  · cases h
    exact List.drop_suffix _ cs
  · cases h

theorem dropBlanks_suffix (cs : List Char) : dropBlanks cs <:+ cs := List.dropWhile_suffix _

theorem closing_suffix {plus : Bool} {first : Char} (h : closing plus first cs = some rest) : rest <:+ cs := by
  -- every closing delimiter is some characters in front of what is left
  have hbehind (a b c : Char) (cs : List Char) : cs <:+ a :: b :: c :: cs :=
    List.suffix_append [a, b, c] cs
  unfold closing at h
  split at h
  · next c cs =>
    split at h
    · cases h
      exact (dropBlanks_suffix cs).trans (hbehind _ _ _ cs)
    · cases h
  · next c cs =>
    split at h
    · cases h
      exact hbehind _ _ _ _
    · cases h
  · next c cs _ _ =>
    split at h
    · cases h
      exact List.suffix_append [c, _] _
    · cases h
  · cases h

theorem rawOpening_suffix (h : rawOpening cs = some rest) : rest <:+ cs := by
  simp only [rawOpening, Option.bind_eq_bind, Option.bind_eq_some_iff] at h
  obtain ⟨behind, hword, hclosing⟩ := h
  have hbehind := (closing_suffix hclosing).trans ((dropBlanks_suffix _).trans (dropWord_suffix hword))
  exact hbehind.trans ((dropBlanks_suffix _).trans (takeControl_suffix cs))

theorem rawClosing_suffix {control : Option Char} (h : rawClosing cs = some (control, rest)) :
    rest <:+ cs := by
  simp only [rawClosing, Option.bind_eq_bind, Option.bind_eq_some_iff] at h
  obtain ⟨tag, htag, behind, hword, ending, hclosing, h⟩ := h
  cases h
  have hbehind := (closing_suffix hclosing).trans ((dropBlanks_suffix _).trans (dropWord_suffix hword))
  exact hbehind.trans ((dropBlanks_suffix _).trans ((takeControl_suffix tag).trans (dropWord_suffix htag)))

theorem sign?_suffix {s : String} (h : sign? cs = some (s, rest)) : rest <:+ cs := by
  unfold sign? at h
  split at h
  · next a b cs =>
    dsimp only at h
    split at h
    · cases h
      exact List.suffix_append [a, b] _
    · split at h
      · cases h
        exact List.suffix_cons a _
      · cases h
  · split at h
    · cases h
      exact List.suffix_cons _ _
    · cases h
  · cases h

theorem untilOpening_eq {before text : List Char} {kind : Char}
    (h : untilOpening before cs = some (text, kind, rest)) :
    text ++ '\x7b' :: kind :: rest = before.reverse ++ cs := by
  induction before, cs using untilOpening.induct with
  | case1 before => cases h
  | case2 before d behind hd =>
    rw [untilOpening.eq_2, if_pos hd] at h
    cases h
    rfl
  | case3 before d behind hd ih =>
    rw [untilOpening.eq_2, if_neg hd] at h
    simpa using ih h
  | case4 before c cs hne ih =>
    rw [untilOpening.eq_3 _ _ _ hne] at h
    simpa using ih h

theorem splitWhere_eq {found : List Char → Option α} {before text : List Char} {a : α}
    (h : splitWhere found before cs = some (text, a)) :
    ∃ behind, text ++ behind = before.reverse ++ cs ∧ found behind = some a := by
  induction before, cs using splitWhere.induct found with
  | case1 before => cases h
  | case2 before c cs b hb =>
    simp only [splitWhere, hb] at h
    cases h
    exact ⟨c :: cs, rfl, hb⟩
  | case3 before c cs hnone ih =>
    simp only [splitWhere, hnone] at h
    simpa using ih h

/-- What is left behind a step. -/
def Step.rest? : Step → Option (List Char)
  | .blank rest => some rest
  | .token _ rest => some rest
  | .fail _ => none
  | .halt _ => none

theorem stepWord_suffix (h : (stepWord cs).rest? = some rest) : rest <:+ cs := by
  unfold stepWord at h
  dsimp only at h
  split at h
  · cases h
    exact List.drop_suffix _ cs
  · cases h

theorem stepText_suffix {body behind : List Char} (h : (stepText body behind).rest? = some rest) :
    rest = behind := by
  unfold stepText at h
  split at h
  · cases h
    rfl
  · cases h

theorem step_suffix {position : Nat} {afterPoint : Bool}
    (h : (step position afterPoint cs).rest? = some rest) : rest <:+ cs := by
  unfold step at h
  split at h
  · cases h
    exact List.suffix_refl _
  · next c tail =>
    split at h
    · cases h
      exact (dropBlanks_suffix tail).trans (List.suffix_cons c tail)
    · split at h
      · next written behind hreal =>
        have hbehind : behind <:+ c :: tail := by
          split at hreal
          · cases hreal
          · exact Literal.real?_suffix hreal
        split at h
        · cases h
          exact hbehind
        · cases h
      · split at h
        · next n behind hwhole =>
          cases h
          exact Literal.whole?_suffix hwhole
        · cases h
        · split at h
          · exact stepWord_suffix h
          · split at h
            · next body behind hspan =>
              have hbehind : behind <:+ tail := by
                split at hspan
                · exact Literal.spanString_suffix hspan
                · cases hspan
              rw [stepText_suffix h]
              exact hbehind.trans (List.suffix_cons c tail)
            · split at h
              · next s behind hsign =>
                cases h
                exact sign?_suffix hsign
              · cases h

/-- All lines that the characters still to come stand on are of a kind. -/
def Covers (P : Nat → Prop) (line : Nat) (cs : List Char) : Prop :=
  ∀ n, line ≤ n → n ≤ line + newlines cs → P n

theorem newlines_consumed (h : rest <:+ cs) : newlines (consumed cs rest) + newlines rest = newlines cs := by
  obtain ⟨before, rfl⟩ := h
  simp [consumed, newlines]

namespace Covers

theorem here (h : Covers P line cs) : P line := h line (Nat.le_refl _) (Nat.le_add_right _ _)

theorem behind (h : Covers P line cs) (hrest : rest <:+ cs) :
    Covers P (line + newlines (consumed cs rest)) rest := by
  have hcount := newlines_consumed hrest
  intro n hfrom hto
  exact h n (by omega) (by omega)

theorem at_tag {text : List Char} (h : Covers P line cs) (htext : text ++ rest = cs) :
    P (line + newlines text) := by
  subst htext
  exact h _ (Nat.le_add_right _ _) (by simp [newlines])

end Covers

/-- Every token of a scan, and the fault that ends it, stands on a line of a kind. -/
structure On (P : Nat → Prop) (s : Scan) : Prop where
  tokens : ∀ t ∈ s.tokens, P t.line
  refusal : ∀ r, s.refusal = some r → r.On P

namespace On

variable {s : Scan} {t : Token}

theorem done : done.On P := ⟨List.forall_mem_nil _, nofun⟩

theorem stop {p : Problem} (h : P line) : (stop line p).On P :=
  ⟨List.forall_mem_nil _, fun _ hr => by cases hr; exact h⟩

theorem push (h : s.On P) (ht : P t.line) : (s.push t).On P :=
  ⟨List.forall_mem_cons.mpr ⟨ht, h.tokens⟩, h.refusal⟩

theorem pushData {control : Option Char} {text : List Char} (h : s.On P) (hline : P line) :
    (pushData line control text s).On P := by
  unfold Scan.pushData
  generalize (if control = some '-' then _ else text : List Char) = kept
  dsimp only
  split
  · exact h
  · exact h.push hline

end On

/-- With this fuel a scan keeps to the lines of its text. -/
def Runs (P : Nat → Prop) (fuel : Nat) : Prop :=
  ∀ mode line position afterPoint cs, Covers P line cs → (run fuel mode line position afterPoint cs).On P

variable {fuel position : Nat} {afterPoint : Bool}

theorem Runs.behind (ih : Runs P fuel) (h : Covers P line cs) (hrest : rest <:+ cs) (mode : Mode)
    (position : Nat) (afterPoint : Bool) :
    (run fuel mode (line + newlines (consumed cs rest)) position afterPoint rest).On P :=
  ih mode _ position afterPoint rest (h.behind hrest)

theorem run_outside (ih : Runs P fuel) (h : Covers P line cs) :
    (run (fuel + 1) .outside line position afterPoint cs).On P := by
  unfold run
  dsimp only
  split
  · split
    · exact .done
    · exact On.done.push h.here
  · next text kind behind hopening =>
    have htext : text ++ '\x7b' :: kind :: behind = cs := untilOpening_eq hopening
    have htag : P (line + newlines text) := h.at_tag htext
    have hbehind : behind <:+ cs :=
      ⟨text ++ ['\x7b', kind], by rw [← htext, List.append_assoc]; rfl⟩
    have hbody : (takeControl behind).2 <:+ cs := (takeControl_suffix behind).trans hbehind
    split
    · exact ((ih.behind h hbody _ _ _).push htag).pushData h.here
    · split
      · exact (ih.behind h hbody _ _ _).pushData h.here
      · split
        · next inner hraw =>
          exact (ih.behind h ((rawOpening_suffix hraw).trans hbehind) _ _ _).pushData h.here
        · exact ((ih.behind h hbody _ _ _).push htag).pushData h.here

theorem run_comment (ih : Runs P fuel) (h : Covers P line cs) :
    (run (fuel + 1) .comment line position afterPoint cs).On P := by
  unfold run
  dsimp only
  split
  · next text inner hsplit =>
    obtain ⟨behind, hbehind, hclosing⟩ := splitWhere_eq hsplit
    exact ih.behind h ((closing_suffix hclosing).trans ⟨text, hbehind⟩) _ _ _
  · split
    · exact .done
    · exact .stop h.here

theorem run_raw (ih : Runs P fuel) (h : Covers P line cs) :
    (run (fuel + 1) .raw line position afterPoint cs).On P := by
  unfold run
  dsimp only
  split
  · next text control inner hsplit =>
    obtain ⟨behind, hbehind, hclosing⟩ := splitWhere_eq hsplit
    exact (ih.behind h ((rawClosing_suffix hclosing).trans ⟨text, hbehind⟩) _ _ _).pushData h.here
  · split
    · exact .done
    · exact .stop h.here

theorem run_inside {block : Bool} {awaited : List Char} (ih : Runs P fuel) (h : Covers P line cs) :
    (run (fuel + 1) (.inside block awaited) line position afterPoint cs).On P := by
  unfold run
  dsimp only
  split
  · next behind hclosing =>
    have hbehind : behind <:+ cs := by
      split at hclosing
      · exact closing_suffix hclosing
      · cases hclosing
    exact (ih.behind h hbehind _ _ _).push h.here
  · split
    · exact .done
    · split
      · next behind hstep => exact ih.behind h (step_suffix (by rw [hstep]; rfl)) _ _ _
      · exact .stop h.here
      · exact ⟨List.forall_mem_nil _, fun _ hr => by cases hr; exact trivial⟩
      · next l behind hstep =>
        have hbehind : behind <:+ cs := step_suffix (by rw [hstep]; rfl)
        have hnext (awaited : List Char) := (ih.behind h hbehind (.inside block awaited)
          (position + (cs.length - behind.length)) (l.isSign ".")).push (t := ⟨line, l⟩) h.here
        -- a bracket that closes nothing is a fault here; all else goes on behind the token
        split
        · split
          · exact hnext _
          · split
            · exact .stop h.here
            · exact hnext _
          · split
            · split
              · exact hnext _
              · exact .stop h.here
            · exact hnext _
          · exact hnext _
        · exact hnext _

theorem runs (P : Nat → Prop) (fuel : Nat) : Runs P fuel := by
  induction fuel with
  | zero => exact fun _ _ _ _ _ _ => .done
  | succ fuel ih =>
    intro mode line position afterPoint cs h
    cases mode with
    | outside => exact run_outside ih h
    | comment => exact run_comment ih h
    | raw => exact run_raw ih h
    | inside block awaited => exact run_inside ih h

theorem ofString_on {source : String} (h : Covers P 1 (plainLines source.toList)) : (ofString source).On P :=
  runs P _ .outside 1 0 false _ h

end Scan

end CardPress.Template
