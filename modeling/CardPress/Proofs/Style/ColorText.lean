import CardPress.Color
import CardPress.Proofs.Number.Whole
import CardPress.Proofs.Report
import Mathlib.Data.List.Basic

/-! Text of colours: which text is a literal and of which colour, which text is a name, and what is said of
all other text. -/
namespace CardPress

open Text

variable {cs : List Char} {c : Char}

namespace Color

variable {source : String} {parts : List (List Char)} {part body : List Char} {hasAlpha : Bool}

/-! Literals in hexadecimal digits. -/

/-- A number sign and two hexadecimal digits for each channel. -/
inductive IsHex : List Char → Color → Prop where
  | withoutAlpha {a b c d e f : Char} (h : ∀ x ∈ [a, b, c, d, e, f], isHexDigit x = true) :
      IsHex ['#', a, b, c, d, e, f] ⟨hexByte a b, hexByte c d, hexByte e f, 255⟩
  | withAlpha {a b c d e f u v : Char} (h : ∀ x ∈ [a, b, c, d, e, f, u, v], isHexDigit x = true) :
      IsHex ['#', a, b, c, d, e, f, u, v] ⟨hexByte a b, hexByte c d, hexByte e f, hexByte u v⟩

theorem ofHex?_eq_some_iff {color : Color} : ofHex? cs = some color ↔ IsHex cs color := by
  constructor
  · intro h
    unfold ofHex? at h
    split at h
    · split at h
      · rename_i digits hdigits
        rw [List.all_eq_true] at hdigits
        split at h
        · cases h
          exact .withoutAlpha hdigits
        · cases h
          exact .withAlpha hdigits
        · cases h
      · cases h
    · cases h
  · intro h
    cases h with
    | withoutAlpha h => exact if_pos (List.all_eq_true.mpr h)
    | withAlpha h => exact if_pos (List.all_eq_true.mpr h)

theorem hexDigit_le (h : isHexDigit c = true) : hexDigit c ≤ 15 := by
  simp only [isHexDigit, Bool.or_eq_true, Bool.and_eq_true, decide_eq_true_eq, Char.le_def,
    UInt32.le_iff_toNat_le] at h
  simp only [hexDigit, Char.le_def, UInt32.le_iff_toNat_le, Char.toNat]
  have hcodes : '0'.val.toNat = 48 ∧ '9'.val.toNat = 57 ∧ 'a'.val.toNat = 97 ∧ 'f'.val.toNat = 102 ∧
      'A'.val.toNat = 65 ∧ 'F'.val.toNat = 70 := by decide
  split
  · omega
  split <;> omega

theorem hexByte_le {a b : Char} (ha : isHexDigit a = true) (hb : isHexDigit b = true) :
    hexByte a b ≤ 255 := by
  have hhigh := hexDigit_le ha
  have hlow := hexDigit_le hb
  unfold hexByte
  omega

/-! Parts between commas. -/

theorem splitCommas_ne_nil (part cs : List Char) : splitCommas part cs ≠ [] := by
  induction cs generalizing part with
  | nil => exact List.cons_ne_nil _ _
  | cons c cs ih =>
    rw [splitCommas]
    split
    · exact List.cons_ne_nil _ _
    · exact ih _

theorem splitCommas_join (part cs : List Char) : [','].intercalate (splitCommas part cs) = part ++ cs := by
  induction cs generalizing part with
  | nil => simp [splitCommas]
  | cons c cs ih =>
    rw [splitCommas]
    split
    · rename_i hc
      rw [List.intercalate_cons_of_ne_nil (splitCommas_ne_nil _ _), ih, hc]
      simp
    · rw [ih, List.append_assoc, List.singleton_append]

theorem comma_notMem_splitCommas (hpart : ',' ∉ part) : ∀ p ∈ splitCommas part cs, ',' ∉ p := by
  induction cs generalizing part with
  | nil => simpa [splitCommas] using hpart
  | cons c cs ih =>
    rw [splitCommas]
    split
    · exact List.forall_mem_cons.mpr ⟨hpart, ih List.not_mem_nil⟩
    · rename_i hc
      exact ih (by simp [hpart, Ne.symm hc])

theorem splitCommas_append (before : List Char) (hpart : ',' ∉ part) (rest : List Char) :
    splitCommas before (part ++ rest) = splitCommas (before ++ part) rest := by
  induction part generalizing before with
  | nil => rw [List.nil_append, List.append_nil]
  | cons c part ih =>
    rw [List.mem_cons, not_or] at hpart
    rw [List.cons_append, splitCommas, if_neg (Ne.symm hpart.1), ih _ hpart.2, List.append_assoc,
      List.singleton_append]

theorem splitCommas_intercalate (hne : parts ≠ []) (h : ∀ p ∈ parts, ',' ∉ p) :
    splitCommas [] ([','].intercalate parts) = parts := by
  induction parts with
  | nil => exact absurd rfl hne
  | cons p parts ih =>
    obtain ⟨hp, hparts⟩ := List.forall_mem_cons.mp h
    cases parts with
    | nil =>
      have halone := splitCommas_append [] hp []
      rw [List.append_nil, List.nil_append] at halone
      rw [List.intercalate_singleton, halone]
      rfl
    | cons q parts =>
      rw [List.intercalate_cons_cons, List.append_assoc, splitCommas_append [] hp, List.nil_append,
        List.singleton_append, splitCommas, if_pos rfl, ih (List.cons_ne_nil _ _) hparts]

/-! Literals with channels in parentheses. -/

def functionName (hasAlpha : Bool) : String := if hasAlpha then "rgba" else "rgb"

def channelCount (hasAlpha : Bool) : Nat := if hasAlpha then 4 else 3

/-- The name of a function, in letters of either case, and its parts between commas in parentheses; blanks
may stand between them. -/
def IsCall (cs : List Char) (hasAlpha : Bool) (parts : List (List Char)) : Prop :=
  ∃ name gap, cs = name ++ gap ++ ['('] ++ [','].intercalate parts ++ [')'] ∧
    name.map Char.toLower = (functionName hasAlpha).toList ∧ (∀ c ∈ gap, isBlank c = true) ∧
    parts ≠ [] ∧ ∀ part ∈ parts, ',' ∉ part

theorem inParentheses?_eq_some_iff :
    inParentheses? cs = some body ↔
      ∃ gap, cs = gap ++ ['('] ++ body ++ [')'] ∧ ∀ c ∈ gap, isBlank c = true := by
  constructor
  · intro h
    have hcs := List.takeWhile_append_dropWhile (p := isBlank) (l := cs)
    unfold inParentheses? at h
    split at h
    · rename_i tail hdrop
      split at h
      · rename_i hlast
        cases h
        obtain ⟨inside, rfl⟩ := List.getLast?_eq_some_iff.mp hlast
        refine ⟨cs.takeWhile isBlank, ?_, fun c hc => List.mem_takeWhile_imp hc⟩
        rw [List.dropLast_concat, List.append_assoc, List.append_assoc, List.singleton_append, ← hdrop, hcs]
      · cases h
    · cases h
  · rintro ⟨gap, rfl, hgap⟩
    have hdrop : (gap ++ ['('] ++ body ++ [')']).dropWhile isBlank = '(' :: (body ++ [')']) := by
      rw [List.append_assoc, List.append_assoc, List.dropWhile_append_of_pos hgap]
      exact List.dropWhile_cons_of_neg (by decide)
    rw [inParentheses?, hdrop]
    simp

theorem toLower_blank (h : isBlank c = true) : c.toLower = c := by
  have hcode : ¬ (65 ≤ c.toNat ∧ c.toNat ≤ 90) := by
    simp only [isBlank, Bool.or_eq_true, Bool.and_eq_true, decide_eq_true_eq, beq_iff_eq] at h
    omega
  unfold Char.toLower
  simp only [ge_iff_le, UInt32.le_iff_toNat_le]
  exact dif_neg hcode

/-- Behind the name of a function stands no further letter of it. -/
theorem exists_no_letter {gap : List Char} (hgap : ∀ c ∈ gap, isBlank c = true) (rest : List Char) :
    ∃ d tail, gap ++ ['('] ++ rest = d :: tail ∧ d.toLower ≠ 'a' := by
  cases gap with
  | nil => exact ⟨'(', rest, rfl, by decide⟩
  | cons d gap =>
    have hd := hgap d List.mem_cons_self
    refine ⟨d, _, rfl, fun hletter => ?_⟩
    rw [toLower_blank hd] at hletter
    rw [hletter] at hd
    exact absurd hd (by decide)

theorem functionBody?_rgba {r g b a : Char} (h : [r, g, b, a].map Char.toLower = ['r', 'g', 'b', 'a'])
    (rest : List Char) :
    functionBody? (r :: g :: b :: a :: rest) = (inParentheses? rest).map ((true, ·)) := by
  simp only [List.map_cons, List.map_nil, List.cons.injEq] at h
  simp [functionBody?, h]

theorem functionBody?_rgb {r g b d : Char} (h : [r, g, b].map Char.toLower = ['r', 'g', 'b'])
    (hd : d.toLower ≠ 'a') (tail : List Char) :
    functionBody? (r :: g :: b :: d :: tail) = (inParentheses? (d :: tail)).map ((false, ·)) := by
  unfold functionBody?
  dsimp only
  rw [if_pos h, if_neg hd]

theorem functionBody?_eq_some_iff :
    functionBody? cs = some (hasAlpha, body) ↔ ∃ name gap, cs = name ++ gap ++ ['('] ++ body ++ [')'] ∧
      name.map Char.toLower = (functionName hasAlpha).toList ∧ ∀ c ∈ gap, isBlank c = true := by
  constructor
  · intro h
    unfold functionBody? at h
    split at h
    · rename_i r g b rest
      split at h
      · rename_i hname
        split at h
        · rename_i a tail
          split at h
          · rename_i ha
            obtain ⟨inside, hinside, heq⟩ := Option.map_eq_some_iff.mp h
            cases heq
            obtain ⟨gap, rfl, hgap⟩ := inParentheses?_eq_some_iff.mp hinside
            exact ⟨[r, g, b, a], gap, rfl, by simp_all [functionName], hgap⟩
          · obtain ⟨inside, hinside, heq⟩ := Option.map_eq_some_iff.mp h
            cases heq
            obtain ⟨gap, hrest, hgap⟩ := inParentheses?_eq_some_iff.mp hinside
            exact ⟨[r, g, b], gap, by rw [hrest]; rfl, hname, hgap⟩
        · cases h
      · cases h
    · cases h
  · rintro ⟨name, gap, rfl, hname, hgap⟩
    have hinside : inParentheses? (gap ++ ['('] ++ body ++ [')']) = some body :=
      inParentheses?_eq_some_iff.mpr ⟨gap, rfl, hgap⟩
    have hlength := congrArg List.length hname
    rw [List.length_map] at hlength
    cases hasAlpha with
    | false =>
      obtain ⟨r, g, b, rfl⟩ := List.length_eq_three.mp hlength
      obtain ⟨d, tail, htail, hd⟩ := exists_no_letter hgap (body ++ [')'])
      rw [List.append_assoc, htail] at hinside
      have hcs : [r, g, b] ++ gap ++ ['('] ++ body ++ [')'] = r :: g :: b :: d :: tail := by
        rw [← htail]
        simp
      rw [hcs, functionBody?_rgb hname hd, hinside]
      rfl
    | true =>
      obtain ⟨r, g, b, a, rfl⟩ := List.length_eq_four.mp hlength
      have hcs : [r, g, b, a] ++ gap ++ ['('] ++ body ++ [')'] =
          r :: g :: b :: a :: (gap ++ ['('] ++ body ++ [')']) := by simp
      rw [hcs, functionBody?_rgba hname, hinside]
      rfl

/-! Components. -/

/-- A component is written in digits, with nothing but blanks around them. -/
def InDigits (part : List Char) : Prop := trimList part ≠ [] ∧ ∀ c ∈ trimList part, isDigit c = true

/-- A component in digits that are read as a number up to 255. -/
structure Reads (part : List Char) (n : Nat) : Prop where
  digits : InDigits part
  number : Whole.ofString (String.ofList (trimList part)) = .ok (n : Int)
  bounded : n ≤ 255

/-- A component that is not written in digits, or is a number above 255. -/
def Refused (part : List Char) : Prop :=
  InDigits part → ∃ n, Whole.ofString (String.ofList (trimList part)) = .ok n ∧ 255 < n

theorem component_of_inDigits (source : String) (h : InDigits part) :
    component source part = Whole.ofString (String.ofList (trimList part)) >>= fun n =>
      if 255 < n then .error (.parse (.colorComponent (String.ofList (trimList part)) source))
      else .ok n.toNat := by
  have hgood : ((trimList part).isEmpty || !(trimList part).all isDigit) = false := by
    simpa [InDigits, List.isEmpty_iff] using h
  unfold component
  dsimp only
  rw [hgood]
  cases Whole.ofString (String.ofList (trimList part)) with
  | error f => rfl
  | ok n =>
    change (if 255 < n then _ else _) = (if 255 < n then _ else _)
    split <;> rfl

theorem component_of_not_inDigits (source : String) (h : ¬ InDigits part) :
    component source part = .error (.parse (.colorComponent (String.ofList (trimList part)) source)) := by
  have hbad : ((trimList part).isEmpty || !(trimList part).all isDigit) = true := by
    by_contra hgood
    exact h (by simpa [InDigits, List.isEmpty_iff] using hgood)
  unfold component
  dsimp only
  rw [hbad]
  rfl

theorem nonneg_of_inDigits (h : InDigits part) {n : Int}
    (hn : Whole.ofString (String.ofList (trimList part)) = .ok n) : 0 ≤ n := by
  by_cases hdecimal : ∀ c ∈ trimList part, Whole.IsDecimal c
  · rw [Whole.ofString_of_decimal h.1 h.2 hdecimal] at hn
    split at hn <;> cases hn
    exact Int.natCast_nonneg _
  · rw [Whole.ofString_of_stray h.2 (by simpa using hdecimal)] at hn
    cases hn

theorem component_eq_ok_iff {n : Nat} : component source part = .ok n ↔ Reads part n := by
  by_cases h : InDigits part
  · rw [component_of_inDigits source h, bind_eq_ok]
    constructor
    · rintro ⟨m, hm, hn⟩
      have hnonneg := nonneg_of_inDigits h hm
      split at hn <;> cases hn
      exact ⟨h, by rw [hm, Int.toNat_of_nonneg hnonneg], by omega⟩
    · rintro ⟨-, hn, hbound⟩
      exact ⟨n, hn, if_neg (by omega)⟩
  · rw [component_of_not_inDigits source h]
    exact ⟨nofun, fun hreads => absurd hreads.digits h⟩

/-- How a component fails: it is refused, or its digits cannot be read. -/
theorem component_eq_error_iff {f : Failure} : component source part = .error f ↔
    Refused part ∧ f = .parse (.colorComponent (String.ofList (trimList part)) source) ∨
      InDigits part ∧ Whole.ofString (String.ofList (trimList part)) = .error f := by
  by_cases h : InDigits part
  · rw [component_of_inDigits source h, bind_eq_error]
    constructor
    · rintro (hf | ⟨n, hn, hf⟩)
      · exact .inr ⟨h, hf⟩
      · split at hf <;> cases hf
        exact .inl ⟨fun _ => ⟨n, hn, by assumption⟩, rfl⟩
    · rintro (⟨hrefused, rfl⟩ | ⟨-, hf⟩)
      · obtain ⟨n, hn, hlarge⟩ := hrefused h
        exact .inr ⟨n, hn, if_pos hlarge⟩
      · exact .inl hf
  · rw [component_of_not_inDigits source h, Except.error.injEq, eq_comm]
    exact ⟨fun hf => .inl ⟨fun hdigits => absurd hdigits h, hf⟩, fun
      | .inl ⟨_, hf⟩ => hf
      | .inr ⟨hdigits, _⟩ => absurd hdigits h⟩

theorem mapM_component_eq_ok_iff {ns : List Nat} :
    parts.mapM (component source) = .ok ns ↔ List.Forall₂ Reads parts ns := by
  simp only [mapM_eq_ok, component_eq_ok_iff]

/-- The first component that cannot be read decides how all of them fail. -/
theorem mapM_component_eq_error_iff {f : Failure} :
    parts.mapM (component source) = .error f ↔ ∃ before part after, parts = before ++ part :: after ∧
      (∀ p ∈ before, ∃ n, Reads p n) ∧ component source part = .error f := by
  simp only [mapM_eq_error, component_eq_ok_iff]

/-! Literals. -/

/-- The text of a colour: hexadecimal digits, or a function of as many components as it has channels. -/
inductive IsLiteral (cs : List Char) : Color → Prop where
  | hex {color : Color} (h : IsHex cs color) : IsLiteral cs color
  | rgb {parts : List (List Char)} {r g b : Nat} (hcall : IsCall cs false parts)
      (h : List.Forall₂ Reads parts [r, g, b]) : IsLiteral cs ⟨r, g, b, 255⟩
  | rgba {parts : List (List Char)} {r g b a : Nat} (hcall : IsCall cs true parts)
      (h : List.Forall₂ Reads parts [r, g, b, a]) : IsLiteral cs ⟨r, g, b, a⟩

/-- Text that has the shape of no literal. -/
structure Shapeless (cs : List Char) : Prop where
  notHex : ∀ color, ¬ IsHex cs color
  notCall : ∀ hasAlpha parts, ¬ IsCall cs hasAlpha parts

/-- A component of as many as there are channels, with components before it that can be read. -/
def StandsFirst (part : List Char) (hasAlpha : Bool) (parts : List (List Char)) : Prop :=
  parts.length = channelCount hasAlpha ∧
    ∃ before after, parts = before ++ part :: after ∧ ∀ p ∈ before, ∃ n, Reads p n

/-- How a function fails for its components; `source` is the whole text. It is refused for their number, or
for the first that is no number up to 255; or that component is in digits which make no number, some of them
not decimal, or too many. -/
inductive Fails (source : String) (hasAlpha : Bool) (parts : List (List Char)) : Failure → Prop where
  | count (h : parts.length ≠ channelCount hasAlpha) : Fails source hasAlpha parts
      (.parse (.componentCount (functionName hasAlpha) (channelCount hasAlpha) source))
  | refused {part : List Char} (hfirst : StandsFirst part hasAlpha parts) (h : Refused part) :
      Fails source hasAlpha parts (.parse (.colorComponent (String.ofList (trimList part)) source))
  | stray {part : List Char} (hfirst : StandsFirst part hasAlpha parts) (hdigits : InDigits part)
      (h : ∃ c ∈ trimList part, ¬ Whole.IsDecimal c) :
      Fails source hasAlpha parts (.fault (.notWhole (String.ofList (trimList part))))
  | long {part : List Char} (hfirst : StandsFirst part hasAlpha parts) (hdigits : InDigits part)
      (hdecimal : ∀ c ∈ trimList part, Whole.IsDecimal c) (h : Whole.maxDigits < (trimList part).length) :
      Fails source hasAlpha parts (.fault (.tooManyDigits (trimList part).length))

theorem literal?_of_hex {color : Color} (h : ofHex? (trimList source.toList) = some color) :
    literal? source = .ok (some color) := by
  rw [literal?, h]

theorem isCall_iff : IsCall cs hasAlpha parts ↔
    ∃ body, functionBody? cs = some (hasAlpha, body) ∧ splitCommas [] body = parts := by
  constructor
  · rintro ⟨name, gap, hcs, hname, hgap, hne, hparts⟩
    have hbody := functionBody?_eq_some_iff.mpr ⟨name, gap, hcs, hname, hgap⟩
    exact ⟨_, hbody, splitCommas_intercalate hne hparts⟩
  · rintro ⟨body, hbody, rfl⟩
    obtain ⟨name, gap, hcs, hname, hgap⟩ := functionBody?_eq_some_iff.mp hbody
    have hjoin := splitCommas_join [] body
    rw [List.nil_append] at hjoin
    exact ⟨name, gap, by rw [hjoin, hcs], hname, hgap, splitCommas_ne_nil _ _,
      comma_notMem_splitCommas List.not_mem_nil⟩

theorem head_of_isHex {color : Color} (h : IsHex cs color) : cs.head? = some '#' := by
  cases h <;> rfl

theorem ofHex?_of_isCall (h : IsCall cs hasAlpha parts) : ofHex? cs = none := by
  obtain ⟨name, gap, rfl, hname, -⟩ := h
  obtain ⟨c, rest, rfl, hc⟩ : ∃ c rest, name = c :: rest ∧ c.toLower = 'r' := by
    cases hasAlpha <;> obtain ⟨c, rest, hcs, hc, -⟩ := List.map_eq_cons_iff.mp hname <;>
      exact ⟨c, rest, hcs, hc⟩
  by_contra hhex
  obtain ⟨color, hcolor⟩ := Option.ne_none_iff_exists'.mp hhex
  have hsign := Option.some.inj (head_of_isHex (ofHex?_eq_some_iff.mp hcolor))
  rw [hsign] at hc
  exact absurd hc (by decide)

/-- The colour of three or four channels. -/
def ofChannels? : List Nat → Option Color
  | [r, g, b] => some ⟨r, g, b, 255⟩
  | [r, g, b, a] => some ⟨r, g, b, a⟩
  | _ => none

theorem literal?_of_isCall (h : IsCall (trimList source.toList) hasAlpha parts) :
    literal? source = if parts.length = channelCount hasAlpha then
        (parts.mapM (component source)).map ofChannels?
      else .error (.parse (.componentCount (functionName hasAlpha) (channelCount hasAlpha) source)) := by
  obtain ⟨body, hbody, rfl⟩ := isCall_iff.mp h
  rw [literal?, ofHex?_of_isCall h]
  dsimp only
  rw [hbody]
  change (if ((splitCommas [] body).length != channelCount hasAlpha) = true then (_ : Except Failure _)
    else _) = _
  by_cases hcount : (splitCommas [] body).length = channelCount hasAlpha
  · rw [if_neg (by simp [hcount]), if_pos hcount]
    cases (splitCommas [] body).mapM (component source) with
    | error f => rfl
    | ok ns =>
      change (match ns with | [r, g, b] => _ | [r, g, b, a] => _ | _ => _) = Except.ok (ofChannels? ns)
      unfold ofChannels?
      split <;> rfl
  · rw [if_pos (by simp [hcount]), if_neg hcount]
    rfl

theorem literal?_of_shapeless (h : Shapeless (trimList source.toList)) : literal? source = .ok none := by
  have hhex : ofHex? (trimList source.toList) = none := by
    cases hfound : ofHex? (trimList source.toList) with
    | none => rfl
    | some color => exact absurd (ofHex?_eq_some_iff.mp hfound) (h.notHex color)
  have hcall : functionBody? (trimList source.toList) = none := by
    cases hfound : functionBody? (trimList source.toList) with
    | none => rfl
    | some found =>
      obtain ⟨hasAlpha, body⟩ := found
      exact absurd (isCall_iff.mpr ⟨body, hfound, rfl⟩) (h.notCall hasAlpha _)
  rw [literal?, hhex]
  dsimp only
  rw [hcall]

/-- A function of as many components as it has channels comes to a colour if they can be read. -/
theorem isLiteral_of_channels {found : Option Color} (hcall : IsCall cs hasAlpha parts)
    (hcount : parts.length = channelCount hasAlpha)
    (h : (parts.mapM (component source)).map ofChannels? = .ok found) :
    ∃ color, found = some color ∧ IsLiteral cs color := by
  cases hns : parts.mapM (component source) with
  | error f =>
    rw [hns] at h
    cases h
  | ok ns =>
    rw [hns] at h
    cases h
    have hreads := mapM_component_eq_ok_iff.mp hns
    have hlength := hreads.length_eq.symm.trans hcount
    cases hasAlpha with
    | false =>
      obtain ⟨r, g, b, rfl⟩ := List.length_eq_three.mp hlength
      exact ⟨_, rfl, .rgb hcall hreads⟩
    | true =>
      obtain ⟨r, g, b, a, rfl⟩ := List.length_eq_four.mp hlength
      exact ⟨_, rfl, .rgba hcall hreads⟩

/-- Every text is in hexadecimal digits, or a function, or has no shape of a literal. -/
theorem shape_cases (cs : List Char) :
    (∃ color, IsHex cs color) ∨ (∃ hasAlpha parts, IsCall cs hasAlpha parts) ∨ Shapeless cs := by
  by_cases hhex : ∃ color, IsHex cs color
  · exact .inl hhex
  by_cases hcall : ∃ hasAlpha parts, IsCall cs hasAlpha parts
  · exact .inr (.inl hcall)
  · exact .inr (.inr ⟨fun color h => hhex ⟨color, h⟩, fun hasAlpha parts h => hcall ⟨hasAlpha, parts, h⟩⟩)

theorem literal?_eq_some_iff {color : Color} :
    literal? source = .ok (some color) ↔ IsLiteral (trimList source.toList) color := by
  constructor
  · intro h
    obtain ⟨other, hhex⟩ | ⟨hasAlpha, parts, hcall⟩ | hnone := shape_cases (trimList source.toList)
    · rw [literal?_of_hex (ofHex?_eq_some_iff.mpr hhex)] at h
      cases h
      exact .hex hhex
    · rw [literal?_of_isCall hcall] at h
      split at h
      · obtain ⟨_, hcolor, hliteral⟩ := isLiteral_of_channels hcall (by assumption) h
        cases hcolor
        exact hliteral
      · cases h
    · rw [literal?_of_shapeless hnone] at h
      cases h
  · intro h
    cases h with
    | hex h => exact literal?_of_hex (ofHex?_eq_some_iff.mpr h)
    | rgb hcall h | rgba hcall h =>
      rw [literal?_of_isCall hcall, mapM_component_eq_ok_iff.mpr h]
      exact if_pos h.length_eq

theorem literal?_eq_none_iff : literal? source = .ok none ↔ Shapeless (trimList source.toList) := by
  refine ⟨fun h => ?_, literal?_of_shapeless⟩
  obtain ⟨color, hhex⟩ | ⟨hasAlpha, parts, hcall⟩ | hnone := shape_cases (trimList source.toList)
  · rw [literal?_of_hex (ofHex?_eq_some_iff.mpr hhex)] at h
    cases h
  · rw [literal?_of_isCall hcall] at h
    split at h
    · obtain ⟨_, hcolor, -⟩ := isLiteral_of_channels hcall (by assumption) h
      cases hcolor
    · cases h
  · exact hnone

theorem mapM_component_of_standsFirst {f : Failure} (h : StandsFirst part hasAlpha parts)
    (hpart : component source part = .error f) : parts.mapM (component source) = .error f := by
  obtain ⟨-, before, after, hparts, hbefore⟩ := h
  exact mapM_component_eq_error_iff.mpr ⟨before, part, after, hparts, hbefore, hpart⟩

/-- As many components as there are channels fail as they are read. -/
theorem fails_iff_mapM {f : Failure} (hcount : parts.length = channelCount hasAlpha) :
    Fails source hasAlpha parts f ↔ parts.mapM (component source) = .error f := by
  constructor
  · intro hfails
    cases hfails with
    | count h => exact absurd hcount h
    | refused hfirst h =>
      exact mapM_component_of_standsFirst hfirst (component_eq_error_iff.mpr (.inl ⟨h, rfl⟩))
    | stray hfirst hdigits h =>
      have hread := (Whole.ofString_eq_error_iff hdigits.1 hdigits.2).mpr (.inl ⟨h, rfl⟩)
      exact mapM_component_of_standsFirst hfirst (component_eq_error_iff.mpr (.inr ⟨hdigits, hread⟩))
    | long hfirst hdigits hdecimal h =>
      have hread := (Whole.ofString_eq_error_iff hdigits.1 hdigits.2).mpr (.inr ⟨hdecimal, h, rfl⟩)
      exact mapM_component_of_standsFirst hfirst (component_eq_error_iff.mpr (.inr ⟨hdigits, hread⟩))
  · intro h
    obtain ⟨before, part, after, hparts, hbefore, hpart⟩ := mapM_component_eq_error_iff.mp h
    have hfirst : StandsFirst part hasAlpha parts := ⟨hcount, before, after, hparts, hbefore⟩
    obtain ⟨hrefused, rfl⟩ | ⟨hdigits, hf⟩ := component_eq_error_iff.mp hpart
    · exact .refused hfirst hrefused
    · obtain ⟨hstray, rfl⟩ | ⟨hdecimal, hlong, rfl⟩ :=
        (Whole.ofString_eq_error_iff hdigits.1 hdigits.2).mp hf
      · exact .stray hfirst hdigits hstray
      · exact .long hfirst hdigits hdecimal hlong

theorem fails_iff_count {f : Failure} (hcount : parts.length ≠ channelCount hasAlpha) :
    Fails source hasAlpha parts f ↔
      .parse (.componentCount (functionName hasAlpha) (channelCount hasAlpha) source) = f := by
  constructor
  · intro hfails
    cases hfails with
    | count _ => rfl
    | refused hfirst _ | stray hfirst _ _ | long hfirst _ _ _ => exact absurd hfirst.1 hcount
  · rintro rfl
    exact .count hcount

/-- How text that has the shape of a function fails. -/
theorem literal?_eq_error_iff {f : Failure} : literal? source = .error f ↔
    ∃ hasAlpha parts, IsCall (trimList source.toList) hasAlpha parts ∧ Fails source hasAlpha parts f := by
  have hcalled {hasAlpha parts} (hcall : IsCall (trimList source.toList) hasAlpha parts) :
      literal? source = .error f ↔ Fails source hasAlpha parts f := by
    rw [literal?_of_isCall hcall]
    by_cases hcount : parts.length = channelCount hasAlpha
    · rw [if_pos hcount, map_eq_error, fails_iff_mapM hcount]
    · rw [if_neg hcount, Except.error.injEq, fails_iff_count hcount]
  constructor
  · intro h
    obtain ⟨color, hhex⟩ | ⟨hasAlpha, parts, hcall⟩ | hnone := shape_cases (trimList source.toList)
    · rw [literal?_of_hex (ofHex?_eq_some_iff.mpr hhex)] at h
      cases h
    · exact ⟨hasAlpha, parts, hcall, (hcalled hcall).mp h⟩
    · rw [literal?_of_shapeless hnone] at h
      cases h
  · rintro ⟨hasAlpha, parts, hcall, hfails⟩
    exact (hcalled hcall).mpr hfails

/-- The channels of a literal are parts of 255. -/
theorem IsLiteral.bounded {color : Color} (h : IsLiteral cs color) :
    color.red ≤ 255 ∧ color.green ≤ 255 ∧ color.blue ≤ 255 ∧ color.alpha ≤ 255 := by
  cases h with
  | hex h =>
    cases h with
    | withoutAlpha h =>
      simp only [List.forall_mem_cons] at h
      obtain ⟨ha, hb, hc, hd, he, hf, -⟩ := h
      exact ⟨hexByte_le ha hb, hexByte_le hc hd, hexByte_le he hf, Nat.le_refl 255⟩
    | withAlpha h =>
      simp only [List.forall_mem_cons] at h
      obtain ⟨ha, hb, hc, hd, he, hf, hu, hv, -⟩ := h
      exact ⟨hexByte_le ha hb, hexByte_le hc hd, hexByte_le he hf, hexByte_le hu hv⟩
  | rgb _ h =>
    cases h with
    | cons hr h =>
      cases h with
      | cons hg h =>
        cases h with
        | cons hb _ => exact ⟨hr.bounded, hg.bounded, hb.bounded, Nat.le_refl 255⟩
  | rgba _ h =>
    cases h with
    | cons hr h =>
      cases h with
      | cons hg h =>
        cases h with
        | cons hb h =>
          cases h with
          | cons ha _ => exact ⟨hr.bounded, hg.bounded, hb.bounded, ha.bounded⟩

end Color

/-- How text of a layout fails: as a template that has a flaw, or that the engine gave up on. -/
theorem CardText.ofString_eq_error {source : String} {f : Failure}
    (h : CardText.ofString source = .error f) :
    (∃ flaw offset, f = .problem (.template (.flaw flaw offset) source)) ∨
      ∃ t, Template.compile source = .error (.trouble t) ∧ f = .fault (.template t) := by
  unfold CardText.ofString at h
  split at h
  · cases hcompile : Template.compile source with
    | ok t =>
      rw [hcompile] at h
      cases h
    | error refusal =>
      rw [hcompile] at h
      cases refusal with
      | fault flaw =>
        cases h
        exact .inl ⟨_, _, rfl⟩
      | trouble t =>
        cases h
        exact .inr ⟨t, rfl, rfl⟩
  · cases h

namespace ColorRef

open Color

variable {source : String}

theorem ofString_eq (source : String) :
    ofString source =
      match literal? source with
      | .error f => .error f
      | .ok (some color) => .ok (.fixed color)
      | .ok none => (CardText.ofString (trim source)).map .named := by
  unfold ofString
  rcases literal? source with f | _ | color
  · rfl
  · cases CardText.ofString (trim source) <;> rfl
  · rfl

theorem ofString_eq_fixed_iff {color : Color} :
    ofString source = .ok (.fixed color) ↔ IsLiteral (trimList source.toList) color := by
  rw [← literal?_eq_some_iff, ofString_eq]
  rcases literal? source with f | _ | other
  · exact ⟨nofun, nofun⟩
  · cases CardText.ofString (trim source) <;> exact ⟨nofun, nofun⟩
  · simp

theorem ofString_eq_named_iff {name : CardText} : ofString source = .ok (.named name) ↔
    Shapeless (trimList source.toList) ∧ CardText.ofString (trim source) = .ok name := by
  rw [← literal?_eq_none_iff, ofString_eq]
  rcases literal? source with f | _ | color
  · simp
  · cases CardText.ofString (trim source) <;> simp [Except.map]
  · simp

theorem ofString_eq_error_iff {f : Failure} : ofString source = .error f ↔
    (∃ hasAlpha parts, IsCall (trimList source.toList) hasAlpha parts ∧ Fails source hasAlpha parts f) ∨
      Shapeless (trimList source.toList) ∧ CardText.ofString (trim source) = .error f := by
  rw [← literal?_eq_error_iff, ← literal?_eq_none_iff, ofString_eq]
  rcases literal? source with f | _ | color
  · simp
  · simp [map_eq_error]
  · simp

end ColorRef

end CardPress
