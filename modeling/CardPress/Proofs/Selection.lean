import CardPress.Proofs.Number.Whole
import CardPress.Proofs.Report
import CardPress.Proofs.Text.Lines
import CardPress.Selection

/-! Selection lists: what each line says, what a list comes to line by line, and the first line that spoils
it. -/
namespace CardPress.Selection

open Text Whole

/-! What a line says. -/

/-- What is taken for a quantity: digits behind any signs. -/
structure IsCount (signs digits : List Char) : Prop where
  signs : ∀ c ∈ signs, c ∈ ['+', '-']
  nonempty : digits ≠ []
  digits : ∀ c ∈ digits, isDigit c = true

/-- A quantity and more text. -/
inductive BeginsWithCount : List Char → Prop where
  | intro {signs digits gap rest : List Char} (hcount : IsCount signs digits) (hgap : IsGap gap)
      (hrest : IsTight rest) : BeginsWithCount (signs ++ digits ++ gap ++ rest)

inductive Saying where
  | nothing
  | card (id : List Char)
  | cards (signs digits id : List Char)

/-- What text says that has no blanks around it. -/
inductive Means : List Char → Saying → Prop where
  | blank : Means [] .nothing
  | remark (text : List Char) : Means ('#' :: text) .nothing
  | card {id : List Char} (hid : IsTight id) (hmark : id.head? ≠ some '#')
      (hplain : ¬ BeginsWithCount id) : Means id (.card id)
  | cards {signs digits gap id : List Char} (hcount : IsCount signs digits) (hgap : IsGap gap)
      (hid : IsTight id) : Means (signs ++ digits ++ gap ++ id) (.cards signs digits id)

/-- What a line says; blanks around it say nothing. -/
def Says (l : List Char) (s : Saying) : Prop := Means (trimList l) s

variable {signs digits gap id word rest cs l : List Char} {number : Nat} {ids more : List String}
  {ls ps : List (List Char)} {f : Failure}

theorem exists_meaning (l : List Char) : ∃ s, Says l s := by
  unfold Says
  obtain hnone | htight := trimList_cases l
  · rw [hnone]
    exact ⟨_, .blank⟩
  by_cases hmark : (trimList l).head? = some '#'
  · obtain ⟨text, htext⟩ := List.head?_eq_some_iff.mp hmark
    rw [htext]
    exact ⟨_, .remark text⟩
  by_cases hcount : BeginsWithCount (trimList l)
  · generalize trimList l = cs at hcount
    obtain ⟨hcount, hgap, hrest⟩ := hcount
    exact ⟨_, .cards hcount hgap hrest⟩
  · exact ⟨_, .card htight hmark hcount⟩

/-! The first word of a line. -/

theorem isSign_iff {c : Char} : isSign c = true ↔ c ∈ ['+', '-'] := by
  simp [isSign]

theorem IsCount.isWord (h : IsCount signs digits) : IsWord (signs ++ digits) :=
  ⟨List.append_ne_nil_of_right_ne_nil _ h.nonempty, List.forall_mem_append.mpr
    ⟨fun c hc => (sign_facts (h.signs c hc)).1, fun c hc => isBlank_digit (h.digits c hc)⟩⟩

theorem IsCount.ne_mark (h : IsCount signs digits) : ∀ c ∈ signs ++ digits, c ≠ '#' := by
  have hdigit : isDigit '#' = false := by decide +kernel
  refine List.forall_mem_append.mpr ⟨?_, ?_⟩
  · rintro c hc rfl
    exact absurd (h.signs _ hc) (by decide)
  · rintro c hc rfl
    exact absurd (h.digits _ hc) (by simp [hdigit])

/-- No digit is a sign, so the signs in front are all signs. -/
theorem not_isSign_digit {c : Char} (h : isDigit c = true) : isSign c = false := by
  have hsigns : (['+', '-'].all fun d => !isDigit d) = true := by decide +kernel
  rw [Bool.eq_false_iff, Ne, isSign_iff]
  intro hsign
  have hnot := List.all_eq_true.mp hsigns c hsign
  rw [h] at hnot
  cases hnot

theorem isQuantity_iff : isQuantity (String.ofList word) = true ↔
    ∃ signs digits, word = signs ++ digits ∧ IsCount signs digits := by
  rw [isQuantity, String.toList_ofList]
  simp only [Bool.and_eq_true, Bool.not_eq_true', List.isEmpty_eq_false_iff, List.all_eq_true]
  constructor
  · rintro ⟨hne, hdigits⟩
    exact ⟨word.takeWhile isSign, word.dropWhile isSign, List.takeWhile_append_dropWhile.symm,
      fun c hc => isSign_iff.mp (List.mem_takeWhile_imp hc), hne, hdigits⟩
  · rintro ⟨signs, digits, rfl, hcount⟩
    have hdrop : (signs ++ digits).dropWhile isSign = digits := by
      rw [List.dropWhile_append_of_pos fun c hc => isSign_iff.mpr (hcount.signs c hc)]
      exact dropWhile_eq_self fun c hc => not_isSign_digit (hcount.digits c (List.mem_of_mem_head? hc))
    rw [hdrop]
    exact ⟨hcount.nonempty, hcount.digits⟩

theorem isQuantity_of_beginsWithCount (h : BeginsWithCount cs) :
    isQuantity (String.ofList (cs.takeWhile (!isBlank ·))) = true := by
  obtain ⟨hcount, hgap, hrest⟩ := h
  rw [List.append_assoc, takeWhile_word hcount.isWord (hgap.head _)]
  exact isQuantity_iff.mpr ⟨_, _, rfl, hcount⟩

/-! What a line comes to. -/

theorem trim_ofList_eq (l : List Char) : trim (String.ofList l) = String.ofList (trimList l) := by
  rw [trim, String.toList_ofList]

theorem isSilent_ofList : isSilent (String.ofList cs) = true ↔ cs = [] ∨ cs.head? = some '#' := by
  simp [isSilent]

theorem line_nothing (number : Nat) (h : Says l .nothing) : line number (String.ofList l) = .ok [] := by
  have hsilent : isSilent (String.ofList (trimList l)) = true := by
    rw [isSilent_ofList]
    unfold Says at h
    generalize trimList l = cs at h
    cases h with
    | blank => exact .inl rfl
    | remark text => exact .inr rfl
  rw [line, trim_ofList_eq]
  exact if_pos hsilent

theorem line_card (number : Nat) (h : Says l (.card id)) :
    line number (String.ofList l) = .ok [String.ofList id] := by
  obtain ⟨hid, htight, hmark, hplain⟩ : trimList l = id ∧ IsTight id ∧ id.head? ≠ some '#' ∧
      ¬ BeginsWithCount id := by
    unfold Says at h
    generalize trimList l = cs at h
    cases h with
    | card hid hmark hplain => exact ⟨rfl, hid, hmark, hplain⟩
  have hloud : ¬ isSilent (String.ofList id) = true :=
    isSilent_ofList.not.mpr (not_or.mpr ⟨htight.nonempty, hmark⟩)
  rw [line, trim_ofList_eq, hid]
  rw [if_neg hloud]
  obtain hword | ⟨word, gap, rest, rfl, hword, hgap, hrest⟩ := htight.cases
  · rw [headWord_word hword]
  · have hquantity : ¬ isQuantity (String.ofList word) = true := by
      rw [isQuantity_iff]
      rintro ⟨signs, digits, rfl, hcount⟩
      exact hplain (.intro hcount hgap hrest)
    rw [headWord_gap hword hgap hrest]
    exact if_neg hquantity

theorem line_cards (number : Nat) (h : Says l (.cards signs digits id)) :
    line number (String.ofList l) =
      counted number (String.ofList (signs ++ digits)) (String.ofList id) := by
  obtain ⟨gap, hl, hcount, hgap, hid⟩ : ∃ gap, trimList l = signs ++ digits ++ gap ++ id ∧
      IsCount signs digits ∧ IsGap gap ∧ IsTight id := by
    unfold Says at h
    generalize trimList l = cs at h
    cases h with
    | cards hcount hgap hid => exact ⟨_, rfl, hcount, hgap, hid⟩
  have hloud : ¬ isSilent (String.ofList (signs ++ digits ++ gap ++ id)) = true := by
    obtain ⟨c, rest, hword⟩ := List.exists_cons_of_ne_nil hcount.isWord.nonempty
    have hc : c ≠ '#' := hcount.ne_mark c (hword ▸ List.mem_cons_self)
    rw [isSilent_ofList, hword]
    simpa using hc
  rw [line, trim_ofList_eq, hl]
  rw [if_neg hloud, headWord_gap hcount.isWord hgap hid]
  dsimp only
  rw [if_pos (isQuantity_iff.mpr ⟨signs, digits, rfl, hcount⟩), trim_ofList hid]

/-- A quantity that is read: one sign at most, digits that have a value, and not too many of them. -/
structure IsRead (signs digits : List Char) : Prop where
  one : signs.length ≤ 1
  decimal : ∀ c ∈ digits, IsDecimal c
  few : digits.length ≤ maxDigits

/-- The ids that a line gives. -/
inductive Grants (l : List Char) : List String → Prop where
  | nothing (hmeans : Says l .nothing) : Grants l []
  | card {id : List Char} (hmeans : Says l (.card id)) : Grants l [String.ofList id]
  | cards {signs digits id : List Char} (hmeans : Says l (.cards signs digits id))
      (hread : IsRead signs digits) (hpositive : 0 < signedValue signs digits)
      (hroom : signedValue signs digits ≤ room) :
      Grants l (List.replicate (signedValue signs digits).toNat (String.ofList id))

/-- How a line spoils a list: by a quantity that is not positive, or else by one that is no number or is too
large. -/
inductive Spoils (number : Nat) (l : List Char) : Failure → Prop where
  | notPositive {signs digits id : List Char} (hmeans : Says l (.cards signs digits id))
      (hread : IsRead signs digits) (hnot : signedValue signs digits ≤ 0) :
      Spoils number l (.configuration (.badQuantity number (signedValue signs digits)))
  | noNumber {signs digits id : List Char} (hmeans : Says l (.cards signs digits id))
      (hunread : 2 ≤ signs.length ∨ ∃ c ∈ digits, ¬ IsDecimal c) :
      Spoils number l (.fault (.notWhole (String.ofList (signs ++ digits))))
  | longNumber {signs digits id : List Char} (hmeans : Says l (.cards signs digits id))
      (hone : signs.length ≤ 1) (hdecimal : ∀ c ∈ digits, IsDecimal c)
      (hlong : maxDigits < digits.length) : Spoils number l (.fault (.tooManyDigits digits.length))
  | tooLarge {signs digits id : List Char} (hmeans : Says l (.cards signs digits id))
      (hread : IsRead signs digits) (hlarge : (Nat.pow 2 63 : Int) ≤ signedValue signs digits) :
      Spoils number l (.arithmetic .countTooLarge)
  | noRoom {signs digits id : List Char} (hmeans : Says l (.cards signs digits id))
      (hread : IsRead signs digits) (hroom : room < signedValue signs digits)
      (hsmall : signedValue signs digits < Nat.pow 2 63) : Spoils number l (.arithmetic .noRoom)

theorem IsCount.of_meaning (h : Says l (.cards signs digits id)) : IsCount signs digits := by
  unfold Says at h
  generalize trimList l = cs at h
  cases h with
  | cards hcount hgap hid => exact hcount

theorem counted_of_read (number : Nat) (card : String) (hcount : IsCount signs digits)
    (hread : IsRead signs digits) :
    counted number (String.ofList (signs ++ digits)) card =
      if signedValue signs digits ≤ 0 then
        .error (.configuration (.badQuantity number (signedValue signs digits)))
      else repeated (signedValue signs digits).toNat card := by
  rw [counted, ofString_of_signed hcount.signs hread.one hcount.nonempty hcount.digits hread.decimal,
    if_neg (Nat.not_lt.mpr hread.few)]
  change (if signedValue signs digits ≤ 0 then _ else _) = _
  split <;> rfl

theorem Grants.line (h : Grants l ids) (number : Nat) : line number (String.ofList l) = .ok ids := by
  cases h with
  | nothing hmeans => exact line_nothing number hmeans
  | card hmeans => exact line_card number hmeans
  | cards hmeans hread hpositive hroom =>
    have hlimit : room < Nat.pow 2 63 := by decide
    rw [line_cards number hmeans, counted_of_read number _ (.of_meaning hmeans) hread,
      if_neg (Int.not_le.mpr hpositive), repeated, if_neg (by omega), if_neg (by omega)]

theorem Spoils.line (h : Spoils number l f) : line number (String.ofList l) = .error f := by
  cases h with
  | notPositive hmeans hread hnot =>
    rw [line_cards number hmeans, counted_of_read number _ (.of_meaning hmeans) hread, if_pos hnot]
  | noNumber hmeans hunread =>
    have hcount := IsCount.of_meaning hmeans
    rw [line_cards number hmeans, counted, ofString_of_unread hcount.signs hcount.digits hunread]
    rfl
  | longNumber hmeans hone hdecimal hlong =>
    have hcount := IsCount.of_meaning hmeans
    rw [line_cards number hmeans, counted,
      ofString_of_signed hcount.signs hone hcount.nonempty hcount.digits hdecimal, if_pos hlong]
    rfl
  | tooLarge hmeans hread hlarge =>
    have hpos : 0 < Nat.pow 2 63 := by decide
    rw [line_cards number hmeans, counted_of_read number _ (.of_meaning hmeans) hread,
      if_neg (by omega), repeated, if_pos (by omega)]
  | noRoom hmeans hread hroom hsmall =>
    rw [line_cards number hmeans, counted_of_read number _ (.of_meaning hmeans) hread,
      if_neg (by omega), repeated, if_neg (by omega), if_pos (by omega)]

/-- Every line gives ids or spoils its list. -/
theorem grants_or_spoils (number : Nat) (l : List Char) : (∃ ids, Grants l ids) ∨ ∃ f, Spoils number l f := by
  obtain ⟨s, hmeans⟩ := exists_meaning l
  cases s with
  | nothing => exact .inl ⟨_, .nothing hmeans⟩
  | card id => exact .inl ⟨_, .card hmeans⟩
  | cards signs digits id =>
    by_cases hunread : 2 ≤ signs.length ∨ ∃ c ∈ digits, ¬ IsDecimal c
    · exact .inr ⟨_, .noNumber hmeans hunread⟩
    obtain ⟨hone, hdecimal⟩ := not_or.mp hunread
    replace hone : signs.length ≤ 1 := by omega
    replace hdecimal : ∀ c ∈ digits, IsDecimal c := by simpa using hdecimal
    by_cases hlong : maxDigits < digits.length
    · exact .inr ⟨_, .longNumber hmeans hone hdecimal hlong⟩
    have hread : IsRead signs digits := ⟨hone, hdecimal, Nat.not_lt.mp hlong⟩
    by_cases hnot : signedValue signs digits ≤ 0
    · exact .inr ⟨_, .notPositive hmeans hread hnot⟩
    by_cases hroom : signedValue signs digits ≤ room
    · exact .inl ⟨_, .cards hmeans hread (Int.not_le.mp hnot) hroom⟩
    by_cases hsmall : signedValue signs digits < Nat.pow 2 63
    · exact .inr ⟨_, .noRoom hmeans hread (Int.not_le.mp hroom) hsmall⟩
    · exact .inr ⟨_, .tooLarge hmeans hread (Int.not_lt.mp hsmall)⟩

theorem line_eq_ok_iff : line number (String.ofList l) = .ok ids ↔ Grants l ids := by
  refine ⟨fun h => ?_, fun h => h.line number⟩
  obtain ⟨given, hgrants⟩ | ⟨f, hspoils⟩ := grants_or_spoils number l
  · rw [hgrants.line number] at h
    cases h
    exact hgrants
  · rw [hspoils.line] at h
    cases h

theorem line_eq_error_iff : line number (String.ofList l) = .error f ↔ Spoils number l f := by
  refine ⟨fun h => ?_, fun h => h.line⟩
  obtain ⟨given, hgrants⟩ | ⟨g, hspoils⟩ := grants_or_spoils number l
  · rw [hgrants.line number] at h
    cases h
  · rw [hspoils.line] at h
    cases h
    exact hspoils

/-! What a list comes to. -/

/-- The ids that lines give one after the other. -/
inductive GrantsAll : List (List Char) → List String → Prop where
  | nil : GrantsAll [] []
  | cons {l : List Char} {ls : List (List Char)} {ids more : List String} (hline : Grants l ids)
      (hmore : GrantsAll ls more) : GrantsAll (l :: ls) (ids ++ more)

theorem linesFrom_eq_ok_iff {texts : List String} :
    linesFrom number texts = .ok ids ↔ GrantsAll (texts.map String.toList) ids := by
  induction texts generalizing number ids with
  | nil => exact ⟨fun h => by cases h; exact .nil, fun h => by cases h; rfl⟩
  | cons text texts ih =>
    rw [linesFrom, bind_eq_ok, List.map_cons]
    constructor
    · rintro ⟨here, hline, h⟩
      obtain ⟨more, hmore, h⟩ := bind_eq_ok.mp h
      cases h
      rw [← String.ofList_toList (s := text), line_eq_ok_iff] at hline
      exact .cons hline (ih.mp hmore)
    · intro h
      cases h with
      | cons hline hmore =>
        rw [← line_eq_ok_iff, String.ofList_toList] at hline
        exact ⟨_, hline, bind_eq_ok.mpr ⟨_, ih.mpr hmore, rfl⟩⟩

theorem parse_eq_ok_iff {text : String} :
    parse text = .ok ids ↔ GrantsAll ((lines text).map String.toList) ids := linesFrom_eq_ok_iff

theorem exists_grantsAll_iff : (∃ ids, GrantsAll ls ids) ↔ ∀ l ∈ ls, ∃ ids, Grants l ids := by
  constructor
  · rintro ⟨ids, h⟩
    induction h with
    | nil => exact List.forall_mem_nil _
    | cons hline _ ih => exact List.forall_mem_cons.mpr ⟨⟨_, hline⟩, ih⟩
  · intro h
    induction ls with
    | nil => exact ⟨[], .nil⟩
    | cons l ls ih =>
      obtain ⟨⟨ids, hline⟩, hls⟩ := List.forall_mem_cons.mp h
      obtain ⟨more, hmore⟩ := ih hls
      exact ⟨ids ++ more, .cons hline hmore⟩

/-- The first line that gives no ids decides how a list fails. -/
theorem linesFrom_eq_error_iff {texts : List String} :
    linesFrom number texts = .error f ↔
      ∃ before text after, texts = before ++ text :: after ∧
        (∀ t ∈ before, ∃ ids, Grants t.toList ids) ∧ Spoils (number + before.length) text.toList f := by
  induction texts generalizing number with
  | nil =>
    constructor
    · exact nofun
    · rintro ⟨before, text, after, h, -⟩
      cases before <;> cases h
  | cons first texts ih =>
    rw [linesFrom, bind_eq_error]
    constructor
    · rintro (hline | ⟨ids, hline, h⟩)
      · rw [← String.ofList_toList (s := first), line_eq_error_iff] at hline
        exact ⟨[], first, texts, rfl, List.forall_mem_nil _, hline⟩
      · obtain h | ⟨more, hmore, h⟩ := bind_eq_error.mp h
        · obtain ⟨before, text, after, rfl, hbefore, hspoils⟩ := ih.mp h
          rw [← String.ofList_toList (s := first), line_eq_ok_iff] at hline
          refine ⟨first :: before, text, after, rfl, List.forall_mem_cons.mpr ⟨⟨ids, hline⟩, hbefore⟩, ?_⟩
          rwa [List.length_cons, Nat.add_comm before.length, ← Nat.add_assoc]
        · cases h
    · rintro ⟨before, text, after, h, hbefore, hspoils⟩
      cases before with
      | nil =>
        cases h
        rw [← line_eq_error_iff, String.ofList_toList] at hspoils
        exact .inl hspoils
      | cons t before =>
        cases h
        obtain ⟨⟨ids, hfirst⟩, hbefore⟩ := List.forall_mem_cons.mp hbefore
        have hfirst : line number (String.ofList first.toList) = .ok ids := line_eq_ok_iff.mpr hfirst
        rw [String.ofList_toList] at hfirst
        rw [List.length_cons, Nat.add_comm before.length, ← Nat.add_assoc] at hspoils
        have hrest := ih.mpr ⟨before, text, after, rfl, hbefore, hspoils⟩
        exact .inr ⟨ids, hfirst, bind_eq_error.mpr (.inl hrest)⟩

/-! Lines one after the other. -/

theorem GrantsAll.append (h : GrantsAll ls ids) (h' : GrantsAll ps more) :
    GrantsAll (ls ++ ps) (ids ++ more) := by
  induction h with
  | nil => exact h'
  | cons hline _ ih =>
    rw [List.append_assoc]
    exact .cons hline ih

theorem grants_nil : Grants [] ids ↔ ids = [] := by
  have hnothing : Grants [] [] := .nothing Means.blank
  refine ⟨fun h => ?_, fun h => h ▸ hnothing⟩
  have hline := h.line 0
  rw [hnothing.line 0] at hline
  cases hline
  rfl

/-- Empty lines give nothing. -/
theorem grantsAll_full : GrantsAll (full ls) ids ↔ GrantsAll ls ids := by
  induction ls generalizing ids with
  | nil => rfl
  | cons l ls ih =>
    cases l with
    | nil =>
      rw [full_nil_cons, ih]
      constructor
      · intro h
        exact .cons (grants_nil.mpr rfl) h
      · intro h
        cases h with
        | cons hline hmore =>
          obtain rfl := grants_nil.mp hline
          exact hmore
    | cons c l =>
      constructor
      · intro h
        cases h with
        | cons hline hmore => exact .cons hline (ih.mp hmore)
      · intro h
        cases h with
        | cons hline hmore => exact .cons hline (ih.mpr hmore)

/-- The ids of two lists with the end of a line between them are those of the one and of the other. -/
theorem parse_append {a b : String} {terminator : List Char} (h : IsTerminator terminator)
    (ha : parse a = .ok ids) (hb : parse b = .ok more) :
    parse (a ++ String.ofList terminator ++ b) = .ok (ids ++ more) := by
  rw [parse_eq_ok_iff, ← grantsAll_full] at ha hb ⊢
  rw [full_lines_append h]
  exact ha.append hb

theorem parse_single (hline : ∀ c ∈ l, isLineEnd c = false) (h : Grants l ids) :
    parse (String.ofList l) = .ok ids := by
  rw [parse_eq_ok_iff, ← grantsAll_full, full_lines_single hline, grantsAll_full, ← List.append_nil ids]
  exact .cons h .nil

/-! Lists as they are written. -/

/-- A line as it is written: blanks, a remark behind blanks, a quantity and an id, or an id alone. -/
inductive Entry where
  | blank (blanks : List Char)
  | remark (blanks text : List Char)
  | several (quantity : Nat) (id : List Char)
  | one (id : List Char)

namespace Entry

def line : Entry → List Char
  | blank blanks => blanks
  | remark blanks text => blanks ++ '#' :: text
  | several quantity id => Nat.toDigits 10 quantity ++ ' ' :: id
  | one id => id

/-- The ids that it stands for. -/
def cards : Entry → List String
  | blank _ | remark _ _ => []
  | several quantity id => List.replicate quantity (String.ofList id)
  | one id => [String.ofList id]

def Fits : Entry → Prop
  | blank blanks | remark blanks _ => ∀ c ∈ blanks, isBlank c = true
  | several quantity id => 1 ≤ quantity ∧ quantity ≤ room ∧ IsTight id
  | one id => IsTight id ∧ id.head? ≠ some '#' ∧ ¬ BeginsWithCount id

/-- An entry that stands on one line. -/
structure IsProper (e : Entry) : Prop where
  fits : e.Fits
  oneLine : ∀ c ∈ e.line, isLineEnd c = false

end Entry

/-- Lines one after the other, each with what ends it, and a last one that nothing ends. -/
def written (entries : List (Entry × List Char)) (last : Entry) : List Char :=
  (entries.flatMap fun (e, terminator) => e.line ++ terminator) ++ last.line

theorem isCount_toDigits (n : Nat) : IsCount [] (Nat.toDigits 10 n) :=
  ⟨List.forall_mem_nil _, Nat.toDigits_ne_nil, fun d hd =>
    of_isDigit (P := fun c => isDigit c = true) (by decide +kernel) (isDigit_toDigits d hd)⟩

theorem isRead_toDigits {n : Nat} (h : n ≤ room) : IsRead [] (Nat.toDigits 10 n) := by
  have hlimit : room < 10 ^ 10 := by decide
  have hlength : (Nat.toDigits 10 n).length ≤ 10 :=
    (Nat.length_toDigits_le_iff (by decide) (by decide)).mpr (Nat.lt_of_le_of_lt h hlimit)
  exact ⟨Nat.zero_le 1, fun d hd =>
    of_isDigit (P := IsDecimal) (by unfold IsDecimal; decide) (isDigit_toDigits d hd),
    Nat.le_trans hlength (by decide)⟩

theorem Entry.grants {e : Entry} (h : e.Fits) : Grants e.line e.cards := by
  cases e with
  | blank blanks =>
    refine .nothing ?_
    rw [Says, line, trimList_eq_nil_iff.mpr h]
    exact .blank
  | remark blanks text =>
    refine .nothing ?_
    have hmark : isBlank '#' = false := by decide
    rw [Says, line, trimList, List.dropWhile_append_of_pos h, List.dropWhile_cons,
      if_neg (by simp [hmark]), dropEndWhile_cons hmark]
    exact .remark _
  | several quantity id =>
    obtain ⟨hpositive, hroom, hid⟩ := h
    have hcount := isCount_toDigits quantity
    have hvalue : signedValue [] (Nat.toDigits 10 quantity) = quantity :=
      congrArg Nat.cast (value_toDigits quantity)
    have htight := hcount.isWord.isTight.append [' '] hid
    have hmeans : Says (Entry.several quantity id).line (.cards [] (Nat.toDigits 10 quantity) id) := by
      rw [Says, line, ← List.singleton_append, ← List.append_assoc, ← List.nil_append (Nat.toDigits 10 _),
        htight.trimList]
      exact .cards hcount ⟨List.cons_ne_nil _ _, List.forall_mem_singleton.mpr (by decide)⟩ hid
    have hgrants := Grants.cards hmeans (isRead_toDigits hroom) (by rw [hvalue]; omega) (by rw [hvalue]; omega)
    rwa [hvalue, Int.toNat_natCast] at hgrants
  | one id =>
    obtain ⟨hid, hmark, hplain⟩ := h
    refine .card ?_
    rw [Says, line, hid.trimList]
    exact .card hid hmark hplain

theorem parse_entries {entries : List (Entry × List Char)} {last : Entry}
    (hentries : ∀ e ∈ entries, e.1.IsProper ∧ IsTerminator e.2) (hlast : last.IsProper) :
    parse (String.ofList (written entries last)) =
      .ok ((entries.flatMap fun e => e.1.cards) ++ last.cards) := by
  induction entries with
  | nil => exact parse_single hlast.oneLine (Entry.grants hlast.fits)
  | cons e entries ih =>
    obtain ⟨⟨hproper, hterminator⟩, hentries⟩ := List.forall_mem_cons.mp hentries
    have hfirst := parse_single hproper.oneLine (Entry.grants hproper.fits)
    have hwritten : String.ofList (written (e :: entries) last) =
        String.ofList e.1.line ++ String.ofList e.2 ++ String.ofList (written entries last) := by
      rw [← String.ofList_append, ← String.ofList_append, written, List.flatMap_cons, List.append_assoc]
      rfl
    rw [hwritten, parse_append hterminator hfirst (ih hentries), List.flatMap_cons, List.append_assoc]

/-- A list that is written line by line is read as what its lines stand for, up to the largest quantity that
there is room for; and lists are read one after the other. -/
theorem parse_written (entries : List (Entry × List Char)) (last : Entry)
    (hentries : ∀ e ∈ entries, e.1.IsProper ∧ IsTerminator e.2) (hlast : last.IsProper) :
    parse (String.ofList (written entries last)) =
        .ok ((entries.flatMap fun e => e.1.cards) ++ last.cards) ∧
      ∀ (a b : String) (terminator : List Char) (xs ys : List String), IsTerminator terminator →
        parse a = .ok xs → parse b = .ok ys →
          parse (a ++ String.ofList terminator ++ b) = .ok (xs ++ ys) :=
  ⟨parse_entries hentries hlast, fun _ _ _ _ _ => parse_append⟩

/-- An id that looks like a remark, a remark, and an id of two words, each with another end. -/
def mixedEntries : List (Entry × List Char) :=
  [(.several 2 "# orc".toList, ['\r', '\n']), (.remark [' '] "1 elf".toList, ['\x0b']),
    (.one "3x orc".toList, ['\u2028'])]

theorem parse_written_mixed :
    (∀ e ∈ mixedEntries, e.1.IsProper ∧ IsTerminator e.2) ∧ (Entry.blank []).IsProper ∧
      parse (String.ofList (written mixedEntries (.blank []))) = .ok ["# orc", "# orc", "3x orc"] := by
  have hplain : ¬ BeginsWithCount "3x orc".toList := fun h =>
    absurd (isQuantity_of_beginsWithCount h) (by decide +kernel)
  have hentries : ∀ e ∈ mixedEntries, e.1.IsProper ∧ IsTerminator e.2 := by
    refine List.forall_mem_cons.mpr ⟨⟨⟨⟨?_, ?_, ?_⟩, ?_⟩, .inl rfl⟩, ?_⟩
    · decide
    · decide
    · decide +kernel
    · exact none_of_any (by decide +kernel)
    refine List.forall_mem_cons.mpr ⟨⟨⟨List.forall_mem_singleton.mpr ?_, ?_⟩, .inr ⟨_, ?_, rfl⟩⟩, ?_⟩
    · decide
    · exact none_of_any (by decide +kernel)
    · decide
    refine List.forall_mem_singleton.mpr ⟨⟨⟨?_, ?_, hplain⟩, ?_⟩, .inr ⟨_, ?_, rfl⟩⟩
    · decide +kernel
    · decide +kernel
    · exact none_of_any (by decide +kernel)
    · decide
  have hlast : (Entry.blank []).IsProper := ⟨List.forall_mem_nil _, List.forall_mem_nil _⟩
  exact ⟨hentries, hlast, (parse_written mixedEntries (.blank []) hentries hlast).1⟩

/-- No list has so many cards; and digits behind two signs are taken for a quantity, but make no number. -/
theorem parse_countless :
    parse "9223372036854775808 orc" = .error (.arithmetic .countTooLarge) ∧
      parse "++5 goblin" = .error (.fault (.notWhole "++5")) := by
  decide +kernel

/-! The first line that spoils a list. -/

/-- A list gives ids if each of its lines does. Otherwise it fails as its first line that gives none: by the
number of that line, if a quantity is there that is read and is not positive, or else by a fault. -/
theorem parse_stops_at_first (text : String) :
    ((∃ ids, parse text = .ok ids) ↔ ∀ line ∈ lines text, ∃ ids, Grants line.toList ids) ∧
    (∀ f, parse text = .error f ↔ ∃ before line after, lines text = before ++ line :: after ∧
      (∀ earlier ∈ before, ∃ ids, Grants earlier.toList ids) ∧
      Spoils (before.length + 1) line.toList f) := by
  refine ⟨?_, fun f => ?_⟩
  · simp only [parse_eq_ok_iff, exists_grantsAll_iff, List.forall_mem_map]
  · simp only [parse, linesFrom_eq_error_iff, Nat.add_comm 1]

/-- A superscript counts as a digit, but makes no number. -/
theorem parse_superscript : parse "² orc" = .error (.fault (.notWhole "²")) := by
  decide +kernel

end CardPress.Selection
