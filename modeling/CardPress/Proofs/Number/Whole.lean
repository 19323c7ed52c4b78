import CardPress.Proofs.Text.Trim
import CardPress.Proofs.Text.Words
import CardPress.Whole
import Mathlib.Data.List.Basic

/-! Whole numbers in digits of any script: which text is read as a number, and which number that is. -/
namespace CardPress

namespace Text

/-- What holds of the ten digits by their codes holds of all digits. -/
theorem of_isDigit {P : Char → Prop} (h : ∀ n ∈ List.range' 48 10, P (Char.ofNat n)) {c : Char}
    (hc : c.isDigit = true) : P c := by
  have hrange : c.toNat ∈ List.range' 48 10 := by
    simp only [Char.isDigit, Bool.and_eq_true, decide_eq_true_eq] at hc
    exact List.mem_range'_1.mpr ⟨hc.1, Nat.lt_succ_of_le hc.2⟩
  rw [← Char.ofNat_toNat c]
  exact h _ hrange

theorem isDigit_toDigits {n : Nat} : ∀ d ∈ Nat.toDigits 10 n, d.isDigit = true := fun _ hd =>
  Nat.isDigit_of_mem_toDigits (by decide) (by decide) hd

end Text

namespace Whole

open Text

variable {signs digits cs : List Char} {c : Char}

/-- The value of decimal digits. -/
def value (cs : List Char) : Nat := cs.foldl (fun n c => 10 * n + (digitValue? c).getD 0) 0

/-- A digit that has a value. -/
def IsDecimal (c : Char) : Prop := (digitValue? c).isSome

/-- The value of digits behind a sign, or behind none. -/
def signedValue (signs digits : List Char) : Int :=
  if signs.head? = some '-' then -(value digits : Int) else value digits

theorem lt_ten_of_digitValueFrom {zeros : List Nat} {n v : Nat} (h : digitValueFrom zeros n = some v) :
    v < 10 := by
  induction zeros with
  | nil => cases h
  | cons z rest ih =>
    rw [digitValueFrom] at h
    split at h
    · cases h
    split at h
    · cases h
      omega
    · exact ih h

theorem plainDigit_of_decimal {v : Nat} (h : digitValue? c = some v) :
    (Numeral.plainDigit c).isDigit = true ∧ (Numeral.plainDigit c).toNat - 48 = v := by
  have hten : v < 10 := lt_ten_of_digitValueFrom h
  have hcode (v : Fin 10) : (Char.ofNat (48 + v)).isDigit = true ∧ (Char.ofNat (48 + v)).toNat - 48 = v := by
    revert v
    decide
  have hplain : Numeral.plainDigit c = Char.ofNat (48 + v) := by
    rw [Numeral.plainDigit, h]
  rw [hplain]
  exact hcode ⟨v, hten⟩

/-- What is no decimal digit stays as it is, and is no plain digit. -/
theorem plainDigit_of_not_decimal (h : digitValue? c = none) :
    Numeral.plainDigit c = c ∧ c.isDigit = false := by
  refine ⟨by rw [Numeral.plainDigit, h], ?_⟩
  by_contra hplain
  have hcode : 48 ≤ c.toNat ∧ c.toNat ≤ 57 := by
    simpa [Char.isDigit, UInt32.le_iff_toNat_le] using hplain
  rw [digitValue?, decimalZeros, digitValueFrom, if_neg (by omega), if_pos (by omega)] at h
  cases h

theorem takeDigits_of_decimal (h : ∀ c ∈ cs, IsDecimal c) (n count : Nat) :
    Numeral.takeDigits n count (cs.map Numeral.plainDigit) =
      (cs.foldl (fun n c => 10 * n + (digitValue? c).getD 0) n, count + cs.length, []) := by
  induction cs generalizing n count with
  | nil => rfl
  | cons c cs ih =>
    obtain ⟨hc, hcs⟩ := List.forall_mem_cons.mp h
    obtain ⟨v, hv⟩ := Option.isSome_iff_exists.mp hc
    obtain ⟨hplain, hvalue⟩ := plainDigit_of_decimal hv
    rw [List.map_cons, Numeral.takeDigits, if_pos hplain, ih hcs, hvalue, List.foldl_cons, hv,
      Option.getD_some, List.length_cons, Nat.add_assoc, Nat.add_comm 1]

theorem takeDigits_of_not_decimal (h : ∃ c ∈ cs, ¬ IsDecimal c) (n count : Nat) :
    (Numeral.takeDigits n count (cs.map Numeral.plainDigit)).2.2 ≠ [] := by
  induction cs generalizing n count with
  | nil => simp at h
  | cons c cs ih =>
    rw [List.map_cons, Numeral.takeDigits]
    cases hv : digitValue? c with
    | none =>
      obtain ⟨hkept, hplain⟩ := plainDigit_of_not_decimal hv
      rw [hkept, if_neg (by simp [hplain])]
      exact List.cons_ne_nil _ _
    | some v =>
      rw [if_pos (plainDigit_of_decimal hv).1]
      refine ih ?_ _ _
      obtain ⟨d, hd, hnot⟩ := h
      obtain rfl | hd := List.mem_cons.mp hd
      · exact absurd (by simp [IsDecimal, hv]) hnot
      · exact ⟨d, hd, hnot⟩

theorem joinDigits_of_notMem (h : '_' ∉ cs) {last : Char} (hlast : last ≠ '_') :
    Numeral.joinDigits last cs = some cs := by
  induction cs generalizing last with
  | nil => rw [Numeral.joinDigits, if_neg hlast]
  | cons c cs ih =>
    rw [List.mem_cons, not_or] at h
    have hc : c ≠ '_' := Ne.symm h.1
    rw [Numeral.joinDigits, if_neg hc, if_neg (by simp [hlast]), ih h.2 hc]
    rfl

theorem isBlank_digit (h : isDigit c = true) : isBlank c = false :=
  isBlank_of_inRanges (by decide +kernel) h

/-- What becomes of a digit is neither a sign nor an underscore. -/
theorem plainDigit_notMem (h : isDigit c = true) : Numeral.plainDigit c ∉ ['_', '-', '+'] := by
  cases hv : digitValue? c with
  | none =>
    rw [(plainDigit_of_not_decimal hv).1]
    intro hmem
    have hdigit : (['_', '-', '+'].all fun d => !isDigit d) = true := by decide +kernel
    have hnot := List.all_eq_true.mp hdigit c hmem
    rw [h] at hnot
    cases hnot
  | some v =>
    intro hmem
    have hsign : (['_', '-', '+'].all fun d => !d.isDigit) = true := by decide
    have hnot := List.all_eq_true.mp hsign _ hmem
    rw [(plainDigit_of_decimal hv).1] at hnot
    cases hnot

/-- The digits that a number is written in are read as that number. -/
theorem value_toDigits (n : Nat) : value (Nat.toDigits 10 n) = n := by
  have hdigit {c : Char} (h : c.isDigit = true) : (digitValue? c).getD 0 = c.toNat - '0'.toNat :=
    of_isDigit (P := fun c => (digitValue? c).getD 0 = c.toNat - '0'.toNat) (by decide) h
  have hfold : value (Nat.toDigits 10 n) = Nat.ofDigitChars 10 (Nat.toDigits 10 n) 0 :=
    List.foldl_ext _ _ 0 fun m c hc => by rw [hdigit (isDigit_toDigits c hc), Nat.mul_comm]
  rw [hfold, Nat.ofDigitChars_ten_toDigits]

/-! Signs in front of digits. -/

/-- A sign is no blank and no digit, and it stays as it is. -/
theorem sign_facts (h : c ∈ ['+', '-']) :
    isBlank c = false ∧ c.isDigit = false ∧ Numeral.plainDigit c = c ∧ c ≠ '_' := by
  rw [List.mem_cons, List.mem_singleton] at h
  obtain rfl | rfl := h <;> decide

theorem takeSign_append (hsigns : ∀ c ∈ signs, c ∈ ['+', '-']) (h : ∀ d ∈ cs, d ∉ ['_', '-', '+']) :
    Numeral.takeSign (signs ++ cs) = (decide (signs.head? = some '-'), signs.tail ++ cs) := by
  cases signs with
  | nil =>
    rw [List.nil_append, Numeral.takeSign.eq_def]
    split
    · exact absurd (by decide) (h '-' List.mem_cons_self)
    · exact absurd (by decide) (h '+' List.mem_cons_self)
    · rfl
  | cons s signs =>
    have hsign : s ∈ ['+', '-'] := hsigns s List.mem_cons_self
    obtain rfl | hsign := List.mem_cons.mp hsign
    · rfl
    · obtain rfl := List.mem_singleton.mp hsign
      rfl

theorem trimNumber_of_solid (h : ∀ c ∈ cs, isBlank c = false) : trimNumber cs = cs := by
  have hblank : ∀ c ∈ cs, isNumberBlank c = false := fun c hc => by
    rw [isNumberBlank, h c hc, Bool.false_and]
  rw [trimNumber, dropWhile_eq_self fun c hc => hblank c (List.mem_of_mem_head? hc),
    dropEndWhile_eq_self fun c hc => hblank c (List.mem_of_mem_getLast? hc)]

/-- One sign is taken off in front; all that is left must be plain digits. -/
theorem wholeOfList?_signed (hsigns : ∀ c ∈ signs, c ∈ ['+', '-'])
    (hdigits : ∀ c ∈ digits, isDigit c = true) {n count : Nat} {rest : List Char}
    (htake : Numeral.takeDigits 0 0 (signs.tail ++ digits.map Numeral.plainDigit) = (n, count, rest)) :
    wholeOfList? (signs ++ digits) =
      if count ≠ 0 ∧ rest = [] then
        some (if signs.head? = some '-' then -(n : Int) else n, count) else none := by
  have hplain : ∀ d ∈ digits.map Numeral.plainDigit, d ∉ ['_', '-', '+'] := by
    intro d hd
    obtain ⟨c, hc, rfl⟩ := List.mem_map.mp hd
    exact plainDigit_notMem (hdigits c hc)
  have hsolid : ∀ c ∈ signs ++ digits, isBlank c = false := List.forall_mem_append.mpr
    ⟨fun c hc => (sign_facts (hsigns c hc)).1, fun c hc => isBlank_digit (hdigits c hc)⟩
  have hkept : (signs ++ digits).map Numeral.plainDigit = signs ++ digits.map Numeral.plainDigit := by
    rw [List.map_append, List.map_congr_left fun c hc => (sign_facts (hsigns c hc)).2.2.1, List.map_id']
  have hjoin : '_' ∉ signs ++ digits.map Numeral.plainDigit := by
    rw [List.mem_append, not_or]
    exact ⟨fun hmem => (sign_facts (hsigns _ hmem)).2.2.2 rfl, fun hmem => hplain _ hmem List.mem_cons_self⟩
  unfold wholeOfList?
  rw [trimNumber_of_solid hsolid, hkept, joinDigits_of_notMem hjoin (by decide)]
  dsimp only
  rw [takeSign_append hsigns hplain]
  dsimp only
  rw [htake]
  cases count with
  | zero => rfl
  | succ count => cases rest <;> simp

/-- Decimal digits behind one sign at most are read as a whole number if they are not too many. -/
theorem ofString_of_signed (hsigns : ∀ c ∈ signs, c ∈ ['+', '-']) (hone : signs.length ≤ 1)
    (hne : digits ≠ []) (hdigits : ∀ c ∈ digits, isDigit c = true) (hdecimal : ∀ c ∈ digits, IsDecimal c) :
    ofString (String.ofList (signs ++ digits)) =
      if maxDigits < digits.length then .error (.fault (.tooManyDigits digits.length))
      else .ok (signedValue signs digits) := by
  have htail : signs.tail = [] := List.length_eq_zero_iff.mp (by rw [List.length_tail]; omega)
  have htake : Numeral.takeDigits 0 0 (signs.tail ++ digits.map Numeral.plainDigit) =
      (value digits, 0 + digits.length, []) := by
    rw [htail, List.nil_append, takeDigits_of_decimal hdecimal]
    rfl
  have hsome : 0 + digits.length ≠ 0 := by
    rw [Nat.zero_add]
    exact mt List.length_eq_zero_iff.mp hne
  rw [ofString, String.toList_ofList, wholeOfList?_signed hsigns hdigits htake, if_pos ⟨hsome, rfl⟩,
    Nat.zero_add]
  rfl

/-- A second sign, or a digit without a value, makes no number. -/
theorem ofString_of_unread (hsigns : ∀ c ∈ signs, c ∈ ['+', '-'])
    (hdigits : ∀ c ∈ digits, isDigit c = true)
    (hunread : 2 ≤ signs.length ∨ ∃ c ∈ digits, ¬ IsDecimal c) :
    ofString (String.ofList (signs ++ digits)) =
      .error (.fault (.notWhole (String.ofList (signs ++ digits)))) := by
  have hnone : wholeOfList? (signs ++ digits) = none := by
    rw [wholeOfList?_signed hsigns hdigits rfl, if_neg]
    rintro ⟨hcount, hrest⟩
    rcases hsecond : signs.tail with _ | ⟨s, more⟩
    · -- one sign at most: the digit without a value is left over
      have hlength := congrArg List.length hsecond
      rw [List.length_tail, List.length_nil] at hlength
      rw [hsecond] at hrest
      obtain htwo | hstray := hunread
      · omega
      · exact takeDigits_of_not_decimal hstray 0 0 hrest
    · -- no digit is taken before the second sign
      have hsign : s ∈ signs := List.mem_of_mem_tail (hsecond ▸ List.mem_cons_self)
      rw [hsecond, List.cons_append, Numeral.takeDigits,
        if_neg (by rw [(sign_facts (hsigns s hsign)).2.1]; exact Bool.false_ne_true)] at hcount
      exact hcount rfl
  rw [ofString, String.toList_ofList, hnone]

/-! Digits without a sign. -/

theorem ofString_of_decimal (hne : cs ≠ []) (h : ∀ c ∈ cs, isDigit c = true)
    (hdecimal : ∀ c ∈ cs, IsDecimal c) :
    ofString (String.ofList cs) =
      if maxDigits < cs.length then .error (.fault (.tooManyDigits cs.length)) else .ok (value cs) := by
  rw [← List.nil_append cs, ofString_of_signed (List.forall_mem_nil _) (Nat.zero_le 1) hne h hdecimal]
  rfl

theorem ofString_of_stray (h : ∀ c ∈ cs, isDigit c = true) (hstray : ∃ c ∈ cs, ¬ IsDecimal c) :
    ofString (String.ofList cs) = .error (.fault (.notWhole (String.ofList cs))) := by
  rw [← List.nil_append cs, ofString_of_unread (List.forall_mem_nil _) h (.inr hstray)]

theorem ofString_eq_error_iff {f : Failure} (hne : cs ≠ []) (h : ∀ c ∈ cs, isDigit c = true) :
    ofString (String.ofList cs) = .error f ↔
      (∃ c ∈ cs, ¬ IsDecimal c) ∧ f = .fault (.notWhole (String.ofList cs)) ∨
        (∀ c ∈ cs, IsDecimal c) ∧ maxDigits < cs.length ∧ f = .fault (.tooManyDigits cs.length) := by
  by_cases hall : ∀ c ∈ cs, IsDecimal c
  · rw [ofString_of_decimal hne h hall]
    constructor
    · intro hf
      split at hf <;> cases hf
      exact .inr ⟨hall, by assumption, rfl⟩
    · rintro (⟨⟨c, hc, hstray⟩, -⟩ | ⟨-, hlong, rfl⟩)
      · exact absurd (hall c hc) hstray
      · exact if_pos hlong
  · have hstray : ∃ c ∈ cs, ¬ IsDecimal c := by simpa using hall
    rw [ofString_of_stray h hstray]
    constructor
    · intro hf
      cases hf
      exact .inl ⟨hstray, rfl⟩
    · rintro (⟨-, rfl⟩ | ⟨hdecimal, -⟩)
      · rfl
      · exact absurd hdecimal hall

end Whole

end CardPress
