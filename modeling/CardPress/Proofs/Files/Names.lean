import CardPress.FileName
import CardPress.Proofs.Number.Whole
import CardPress.Proofs.Report
import Mathlib.Data.List.Nodup
import Mathlib.Data.List.Induction
import Mathlib.Data.List.Perm.Subperm

/-! File names for cards: each card has one, and no two cards share one in any letter case. -/
namespace CardPress

namespace Text

/-! The lower case of a name with a number behind it. -/

/-- An underscore ends the search for a letter with case. -/
theorem meetsCased_underscore (xs ds : List Char) :
    meetsCased (xs ++ '_' :: ds) = meetsCased (xs ++ ['_']) := by
  have hstop : inRanges caseIgnorableRanges '_'.toNat = false := by decide +kernel
  induction xs with
  | nil => rw [List.nil_append, List.nil_append, meetsCased, meetsCased, hstop]; rfl
  | cons x xs ih => rw [List.cons_append, List.cons_append, meetsCased, meetsCased, ih]

theorem lowerFrom_underscore (before xs ds : List Char) :
    lowerFrom before (xs ++ '_' :: ds) =
      lowerFrom before (xs ++ ['_']) ++ lowerFrom ('_' :: (xs.reverse ++ before)) ds := by
  induction xs generalizing before with
  | nil => simp [lowerFrom, lowerHere]
  | cons x xs ih =>
    have hhere : lowerHere before x (xs ++ '_' :: ds) = lowerHere before x (xs ++ ['_']) := by
      rw [lowerHere, lowerHere, meetsCased_underscore]
    rw [List.cons_append, List.cons_append, lowerFrom, lowerFrom, hhere, ih, List.append_assoc,
      List.reverse_cons, List.append_assoc]
    rfl

theorem isKept_of_isDigit {c : Char} (h : c.isDigit = true) : IsKept c :=
  of_isDigit (P := IsKept) (by decide +kernel) h

theorem lowerFrom_of_isDigit {ds : List Char} (h : ∀ d ∈ ds, d.isDigit = true)
    (before : List Char) : lowerFrom before ds = ds :=
  lowerFrom_of_isKept (fun d hd => isKept_of_isDigit (h d hd)) before

theorem toList_numbered (base : String) (n : Nat) :
    (s!"{base}_{n}").toList = base.toList ++ '_' :: Nat.toDigits 10 n := by
  simp [toString]

theorem lower_numbered (base : String) (n : Nat) :
    lower s!"{base}_{n}" =
      String.ofList (lowerFrom [] (base.toList ++ ['_']) ++ Nat.toDigits 10 n) := by
  rw [lower, toList_numbered, lowerFrom_underscore, lowerFrom_of_isDigit isDigit_toDigits]

theorem lower_numbered_injective (base : String) :
    Function.Injective fun n : Nat => lower s!"{base}_{n}" := by
  intro m n h
  have hdigits : Nat.toDigits 10 m = Nat.toDigits 10 n := by
    simpa only [lower_numbered, String.ofList_inj, List.append_cancel_left_eq] using h
  calc
    m = Nat.ofDigitChars 10 (Nat.toDigits 10 m) 0 := Nat.ofDigitChars_ten_toDigits.symm
    _ = Nat.ofDigitChars 10 (Nat.toDigits 10 n) 0 := by rw [hdigits]
    _ = n := Nat.ofDigitChars_ten_toDigits

end Text

namespace Named

variable {α : Type} {m : Named α} {name : String} {value : α}

theorem mem_names : name ∈ m.names ↔ m.contains name = true := by
  unfold names contains get?
  rw [List.lookup_isSome_iff, List.mem_map]
  exact ⟨fun ⟨e, he, hname⟩ => ⟨e, he, beq_iff_eq.mpr hname.symm⟩,
    fun ⟨e, he, hname⟩ => ⟨e, he, (beq_iff_eq.mp hname).symm⟩⟩

theorem mem_of_get? (h : m.get? name = some value) : (name, value) ∈ m.entries := by
  obtain ⟨before, after, hentries, -⟩ := List.lookup_eq_some_iff.mp h
  rw [hentries]
  exact List.mem_append_right _ List.mem_cons_self

/-- A new name goes to the end. -/
theorem entries_put (h : name ∉ m.names) (value : α) :
    (m.put name value).entries = m.entries ++ [(name, value)] := by
  obtain ⟨entries, hnodup⟩ := m
  change name ∉ entries.map Prod.fst at h
  change putEntry name value entries = entries ++ [(name, value)]
  clear hnodup
  induction entries with
  | nil => rfl
  | cons e rest ih =>
    rw [List.map_cons, List.mem_cons, not_or] at h
    rw [putEntry, if_neg (Ne.symm h.1), ih h.2]
    rfl

end Named

namespace FileName

variable {taken done : List String} {base id stem : String} {stems : Named String}

/-- Of the name itself and the name with the numbers from two on, the first that is not taken in any
letter case. -/
inductive FirstFree (taken : List String) (base : String) : String → Prop where
  | whole (h : Text.lower base ∉ taken) : FirstFree taken base base
  | numbered (n : Nat) (hn : 2 ≤ n) (htaken : Text.lower base ∈ taken)
      (hbefore : ∀ k, 2 ≤ k → k < n → Text.lower s!"{base}_{k}" ∈ taken)
      (hfree : Text.lower s!"{base}_{n}" ∉ taken) : FirstFree taken base s!"{base}_{n}"

theorem FirstFree.not_mem (h : FirstFree taken base stem) : Text.lower stem ∉ taken := by
  cases h with
  | whole h => exact h
  | numbered n _ _ _ h => exact h

/-- The search ends at a free name, or once all that it may try are taken. -/
theorem freeFrom_search (taken : List String) (base : String) (fuel number : Nat) :
    ∃ n, number ≤ n ∧ freeFrom taken base fuel number = s!"{base}_{n}" ∧
      (∀ k, number ≤ k → k < n → Text.lower s!"{base}_{k}" ∈ taken) ∧
      (Text.lower s!"{base}_{n}" ∉ taken ∨ n = number + fuel) := by
  induction fuel generalizing number with
  | zero => exact ⟨number, Nat.le_refl _, rfl, fun k hk hlt => absurd hk (Nat.not_le.mpr hlt), .inr rfl⟩
  | succ fuel ih =>
    rw [freeFrom]
    by_cases hcandidate : taken.contains (Text.lower s!"{base}_{number}") = true
    · rw [if_pos hcandidate]
      obtain ⟨n, hn, hfound, hbefore, hends⟩ := ih (number + 1)
      refine ⟨n, by omega, hfound, fun k hk hlt => ?_, hends.imp_right fun h => by omega⟩
      obtain rfl | hk := Nat.eq_or_lt_of_le hk
      · exact List.contains_iff_mem.mp hcandidate
      · exact hbefore k hk hlt
    · rw [if_neg hcandidate]
      exact ⟨number, Nat.le_refl _, rfl, fun k hk hlt => absurd hk (Nat.not_le.mpr hlt),
        .inl fun hmem => hcandidate (List.contains_iff_mem.mpr hmem)⟩

/-- There are no more numbers in a row that are taken than names that are. -/
theorem numbers_taken {count : Nat}
    (h : ∀ k, 2 ≤ k → k < 2 + count → Text.lower s!"{base}_{k}" ∈ taken) :
    count ≤ taken.length := by
  let names := (List.range count).map fun k => Text.lower s!"{base}_{2 + k}"
  have hnodup : names.Nodup := List.Nodup.map
    (fun j k h => Nat.add_left_cancel (Text.lower_numbered_injective base h)) List.nodup_range
  have hsubset : names ⊆ taken := by
    intro name hname
    obtain ⟨k, hk, rfl⟩ := List.mem_map.mp hname
    exact h (2 + k) (Nat.le_add_right 2 k) (Nat.add_lt_add_left (List.mem_range.mp hk) 2)
  have hlength := (hnodup.subperm hsubset).length_le
  rwa [List.length_map, List.length_range] at hlength

theorem free_first (taken : List String) (base : String) :
    FirstFree taken base (free taken base) := by
  unfold free
  by_cases hbase : taken.contains (Text.lower base) = true
  · rw [if_pos hbase]
    obtain ⟨n, hn, hfound, hbefore, hends⟩ := freeFrom_search taken base (taken.length + 1) 2
    rw [hfound]
    refine .numbered n hn (List.contains_iff_mem.mp hbase) hbefore ?_
    obtain hfree | rfl := hends
    · exact hfree
    · exact absurd (numbers_taken hbefore) (Nat.not_succ_le_self _)
  · rw [if_neg hbase]
    exact .whole fun hmem => hbase (List.contains_iff_mem.mpr hmem)

/-- Each id has the first name that those before it leave free. -/
def Earned (entries : List (String × String)) : Prop :=
  ∀ before id stem after, entries = before ++ (id, stem) :: after →
    FirstFree (before.map fun e => Text.lower e.2) (sanitize id) stem

namespace Earned

variable {entries : List (String × String)}

theorem concat (h : Earned entries)
    (hfree : FirstFree (entries.map fun e => Text.lower e.2) (sanitize id) stem) :
    Earned (entries ++ [(id, stem)]) := by
  intro before id' stem' after heq
  obtain rfl | ⟨after, e, rfl⟩ := List.eq_nil_or_concat after
  · obtain ⟨rfl, he⟩ := List.append_inj' heq rfl
    cases he
    exact hfree
  · rw [List.concat_eq_append, ← List.cons_append, ← List.append_assoc] at heq
    obtain ⟨rfl, -⟩ := List.append_inj' heq rfl
    exact h _ _ _ _ rfl

/-- No two names are the same in any letter case. -/
theorem nodup (h : Earned entries) : (entries.map fun e => Text.lower e.2).Nodup := by
  induction entries using List.reverseRecOn with
  | nil => exact List.nodup_nil
  | append_singleton before e ih =>
    have hbefore : Earned before := fun first id stem after heq =>
      h first id stem (after ++ [e]) (by rw [heq, List.append_assoc]; rfl)
    have hfree := (h before e.1 e.2 [] rfl).not_mem
    rw [List.map_append, List.nodup_append]
    refine ⟨ih hbefore, List.pairwise_singleton .., fun x hx y hy hxy => hfree ?_⟩
    rwa [hxy, List.mem_singleton.mp hy] at hx

theorem apart (h : Earned stems.entries) {a b x y : String} (hx : stems.get? a = some x)
    (hy : stems.get? b = some y) (hxy : Text.lower x = Text.lower y) : a = b :=
  congrArg Prod.fst
    (List.inj_on_of_nodup_map h.nodup (Named.mem_of_get? hx) (Named.mem_of_get? hy) hxy)

end Earned

/-- What was given for the ids that are done. -/
structure Given (done taken : List String) (stems : Named String) : Prop where
  names : stems.names = done.eraseDups
  taken : taken = stems.entries.map fun e => Text.lower e.2
  earned : Earned stems.entries

theorem Given.again (h : Given done taken stems) (hid : stems.contains id = true) :
    Given (done ++ [id]) taken stems where
  names := by
    have hdone : id ∈ done := List.mem_eraseDups.mp (h.names ▸ Named.mem_names.mpr hid)
    rw [List.eraseDups_append, h.names]
    simp [List.removeAll, hdone]
  taken := h.taken
  earned := h.earned

theorem Given.put (h : Given done taken stems) (hid : ¬ stems.contains id = true)
    (hfree : FirstFree taken (sanitize id) stem) :
    Given (done ++ [id]) (taken ++ [Text.lower stem]) (stems.put id stem) := by
  have hnew : id ∉ stems.names := fun hmem => hid (Named.mem_names.mp hmem)
  have hentries := Named.entries_put hnew stem
  refine ⟨?_, ?_, ?_⟩
  · have hdone : id ∉ done := fun hmem => hnew (h.names ▸ List.mem_eraseDups.mpr hmem)
    rw [Named.names, hentries, List.map_append, List.eraseDups_append, ← h.names]
    simp [List.removeAll, List.eraseDups_cons, hdone, Named.names]
  · rw [hentries, List.map_append, ← h.taken]
    rfl
  · rw [hentries]
    exact h.earned.concat (h.taken ▸ hfree)

theorem stemsFrom_returns (h : Given done taken stems) (ids : List String) :
    (stemsFrom taken stems ids).Returns fun m => ∃ taken', Given (done ++ ids) taken' m := by
  induction ids generalizing done taken stems with
  | nil => exact .pure ⟨taken, by rwa [List.append_nil]⟩
  | cons id rest ih =>
    rw [stemsFrom, ← List.singleton_append, ← List.append_assoc]
    split
    · rename_i hknown
      exact ih (h.again hknown)
    · rename_i hnew
      have hrest := ih (h.put hnew (free_first taken (sanitize id)))
      dsimp only
      split
      · exact (Report.Returns.warn _).bind fun _ _ => hrest
      · exact hrest

/-- Each id has a name, in the order in which the ids come first: the first that is left. -/
theorem stems_returns (ids : List String) :
    (FileName.stems ids).Returns fun m => m.names = ids.eraseDups ∧ Earned m.entries := by
  have hnone : Given [] [] (Named.empty : Named String) :=
    ⟨rfl, rfl, fun before id stem after heq => by simp [Named.empty] at heq⟩
  exact (stemsFrom_returns hnone ids).mono fun m ⟨_, hm⟩ => ⟨hm.names, hm.earned⟩

end FileName

end CardPress
