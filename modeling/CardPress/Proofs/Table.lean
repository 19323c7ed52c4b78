import CardPress.Proofs.Files.Names
import CardPress.Proofs.Files.Tree
import CardPress.Proofs.Text.Trim
import CardPress.Table.File
import Mathlib.Data.List.Forall2

/-! Tables: each row that says something makes one card, under its own id or under its number. -/
namespace CardPress

/-! What a cell says. -/

namespace Text

theorem trim_of_solid {s : String} (h : ∀ c ∈ s.toList, isBlank c = false) : trim s = s := by
  rw [trim, trimList, dropWhile_eq_self fun c hc => h c (List.mem_of_mem_head? hc),
    dropEndWhile_eq_self fun c hc => h c (List.mem_of_mem_getLast? hc), String.ofList_toList]

theorem trim_trim (s : String) : trim (trim s) = trim s := by
  unfold trim
  rw [String.toList_ofList]
  obtain hnone | htight := trimList_cases s.toList
  · rw [hnone]
    rfl
  · rw [htight.trimList]

theorem isBlank_of_isDigit {c : Char} (h : c.isDigit = true) : isBlank c = false :=
  of_isDigit (P := fun c => isBlank c = false) (by decide) h

end Text

namespace Shortest

open Text

theorem solid_toDigits (n : Nat) : ∀ d ∈ Nat.toDigits 10 n, isBlank d = false := fun d hd =>
  isBlank_of_isDigit (isDigit_toDigits d hd)

theorem solid_zeros (n : Nat) : ∀ d ∈ List.replicate n '0', isBlank d = false := fun d hd => by
  rw [List.eq_of_mem_replicate hd]
  decide

theorem solid_layOut (c : Nat) (p : Int) : ∀ d ∈ (layOut c p).toList, isBlank d = false := by
  have hmarks : isBlank '.' = false ∧ isBlank '0' = false ∧ isBlank 'e' = false ∧ isBlank '-' = false ∧
      isBlank '+' = false := by decide
  have hdigits := solid_toDigits c
  unfold layOut
  dsimp only
  split
  · split
    · rw [String.toList_ofList, List.forall_mem_append, List.forall_mem_append]
      exact ⟨⟨hdigits, solid_zeros _⟩, by simp [hmarks]⟩
    split
    · rw [String.toList_ofList, List.forall_mem_append, List.forall_mem_cons]
      exact ⟨fun d hd => hdigits d (List.mem_of_mem_take hd), hmarks.1,
        fun d hd => hdigits d (List.mem_of_mem_drop hd)⟩
    · rw [String.toList_ofList, List.cons_append, List.cons_append, List.forall_mem_cons,
        List.forall_mem_cons, List.forall_mem_append]
      exact ⟨hmarks.2.1, hmarks.1, solid_zeros _, hdigits⟩
  · have hpower := solid_toDigits (p + (Nat.toDigits 10 c).length - 1).natAbs
    rw [String.toList_ofList, List.forall_mem_append, List.forall_mem_cons, List.forall_mem_cons]
    refine ⟨?_, hmarks.2.2.1, ?_, ?_⟩
    · split
      · exact List.forall_mem_nil _
      · exact List.forall_mem_singleton.mpr (hdigits _ (by simp [*]))
      · rename_i d rest _ hall
        rw [hall, List.forall_mem_cons] at hdigits
        exact List.forall_mem_cons.mpr ⟨hdigits.1, List.forall_mem_cons.mpr ⟨hmarks.1, hdigits.2⟩⟩
    · split
      · exact hmarks.2.2.2.1
      · exact hmarks.2.2.2.2
    · split
      · exact List.forall_mem_cons.mpr ⟨hmarks.2.1, hpower⟩
      · exact hpower

theorem solid_text (x : Float) : ∀ d ∈ (text x).toList, isBlank d = false := by
  have hnames : ∀ s ∈ ["nan", "inf", "-inf", "0.0"], ∀ d ∈ s.toList, isBlank d = false := by
    have hany : ∀ s ∈ ["nan", "inf", "-inf", "0.0"], s.toList.any isBlank = false := by decide
    exact fun s hs => none_of_any (hany s hs)
  unfold text
  split
  · exact hnames _ (by simp)
  · split <;> exact hnames _ (by simp)
  · dsimp only
    split
    · rw [String.toList_append, List.forall_mem_append]
      refine ⟨none_of_any (by decide), ?_⟩
      split
      · exact hnames _ (by simp)
      · exact solid_layOut _ _
    · split
      · exact hnames _ (by simp)
      · exact solid_layOut _ _

end Shortest

namespace Cell

open Text

theorem solid_toString (n : Int) : ∀ d ∈ (toString n).toList, isBlank d = false := by
  have hnat (n : Nat) : ∀ d ∈ (toString n).toList, isBlank d = false := by
    rw [Nat.toString_eq_ofList_toDigits, String.toList_ofList]
    exact Shortest.solid_toDigits n
  cases n with
  | ofNat n => exact hnat n
  | negSucc n =>
    change ∀ d ∈ ("-" ++ toString (n + 1)).toList, isBlank d = false
    rw [String.toList_append, List.forall_mem_append]
    exact ⟨none_of_any (by decide), hnat (n + 1)⟩

theorem solid_realText (x : Float) : ∀ d ∈ (realText x).toList, isBlank d = false := by
  unfold realText
  split
  · split
    · exact solid_toString _
    · exact Shortest.solid_text x
  · exact Shortest.solid_text x

/-- No blanks are left around what a cell says. -/
theorem trim_content (c : Cell) : trim c.content = c.content := by
  cases c with
  | empty => rfl
  | text s => exact trim_trim s
  | bool b => cases b <;> decide
  | whole n => exact trim_of_solid (solid_toString n)
  | real x => exact trim_of_solid (solid_realText x)

end Cell

namespace Named

variable {α : Type} {m : Named α} {name : String} {value : α} {entries : List (String × α)}

theorem names_put (m : Named α) (name : String) (value : α) :
    (m.put name value).names = if name ∈ m.names then m.names else m.names ++ [name] :=
  map_fst_putEntry name value m.entries

/-- Names that are given once are kept as they are given. -/
theorem entries_ofList (h : (entries.map Prod.fst).Nodup) : (ofList entries).entries = entries := by
  induction entries using List.reverseRecOn with
  | nil => rfl
  | append_singleton entries e ih =>
    rw [List.map_append, List.map_singleton, List.nodup_append] at h
    obtain ⟨hnodup, -, hapart⟩ := h
    have hnew : e.1 ∉ (ofList entries).names := by
      rw [names, ih hnodup]
      exact fun hmem => hapart _ hmem _ List.mem_cons_self rfl
    rw [ofList, List.foldl_append]
    exact (entries_put hnew e.2).trans (by rw [ih hnodup])

end Named

namespace Table

variable {names values : List String} {name value : String} {k : Nat}

theorem eraseDups_concat (names : List String) (name : String) : (names ++ [name]).eraseDups =
    if name ∈ names.eraseDups then names.eraseDups else names.eraseDups ++ [name] := by
  rw [List.eraseDups_append]
  by_cases h : name ∈ names
  · rw [if_pos (List.mem_eraseDups.mpr h)]
    simp [List.removeAll, h]
  · rw [if_neg (List.mem_eraseDups.not.mpr h)]
    simp [List.removeAll, h, List.eraseDups_cons]

theorem filter_eraseDups (p : String → Bool) (names : List String) :
    names.eraseDups.filter p = (names.filter p).eraseDups := by
  induction names using List.reverseRecOn with
  | nil => rfl
  | append_singleton names name ih =>
    rw [eraseDups_concat, List.filter_append]
    by_cases hp : p name = true
    · have hkept : [name].filter p = [name] := by simp [hp]
      have hmem : name ∈ (names.filter p).eraseDups ↔ name ∈ names.eraseDups := by
        rw [List.mem_eraseDups, List.mem_eraseDups, List.mem_filter, and_iff_left hp]
      rw [hkept, eraseDups_concat]
      by_cases h : name ∈ names.eraseDups
      · rw [if_pos h, if_pos (hmem.mpr h), ih]
      · rw [if_neg h, if_neg (hmem.not.mpr h), List.filter_append, hkept, ih]
    · have hdropped : [name].filter p = [] := by simp [hp]
      rw [hdropped, List.append_nil]
      split
      · exact ih
      · rw [List.filter_append, hdropped, List.append_nil, ih]

/-- The place of the last column of a name. -/
def IsLastColumn (names : List String) (name : String) (k : Nat) : Prop :=
  names[k]? = some name ∧ ∀ j, k < j → names[j]? ≠ some name

theorem isLastColumn_concat {other : String} : IsLastColumn (names ++ [other]) name k ↔
    other = name ∧ k = names.length ∨ other ≠ name ∧ IsLastColumn names name k := by
  have hbefore {j : Nat} (h : j < names.length) : (names ++ [other])[j]? = names[j]? :=
    List.getElem?_append_left h
  have hlast : (names ++ [other])[names.length]? = some other := List.getElem?_concat_length
  have hbehind {j : Nat} (h : names.length < j) : (names ++ [other])[j]? = none :=
    List.getElem?_eq_none (by rw [List.length_append]; exact h)
  constructor
  · rintro ⟨hk, hlater⟩
    obtain hlt | rfl | hgt := Nat.lt_trichotomy k names.length
    · have hother : other ≠ name := fun h => hlater _ hlt (by rw [hlast, h])
      refine .inr ⟨hother, by rwa [hbefore hlt] at hk, fun j hj => ?_⟩
      by_cases hj' : j < names.length
      · rw [← hbefore hj']
        exact hlater j hj
      · rw [List.getElem?_eq_none (Nat.not_lt.mp hj')]
        exact nofun
    · rw [hlast, Option.some_inj] at hk
      exact .inl ⟨hk, rfl⟩
    · rw [hbehind hgt] at hk
      cases hk
  · rintro (⟨rfl, rfl⟩ | ⟨hother, hk, hlater⟩)
    · exact ⟨hlast, fun j hj => by rw [hbehind hj]; exact nofun⟩
    · have hlt : k < names.length := (List.getElem?_eq_some_iff.mp hk).1
      refine ⟨by rwa [hbefore hlt], fun j hj => ?_⟩
      obtain hj' | rfl | hj' := Nat.lt_trichotomy j names.length
      · rw [hbefore hj']
        exact hlater j hj
      · rw [hlast, Ne, Option.some_inj]
        exact hother
      · rw [hbehind hj']
        exact nofun

/-- One more column: it has no name, or it counts for its name. -/
theorem named_concat (names values : List String) (name : String) :
    named (names ++ [name]) values =
      if name = "" then named names values
      else (named names values).put name (values.getD names.length "") := by
  unfold named
  rw [List.zipIdx_append, List.filter_append, List.map_append]
  by_cases hname : name = ""
  · simp [hname]
  · simp [hname, Named.ofList]

/-- The names of a row are those of its columns, where they stand first. -/
theorem names_named (names values : List String) :
    (named names values).names = (names.filter (· != "")).eraseDups := by
  induction names using List.reverseRecOn with
  | nil => rfl
  | append_singleton names name ih =>
    rw [named_concat, List.filter_append]
    by_cases hname : name = ""
    · simp [hname, ih]
    · have hkept : [name].filter (· != "") = [name] := by simp [hname]
      rw [if_neg hname, Named.names_put, ih, hkept, eraseDups_concat]

/-- In a row the cell of the last column of a name counts. -/
theorem get?_named : (named names values).get? name = some value ↔
    name ≠ "" ∧ ∃ k, IsLastColumn names name k ∧ value = values.getD k "" := by
  induction names using List.reverseRecOn with
  | nil =>
    constructor
    · exact nofun
    · rintro ⟨-, k, ⟨hk, -⟩, -⟩
      cases hk
  | append_singleton names other ih =>
    rw [named_concat]
    simp only [isLastColumn_concat]
    by_cases hother : other = ""
    · subst hother
      rw [if_pos rfl, ih]
      constructor
      · rintro ⟨hname, k, hk, hvalue⟩
        exact ⟨hname, k, .inr ⟨Ne.symm hname, hk⟩, hvalue⟩
      · rintro ⟨hname, k, ⟨hempty, -⟩ | ⟨-, hk⟩, hvalue⟩
        · exact absurd hempty.symm hname
        · exact ⟨hname, k, hk, hvalue⟩
    · rw [if_neg hother, Named.get?_put]
      by_cases hname : name = other
      · subst hname
        rw [if_pos rfl, Option.some_inj]
        constructor
        · rintro rfl
          exact ⟨hother, _, .inl ⟨rfl, rfl⟩, rfl⟩
        · rintro ⟨-, k, ⟨-, rfl⟩ | ⟨hne, -⟩, hvalue⟩
          · exact hvalue.symm
          · exact absurd rfl hne
      · rw [if_neg hname, ih]
        constructor
        · rintro ⟨hne, k, hk, hvalue⟩
          exact ⟨hne, k, .inr ⟨Ne.symm hname, hk⟩, hvalue⟩
        · rintro ⟨hne, k, ⟨hsame, -⟩ | ⟨-, hk⟩, hvalue⟩
          · exact absurd hsame.symm hname
          · exact ⟨hne, k, hk, hvalue⟩

/-- What a row says in a column; where it is too short it says nothing. -/
def cellText (row : List Cell) (column : Nat) : String := (row.map Cell.content).getD column ""

/-- A row that says something, be it beyond the header. -/
def isFilled (row : List Cell) : Bool := row.any (·.content != "")

theorem rows_eq (header : List Cell) (body : List (List Cell)) :
    rows header body = (body.filter isFilled).map fun row =>
      named (header.map Cell.content) (row.map Cell.content) := by
  rw [rows, List.filter_map, List.map_map]
  have hfilled : ((fun values => values.any (· != "")) ∘ fun row : List Cell => row.map Cell.content) =
      isFilled := by
    funext row
    exact List.any_map
  rw [hfilled]
  rfl

theorem trim_cellText (row : List Cell) (column : Nat) :
    Text.trim (cellText row column) = cellText row column := by
  rw [cellText, List.getD_eq_getElem?_getD, List.getElem?_map]
  cases row[column]? with
  | none => decide
  | some c => exact c.trim_content

end Table

namespace Card

open Table Text

variable {stem : Option String} {number : Nat} {row : Named String}

/-! The ids of rows that give none. -/

/-- A number with zeros in front, four places long if it has no more. -/
def padded (number : Nat) : List Char :=
  List.replicate (4 - (Nat.toDigits 10 number).length) '0' ++ Nat.toDigits 10 number

/-- What stands before the number. -/
def idStart (stem : Option String) : List Char :=
  match stem with
  | none => []
  | some s => if s = "" then [] else s.toList ++ ['_']

theorem toList_numberedId (stem : Option String) (number : Nat) :
    (numberedId stem number).toList = idStart stem ++ padded number := by
  have hdigits : toString number = String.ofList (Nat.toDigits 10 number) :=
    Nat.toString_eq_ofList_toDigits
  unfold numberedId idStart padded
  cases stem with
  | none => simp [hdigits]
  | some s => by_cases hs : s = "" <;> simp [hdigits, hs]

theorem isDigit_padded : ∀ d ∈ padded number, d.isDigit = true := by
  refine List.forall_mem_append.mpr ⟨fun d hd => ?_, isDigit_toDigits⟩
  rw [List.eq_of_mem_replicate hd]
  rfl

theorem value_padded (number : Nat) : Whole.value (padded number) = number := by
  have hzeros (k : Nat) (ds : List Char) : Whole.value (List.replicate k '0' ++ ds) = Whole.value ds := by
    induction k with
    | zero => rfl
    | succ k ih => exact ih
  rw [padded, hzeros, Whole.value_toDigits]

/-- No two rows of a file have the same number, however many there are. -/
theorem numberedId_inj (stem : Option String) : Function.Injective (numberedId stem) := by
  intro m n h
  have hpadded : padded m = padded n := by
    have hlist := congrArg String.toList h
    rwa [toList_numberedId, toList_numberedId, List.append_cancel_left_eq] at hlist
  calc
    m = Whole.value (padded m) := (value_padded m).symm
    _ = Whole.value (padded n) := by rw [hpadded]
    _ = n := value_padded n

/-- Files of different names give their rows different ids. -/
theorem numberedId_inj_some {s s' : String} {m n : Nat} (hs : s ≠ "") (hs' : s' ≠ "")
    (h : numberedId (some s) m = numberedId (some s') n) : s = s' ∧ m = n := by
  have hend (cs : List Char) (n : Nat) :
      (cs ++ ['_'] ++ padded n).reverse.takeWhile Char.isDigit = (padded n).reverse := by
    rw [List.reverse_append, List.reverse_append,
      List.takeWhile_append_of_pos fun d hd => isDigit_padded d (List.mem_reverse.mp hd)]
    exact List.append_nil _
  have hlist := congrArg String.toList h
  rw [toList_numberedId, toList_numberedId, idStart, idStart, if_neg hs, if_neg hs'] at hlist
  have hpadded : padded m = padded n := by
    rw [← List.reverse_inj, ← hend s.toList m, hlist, hend]
  rw [hpadded, List.append_cancel_right_eq, List.append_cancel_right_eq, String.toList_inj] at hlist
  obtain rfl := hlist
  exact ⟨rfl, numberedId_inj (some s) h⟩

/-! The card of a row. -/

theorem entries_fields (stem : Option String) (number : Nat) (row : Named String) :
    (ofRow stem number row).fields.entries = row.entries.filter fun e => e.1 != "id" :=
  Named.entries_ofList (row.nodup.sublist (List.filter_sublist.map Prod.fst))

theorem names_fields (stem : Option String) (number : Nat) (row : Named String) :
    (ofRow stem number row).fields.names = row.names.filter (· != "id") := by
  rw [Named.names, entries_fields, Named.names, List.filter_map]
  rfl

theorem get?_fields (stem : Option String) (number : Nat) (row : Named String) (name : String) :
    (ofRow stem number row).fields.get? name = if name = "id" then none else row.get? name := by
  rw [Named.get?, entries_fields, lookup_filter (· != "id")]
  by_cases hname : name = "id"
  · simp [hname]
  · simp [hname, Named.get?]

/-- The id that a row gives; empty if it gives none. -/
def givenId (row : Named String) : String := trim ((row.get? "id").getD "")

theorem id_ofRow (stem : Option String) (number : Nat) (row : Named String) :
    (ofRow stem number row).id = if givenId row = "" then numberedId stem number else givenId row := by
  unfold ofRow givenId
  rfl

/-- The card that a row makes: its fields are those of the named columns but for the id, and its id is the
one in the row, or else is made from the number of the row. -/
structure IsOfRow (stem : Option String) (header : List Cell) (number : Nat) (row : List Cell) (card : Card) :
    Prop where
  names : card.fields.names =
    ((header.map Cell.content).filter fun name => name != "" && name != "id").eraseDups
  values : ∀ name value, card.fields.get? name = some value ↔ name ≠ "" ∧ name ≠ "id" ∧
    ∃ column, IsLastColumn (header.map Cell.content) name column ∧ value = cellText row column
  id : (∃ column, IsLastColumn (header.map Cell.content) "id" column ∧ cellText row column ≠ "" ∧
      card.id = cellText row column) ∨
    (∀ column, IsLastColumn (header.map Cell.content) "id" column → cellText row column = "") ∧
      card.id = numberedId stem number

theorem isOfRow_ofRow (stem : Option String) (header : List Cell) (number : Nat) (row : List Cell) :
    IsOfRow stem header number row
      (ofRow stem number (named (header.map Cell.content) (row.map Cell.content))) where
  names := by
    rw [names_fields, names_named, filter_eraseDups, List.filter_filter]
    congr 2
    funext name
    exact Bool.and_comm _ _
  values name value := by
    rw [get?_fields]
    by_cases hname : name = "id"
    · simp [hname]
    · rw [if_neg hname, get?_named]
      simp [hname, cellText]
  id := by
    have hcell {column : Nat} (h : IsLastColumn (header.map Cell.content) "id" column) :
        (named (header.map Cell.content) (row.map Cell.content)).get? "id" = some (cellText row column) :=
      get?_named.mpr ⟨by decide, column, h, rfl⟩
    rw [id_ofRow, givenId]
    cases hget : (named (header.map Cell.content) (row.map Cell.content)).get? "id" with
    | none =>
      refine .inr ⟨fun column h => ?_, rfl⟩
      rw [hcell h] at hget
      cases hget
    | some value =>
      obtain ⟨-, column, hlast, hvalue⟩ := get?_named.mp hget
      change value = cellText row column at hvalue
      rw [Option.getD_some, hvalue, trim_cellText]
      by_cases hempty : cellText row column = ""
      · rw [if_pos hempty]
        refine .inr ⟨fun other h => ?_, rfl⟩
        rw [hcell h, Option.some_inj] at hget
        rw [hget, hvalue, hempty]
      · rw [if_neg hempty]
        exact .inl ⟨column, hlast, hempty, rfl⟩

theorem ofRows_rows (stem : Option String) (header : List Cell) (body : List (List Cell)) :
    ofRows stem (rows header body) = ((body.filter isFilled).zipIdx 1).map fun r =>
      ofRow stem r.2 (named (header.map Cell.content) (r.1.map Cell.content)) := by
  rw [ofRows, rows_eq, List.zipIdx_map, List.map_map, List.zipIdx_succ, List.map_map]
  rfl

end Card

end CardPress
