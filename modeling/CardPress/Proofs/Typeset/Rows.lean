import CardPress.Proofs.Typeset.Tokens
import CardPress.Proofs.Typeset.WholeWords

/-! How lines come about: each line with the blanks dropped at its end and the reason why it ends.
What one piece of text does to the lines is said once; all that is known of whole texts follows. -/
namespace CardPress.Typeset

variable {α : Type}

def Piece.isNewline : Piece α → Bool
  | fragment _ => false
  | newline _ => true

/-- Why a line ends. -/
inductive Ending (α : Type) where
  | newline (run : TextRun α)
  | full
  | last (fallback : Option (TextRun α))

namespace Ending

def isHard : Ending α → Bool
  | full => false
  | newline _ | last _ => true

theorem eq_full_of_isHard {e : Ending α} (h : e.isHard = false) : e = full := by
  cases e with
  | full => rfl
  | newline _ | last _ => cases h

def fallback : Ending α → Option (TextRun α)
  | newline run => some run
  | full => none
  | last fallback => fallback

def pieces : Ending α → List (Piece α)
  | newline run => [.newline run]
  | full | last _ => []

end Ending

/-- A line and the blanks that were dropped at its end. -/
structure Row (α : Type) where
  kept : List (Fragment α)
  dropped : List (Fragment α)
  ending : Ending α

namespace Row

def line (r : Row α) : TextLine α := ⟨r.kept, r.ending.fallback, r.ending.isHard⟩

/-- The text that went into the line. -/
def pieces (r : Row α) : List (Piece α) :=
  (r.kept ++ r.dropped).map Piece.fragment ++ r.ending.pieces

/-- Fragments that end as a line. -/
def ofFragments (fragments : List (Fragment α)) (ending : Ending α) : Row α :=
  ⟨dropEndBlanks fragments, fragments.rtakeWhile (·.isBlank), ending⟩

end Row

/-- The first word of the next line did not fit on this line any more, whose blanks count. -/
def Row.WrapsBefore [Scalar α] (maxWidth : α) (r : Row α) (next : List (Fragment α)) : Prop :=
  r.ending = .full → (∃ f ∈ next.head?, f.isBlank = false) ∧
    ∃ word ∈ (lineWords next).head?,
      maxWidth < totalWidth (r.kept ++ r.dropped) + totalWidth word

/-- If there is more than one word, the last one fits behind what was there. -/
def Fitted [Scalar α] (maxWidth : α) (fragments : List (Fragment α)) : Prop :=
  2 ≤ (lineWords fragments).length → ∃ before word, dropEndBlanks fragments = before ++ word ∧
    ¬ maxWidth < totalWidth before + totalWidth word

namespace Fitted

variable [Scalar α] {maxWidth : α} {fragments word : List (Fragment α)}

theorem of_few (h : (lineWords fragments).length < 2) : Fitted maxWidth fragments :=
  fun hmany => absurd hmany (Nat.not_le.mpr h)

theorem concat_blank (h : Fitted maxWidth fragments) {f : Fragment α} (hf : f.isBlank = true) :
    Fitted maxWidth (fragments ++ [f]) := by
  intro hmany
  rw [lineWords_append_blanks (by simpa using hf)] at hmany
  rw [dropEndBlanks_concat_blank hf]
  exact h hmany

theorem append_word (hready : ∀ f ∈ fragments.getLast?, f.isBlank = true) (hne : word ≠ [])
    (hword : ∀ f ∈ word, f.isBlank = false)
    (hroom : fragments.any (!·.isBlank) = true →
      ¬ maxWidth < totalWidth fragments + totalWidth word) :
    Fitted maxWidth (fragments ++ word) := by
  by_cases hany : fragments.any (!·.isBlank) = true
  · refine fun _ => ⟨fragments, word, dropEndBlanks_of_last fun f hf => hword f ?_, hroom hany⟩
    rw [List.getLast?_append_of_ne_nil _ hne] at hf
    exact List.mem_of_getLast? hf
  · refine of_few ?_
    have hblanks : ∀ f ∈ fragments, f.isBlank = true := by simpa using hany
    simp [lineWords_append_word hready hne hword, lineWords_blanks hblanks]

theorem dropEndBlanks (h : Fitted maxWidth fragments) :
    Fitted maxWidth (dropEndBlanks fragments) := by
  intro hmany
  rw [lineWords_dropEndBlanks] at hmany
  rw [dropEndBlanks_of_last fun f hf => last_dropEndBlanks hf]
  exact h hmany

end Fitted

structure Row.Sound [Scalar α] (maxWidth : α) (r : Row α) : Prop where
  dropped : ∀ f ∈ r.dropped, f.isBlank = true
  kept : ∀ f ∈ r.kept.getLast?, f.isBlank = false
  fits : Fitted maxWidth r.kept

/-- A line that more text may follow ends at a break. -/
structure Row.Ended (r : Row α) : Prop where
  reason : r.ending = .full ∨ ∃ run, r.ending = .newline run
  last : ∃ p ∈ r.pieces.getLast?, p.isBreak = true

/-- What is known of the lines set so far: they hold the text that was read, and each of them ends
where it has to. -/
structure Setting.Accounts [Scalar α] (maxWidth : α) (ps : List (Piece α)) (rows : List (Row α))
    (s : Setting α) : Prop where
  done : s.done = rows.map Row.line
  pieces : rows.flatMap Row.pieces ++ (s.current ++ s.word).map Piece.fragment = ps
  word : ∀ f ∈ s.word, f.isBlank = false
  current : Fitted maxWidth s.current
  sound : ∀ r ∈ rows, r.Sound maxWidth
  ended : ∀ r ∈ rows, r.Ended
  wraps : rows.IsChain fun r next => r.WrapsBefore maxWidth next.kept
  wrapped : ∀ r ∈ rows.getLast?, r.WrapsBefore maxWidth s.current

namespace Row

variable [Scalar α] {maxWidth : α} {r : Row α} {next word fragments : List (Fragment α)}

namespace WrapsBefore

theorem append (h : r.WrapsBefore maxWidth next) {more : List (Fragment α)}
    (hwords : ∃ others, lineWords (next ++ more) = lineWords next ++ others) :
    r.WrapsBefore maxWidth (next ++ more) := by
  intro hfull
  obtain ⟨⟨f, hf, hword⟩, word, hhead, hwide⟩ := h hfull
  obtain ⟨others, hothers⟩ := hwords
  refine ⟨⟨f, List.mem_head?_append_of_mem_head? hf, hword⟩, word, ?_, hwide⟩
  rw [hothers]
  exact List.mem_head?_append_of_mem_head? hhead

theorem dropEndBlanks (h : r.WrapsBefore maxWidth next) :
    r.WrapsBefore maxWidth (dropEndBlanks next) := by
  intro hfull
  obtain ⟨⟨f, hf, hword⟩, hwide⟩ := h hfull
  refine ⟨⟨f, ?_, hword⟩, by rwa [lineWords_dropEndBlanks]⟩
  obtain ⟨rest, rfl⟩ := List.head?_eq_some_iff.mp hf
  rw [dropEndBlanks_cons_word hword]
  rfl

/-- A line that was full for a word wraps before it. -/
theorem full (hne : word ≠ []) (hword : ∀ f ∈ word, f.isBlank = false)
    (hwide : maxWidth < totalWidth fragments + totalWidth word) :
    (ofFragments fragments .full).WrapsBefore maxWidth word := by
  intro _
  obtain ⟨f, rest, rfl⟩ := List.exists_cons_of_ne_nil hne
  refine ⟨⟨f, rfl, hword f (by simp)⟩, f :: rest, by simp [lineWords_word hne hword], ?_⟩
  rwa [ofFragments, dropEndBlanks_append_dropped]

end WrapsBefore

omit [Scalar α] in
theorem pieces_ofFragments (fragments : List (Fragment α)) (ending : Ending α) :
    (ofFragments fragments ending).pieces = fragments.map Piece.fragment ++ ending.pieces := by
  rw [pieces, ofFragments, dropEndBlanks_append_dropped]

theorem Sound.ofFragments (h : Fitted maxWidth fragments) (ending : Ending α) :
    (ofFragments fragments ending).Sound maxWidth where
  dropped _ hf := isBlank_of_dropped hf
  kept _ hf := last_dropEndBlanks hf
  fits := h.dropEndBlanks

omit [Scalar α] in
theorem Ended.newline (fragments : List (Fragment α)) (run : TextRun α) :
    (Row.ofFragments fragments (.newline run)).Ended where
  reason := .inr ⟨run, rfl⟩
  last := ⟨.newline run, by simp [pieces_ofFragments, Ending.pieces], rfl⟩

omit [Scalar α] in
theorem Ended.full {f : Fragment α} (hlast : f ∈ fragments.getLast?) (hf : f.isBlank = true) :
    (Row.ofFragments fragments .full).Ended where
  reason := .inl rfl
  last := by
    refine ⟨.fragment f, ?_, hf⟩
    have hpieces : (Row.ofFragments fragments .full).pieces = fragments.map Piece.fragment := by
      simp [pieces_ofFragments, Ending.pieces]
    rw [hpieces, List.getLast?_map, Option.mem_def.mp hlast]
    rfl

end Row

namespace Setting.Accounts

variable [Scalar α] {maxWidth : α} {ps : List (Piece α)} {rows : List (Row α)} {s : Setting α}

theorem start (maxWidth : α) : Accounts maxWidth [] [] {} where
  done := rfl
  pieces := rfl
  word := by simp
  current := .of_few (by simp [lineWords])
  sound := by simp
  ended := by simp
  wraps := .nil
  wrapped := by simp

theorem letter (h : s.Accounts maxWidth ps rows) {f : Fragment α} (hf : f.isBlank = false) :
    Accounts maxWidth (ps ++ [.fragment f]) rows { s with word := s.word ++ [f] } where
  done := h.done
  pieces := by simp [← h.pieces]
  word g hg := by
    rcases List.mem_append.mp hg with hg | hg
    · exact h.word g hg
    · rwa [List.mem_singleton.mp hg]
  current := h.current
  sound := h.sound
  ended := h.ended
  wraps := h.wraps
  wrapped := h.wrapped

theorem blank (h : s.Accounts maxWidth ps rows) (hplaced : s.word = []) {f : Fragment α}
    (hf : f.isBlank = true) :
    Accounts maxWidth (ps ++ [.fragment f]) rows { s with current := s.current ++ [f] } where
  done := h.done
  pieces := by simp [← h.pieces, hplaced]
  word := h.word
  current := h.current.concat_blank hf
  sound := h.sound
  ended := h.ended
  wraps := h.wraps
  wrapped r hr := (h.wrapped r hr).append
    ⟨[], by rw [lineWords_append_blanks (by simpa using hf), List.append_nil]⟩

/-- The line being filled ends. -/
theorem wraps_concat (h : s.Accounts maxWidth ps rows) (ending : Ending α) :
    (rows ++ [Row.ofFragments s.current ending]).IsChain
      fun r next => r.WrapsBefore maxWidth next.kept := by
  refine h.wraps.append (.singleton _) fun r hr next hnext => ?_
  obtain rfl := Option.some.inj hnext
  exact (h.wrapped r hr).dropEndBlanks

theorem newline (h : s.Accounts maxWidth ps rows) (hplaced : s.word = []) (run : TextRun α) :
    Accounts maxWidth (ps ++ [.newline run]) (rows ++ [.ofFragments s.current (.newline run)])
      (s.endLine (some run) true) where
  done := by simp [endLine, h.done, Row.line, Row.ofFragments, Ending.fallback, Ending.isHard]
  pieces := by simp [← h.pieces, hplaced, endLine, Row.pieces_ofFragments, Ending.pieces]
  word := h.word
  current := .of_few (by simp [endLine, lineWords])
  sound := List.forall_mem_append.mpr ⟨h.sound, by simpa using .ofFragments h.current _⟩
  ended := List.forall_mem_append.mpr ⟨h.ended, by simpa using .newline s.current run⟩
  wraps := h.wraps_concat _
  wrapped := by simp [Row.WrapsBefore, Row.ofFragments]

/-- The word goes on the line. -/
theorem join (h : s.Accounts maxWidth ps rows) (hne : s.word ≠ [])
    (hready : ∀ f ∈ s.current.getLast?, f.isBlank = true)
    (hroom : s.current.any (!·.isBlank) = true →
      ¬ maxWidth < totalWidth s.current + totalWidth s.word) :
    Accounts maxWidth ps rows { s with current := s.current ++ s.word, word := [] } where
  done := h.done
  pieces := by simp [← h.pieces]
  word := by simp
  current := .append_word hready hne h.word hroom
  sound := h.sound
  ended := h.ended
  wraps := h.wraps
  wrapped r hr := (h.wrapped r hr).append ⟨_, lineWords_append_word hready hne h.word⟩

/-- The word goes on a line of its own. -/
theorem wrap (h : s.Accounts maxWidth ps rows) (hne : s.word ≠ [])
    (hready : ∀ f ∈ s.current.getLast?, f.isBlank = true)
    (hany : s.current.any (!·.isBlank) = true)
    (hwide : maxWidth < totalWidth s.current + totalWidth s.word) :
    Accounts maxWidth ps (rows ++ [.ofFragments s.current .full])
      { s.endLine none false with current := s.word, word := [] } where
  done := by simp [endLine, h.done, Row.line, Row.ofFragments, Ending.fallback, Ending.isHard]
  pieces := by simp [← h.pieces, Row.pieces_ofFragments, Ending.pieces]
  word := by simp
  current := .of_few (by simp [lineWords_word hne h.word])
  sound := List.forall_mem_append.mpr ⟨h.sound, by simpa using .ofFragments h.current _⟩
  ended := by
    refine List.forall_mem_append.mpr ⟨h.ended, ?_⟩
    obtain ⟨f, hf, -⟩ := List.any_eq_true.mp hany
    have hlast := List.getLast_mem_getLast? (List.ne_nil_of_mem hf)
    simpa using .full hlast (hready _ hlast)
  wraps := h.wraps_concat _
  wrapped := by simpa using .full hne h.word hwide

theorem placeWord (h : s.Accounts maxWidth ps rows)
    (hready : ∀ f ∈ s.current.getLast?, f.isBlank = true) :
    ∃ rows', (s.placeWord maxWidth).Accounts maxWidth ps rows' := by
  by_cases hne : s.word = []
  · exact ⟨rows, by rwa [placeWord_of_nil maxWidth hne]⟩
  obtain ⟨hany, hwide, heq⟩ | ⟨hroom, heq⟩ := placeWord_cases maxWidth hne
  · exact ⟨_, heq ▸ h.wrap hne hready hany hwide⟩
  · exact ⟨rows, heq ▸ h.join hne hready hroom⟩

/-- One more piece of text; between two pieces the line being filled ends in a blank, if in
anything. -/
theorem add (h : s.Accounts maxWidth ps rows)
    (hready : ∀ f ∈ s.current.getLast?, f.isBlank = true) (p : Piece α) :
    ∃ rows', (s.add maxWidth p).Accounts maxWidth (ps ++ [p]) rows' ∧
      ∀ f ∈ (s.add maxWidth p).current.getLast?, f.isBlank = true := by
  obtain ⟨placed, hplaced⟩ := h.placeWord hready
  have hword := word_placeWord maxWidth s
  cases p with
  | newline run => exact ⟨_, hplaced.newline hword run, by simp [Setting.add, endLine]⟩
  | fragment f =>
    unfold Setting.add
    dsimp only
    split
    next hf => exact ⟨_, hplaced.blank hword hf, by simpa using hf⟩
    next hf => exact ⟨_, h.letter (by simpa using hf), hready⟩

theorem foldl_add (h : s.Accounts maxWidth ps rows)
    (hready : ∀ f ∈ s.current.getLast?, f.isBlank = true) (qs : List (Piece α)) :
    ∃ rows', (qs.foldl (Setting.add maxWidth) s).Accounts maxWidth (ps ++ qs) rows' ∧
      ∀ f ∈ (qs.foldl (Setting.add maxWidth) s).current.getLast?, f.isBlank = true := by
  induction qs generalizing s ps rows with
  | nil => exact ⟨rows, by simpa using h, hready⟩
  | cons q rest ih =>
    obtain ⟨more, hmore, hready⟩ := h.add hready q
    rw [← List.singleton_append, ← List.append_assoc]
    exact ih hmore hready

end Setting.Accounts

section Finished

variable {rows : List (Row α)} {r : Row α}

theorem Row.wholeWords_pieces (h : ∀ f ∈ r.dropped, f.isBlank = true) :
    wholeWords r.pieces = lineWords r.kept := by
  have hending : ∀ p ∈ r.ending.pieces, p.isBreak = true := by
    cases r.ending <;> simp [Ending.pieces, Piece.isBreak]
  rw [Row.pieces, wholeWords_append_breaks hending]
  exact lineWords_append_blanks h r.kept

theorem wholeWords_rows (hdropped : ∀ r ∈ rows, ∀ f ∈ r.dropped, f.isBlank = true)
    (hended : ∀ r ∈ rows, r.Ended) (qs : List (Piece α)) :
    wholeWords (rows.flatMap Row.pieces ++ qs) =
      (rows.flatMap fun r => lineWords r.kept) ++ wholeWords qs := by
  induction rows with
  | nil => rfl
  | cons r rest ih =>
    obtain ⟨p, hlast, hbreak⟩ := (hended r (by simp)).last
    rw [List.flatMap_cons, List.append_assoc, wholeWords_ended hlast hbreak,
      Row.wholeWords_pieces (hdropped r (by simp)),
      ih (fun r hr => hdropped r (List.mem_cons_of_mem _ hr))
        (fun r hr => hended r (List.mem_cons_of_mem _ hr)),
      List.flatMap_cons, List.append_assoc]

theorem countP_newline_fragments (fragments : List (Fragment α)) :
    (fragments.map Piece.fragment).countP Piece.isNewline = 0 := by
  simp [List.countP_eq_zero, Piece.isNewline]

theorem Row.Ended.countP (h : r.Ended) :
    r.pieces.countP Piece.isNewline = if r.ending.isHard then 1 else 0 := by
  rw [Row.pieces, List.countP_append, countP_newline_fragments]
  obtain hfull | ⟨run, hnewline⟩ := h.reason
  · simp [hfull, Ending.pieces, Ending.isHard]
  · simp [hnewline, Ending.pieces, Ending.isHard, Piece.isNewline]

/-- Of lines that more text may follow, those are hard that end at a line feed. -/
theorem countP_newline_rows (h : ∀ r ∈ rows, r.Ended) :
    (rows.flatMap Row.pieces).countP Piece.isNewline = rows.countP (·.ending.isHard) := by
  induction rows with
  | nil => rfl
  | cons r rest ih =>
    rw [List.flatMap_cons, List.countP_append, (h r (by simp)).countP,
      ih fun r hr => h r (List.mem_cons_of_mem _ hr), List.countP_cons, Nat.add_comm]

end Finished

/-- Text broken into lines. -/
structure Broken [Scalar α] (maxWidth : α) (ps : List (Piece α)) (rows : List (Row α)) : Prop where
  nonempty : rows ≠ []
  pieces : rows.flatMap Row.pieces = ps
  sound : ∀ r ∈ rows, r.Sound maxWidth
  wraps : rows.IsChain fun r next => r.WrapsBefore maxWidth next.kept
  last : ∀ r ∈ rows.getLast?, r.ending.isHard = true
  words : (rows.flatMap fun r => lineWords r.kept) = wholeWords ps
  hard : rows.countP (·.ending.isHard) =
    ps.countP Piece.isNewline + if ps.getLast?.any Piece.isNewline then 0 else 1

namespace Setting.Accounts

variable [Scalar α] {maxWidth : α} {ps : List (Piece α)} {rows : List (Row α)} {s : Setting α}

theorem wholeWords_rows (h : s.Accounts maxWidth ps rows) (qs : List (Piece α)) :
    wholeWords (rows.flatMap Row.pieces ++ qs) =
      (rows.flatMap fun r => lineWords r.kept) ++ wholeWords qs :=
  Typeset.wholeWords_rows (fun r hr => (h.sound r hr).dropped) h.ended qs

/-- Text that ends with a line feed. -/
theorem broken_of_nil (h : s.Accounts maxWidth ps rows) (hplaced : s.word = [])
    (hcurrent : s.current = []) (hne : rows ≠ []) : Broken maxWidth ps rows := by
  have hpieces : rows.flatMap Row.pieces = ps := by simpa [hcurrent, hplaced] using h.pieces
  obtain ⟨before, r, rfl⟩ := (List.eq_nil_or_concat' rows).resolve_left hne
  -- a line that was wrapped would have left its word behind
  obtain ⟨run, hrun⟩ : ∃ run, r.ending = .newline run := by
    refine (h.ended r (by simp)).reason.resolve_left fun hfull => ?_
    obtain ⟨⟨f, hf, -⟩, -⟩ := h.wrapped r (by simp) hfull
    simp [hcurrent] at hf
  have hnewline : ps.getLast? = some (.newline run) := by
    rw [← hpieces, List.flatMap_append, List.flatMap_singleton, Row.pieces, hrun, Ending.pieces,
      ← List.append_assoc, List.getLast?_concat]
  exact {
    nonempty := hne
    pieces := hpieces
    sound := h.sound
    wraps := h.wraps
    last := by simp [hrun, Ending.isHard]
    words := by
      have hwords := h.wholeWords_rows []
      rw [hpieces, wholeWords_nil, List.append_nil, List.append_nil] at hwords
      exact hwords.symm
    hard := by
      rw [← countP_newline_rows h.ended, hpieces, hnewline]
      rfl }

theorem broken_concat (h : s.Accounts maxWidth ps rows) (hplaced : s.word = [])
    (hcurrent : s.current = [] → rows = []) (last : Option (TextRun α)) :
    Broken maxWidth ps (rows ++ [.ofFragments s.current (.last last)]) := by
  have hpieces : rows.flatMap Row.pieces ++ s.current.map Piece.fragment = ps := by
    simpa [hplaced] using h.pieces
  have hopen : ps.getLast?.any Piece.isNewline = false := by
    rw [← hpieces]
    cases hlast : s.current.getLast? with
    | none =>
      have hnil := List.getLast?_eq_none_iff.mp hlast
      simp [hnil, hcurrent hnil]
    | some f => simp [List.getLast?_append, List.getLast?_map, hlast, Piece.isNewline]
  exact {
    nonempty := by simp
    pieces := by simpa [Row.pieces_ofFragments, Ending.pieces] using hpieces
    sound := List.forall_mem_append.mpr ⟨h.sound, by simpa using .ofFragments h.current _⟩
    wraps := h.wraps_concat _
    last := by simp [Row.ofFragments, Ending.isHard]
    words := by
      rw [← hpieces, h.wholeWords_rows, List.flatMap_append, List.flatMap_singleton,
        Row.ofFragments, lineWords_dropEndBlanks, lineWords]
    hard := by
      rw [hopen, ← hpieces, List.countP_append, List.countP_append, countP_newline_rows h.ended,
        countP_newline_fragments]
      simp [Row.ofFragments, Ending.isHard] }

theorem finish (h : s.Accounts maxWidth ps rows)
    (hready : ∀ f ∈ s.current.getLast?, f.isBlank = true) (last : Option (TextRun α)) :
    ∃ rows', s.finish maxWidth last = rows'.map Row.line ∧ Broken maxWidth ps rows' := by
  obtain ⟨placed, hplaced⟩ := h.placeWord hready
  have hword := word_placeWord maxWidth s
  unfold Setting.finish
  dsimp only
  split
  next hends =>
    obtain ⟨hcurrent, hdone⟩ := Bool.and_eq_true_iff.mp hends
    refine ⟨placed, hplaced.done, hplaced.broken_of_nil hword (by simpa using hcurrent) ?_⟩
    simpa [hplaced.done] using hdone
  next hends =>
    refine ⟨_, ?_, hplaced.broken_concat hword (fun hcurrent => ?_) last⟩
    · simp [endLine, hplaced.done, Row.line, Row.ofFragments, Ending.fallback, Ending.isHard]
    · simpa [hcurrent, hplaced.done] using hends

end Setting.Accounts

/-- Every text is broken into lines. -/
theorem exists_broken [Scalar α] (runs : List (TextRun α)) (maxWidth : α) :
    ∃ rows, lines runs maxWidth = rows.map Row.line ∧ Broken maxWidth (pieces runs) rows := by
  obtain ⟨rows, hrows, hready⟩ :=
    (Setting.Accounts.start maxWidth).foldl_add (by simp) (pieces runs)
  exact hrows.finish hready runs.getLast?

section Lines

variable [Scalar α] {runs : List (TextRun α)} {maxWidth : α}

theorem exists_row {l : TextLine α} (hl : l ∈ lines runs maxWidth) :
    ∃ r : Row α, r.line = l ∧ r.Sound maxWidth ∧ ∀ p ∈ r.pieces, p ∈ pieces runs := by
  obtain ⟨rows, hlines, h⟩ := exists_broken runs maxWidth
  rw [hlines] at hl
  obtain ⟨r, hr, hline⟩ := List.mem_map.mp hl
  rw [← h.pieces]
  exact ⟨r, hline, h.sound r hr, fun p hp => List.mem_flatMap.mpr ⟨r, hr, hp⟩⟩

/-- Lines are made of the text. -/
theorem mem_pieces_of_lines {l : TextLine α} (hl : l ∈ lines runs maxWidth) {f : Fragment α}
    (hf : f ∈ l.fragments) : .fragment f ∈ pieces runs := by
  obtain ⟨r, rfl, -, hpieces⟩ := exists_row hl
  refine hpieces _ (List.mem_append_left _ (List.mem_map_of_mem ?_))
  exact List.mem_append_left _ hf

theorem isBlank_last_lines {l : TextLine α} (hl : l ∈ lines runs maxWidth) :
    ∀ f ∈ l.fragments.getLast?, f.isBlank = false := by
  obtain ⟨r, rfl, hsound, -⟩ := exists_row hl
  exact hsound.kept

theorem isHard_last_lines : ∀ l ∈ (lines runs maxWidth).getLast?, l.isHard = true := by
  obtain ⟨rows, hlines, h⟩ := exists_broken runs maxWidth
  rw [hlines, List.getLast?_map]
  intro l hl
  obtain ⟨r, hr, rfl⟩ := Option.map_eq_some_iff.mp hl
  exact h.last r hr

end Lines

/-- How many lines are hard does not depend on the frame. -/
theorem countP_hard_lines [Scalar α] (runs : List (TextRun α)) (maxWidth : α) :
    (lines runs maxWidth).countP (·.isHard) = (pieces runs).countP Piece.isNewline +
      if (pieces runs).getLast?.any Piece.isNewline then 0 else 1 := by
  obtain ⟨rows, hlines, h⟩ := exists_broken runs maxWidth
  rw [hlines, List.countP_map]
  exact h.hard

end CardPress.Typeset
