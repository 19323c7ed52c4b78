import CardPress.Proofs.Report
import CardPress.Proofs.Template.Expressions
import CardPress.Template.Compile

/-! Reading the tags of a template: statements, and what they bind, keep to the lines of the tokens. -/
namespace CardPress.Template

variable {P : Nat → Prop} {fuel : Nat}

namespace Target

/-- The names that a target binds are on lines of a kind. -/
def On (P : Nat → Prop) (t : Target) : Prop := ∀ place ∈ t.places, P place.2

theorem mem_placesIn {place : String × Nat} {ts : List Target} :
    place ∈ placesIn ts ↔ ∃ t ∈ ts, place ∈ t.places := by
  induction ts with
  | nil => simp [placesIn]
  | cons t ts ih => simp [placesIn, ih]

theorem on_tuple {ts : List Target} (h : ∀ t ∈ ts, t.On P) : (Target.tuple ts).On P := by
  intro place hplace
  rw [places] at hplace
  obtain ⟨t, ht, hplace⟩ := mem_placesIn.mp hplace
  exact h t ht place hplace

mutual

theorem on_ofExpr? {line : Nat} {e : Expr} {t : Target} (hline : P line) (h : ofExpr? line e = some t) :
    t.On P := by
  cases e with
  | name id =>
    rw [ofExpr?] at h
    cases h
    exact List.forall_mem_singleton.mpr hline
  | tuple items =>
    rw [ofExpr?] at h
    obtain ⟨ts, hts, rfl⟩ := Option.map_eq_some_iff.mp h
    exact on_tuple (on_ofExprs? hline hts)
  | _ => simp [ofExpr?] at h

theorem on_ofExprs? {line : Nat} {es : List Expr} {ts : List Target} (hline : P line)
    (h : ofExprs? line es = some ts) : ∀ t ∈ ts, t.On P := by
  cases es with
  | nil =>
    rw [ofExprs?] at h
    cases h
    exact List.forall_mem_nil _
  | cons e es =>
    rw [ofExprs?] at h
    split at h
    · next t ts ht hts =>
      cases h
      exact List.forall_mem_cons.mpr ⟨on_ofExpr? hline ht, on_ofExprs? hline hts⟩
    · cases h

end

end Target

def Param.On (P : Nat → Prop) (p : Param) : Prop := ∀ e ∈ p.standard, e.On P

def Piece.On (P : Nat → Prop) : Piece → Prop
  | .data _ => True
  | .value e => e.On P

namespace Stmt

/-- What a statement says itself, without the statements inside of it, is on lines of a kind. -/
def Own (P : Nat → Prop) : Stmt → Prop
  | .output pieces => ∀ p ∈ pieces, p.On P
  | .branch condition _ others _ => condition.On P ∧ ∀ other ∈ others, other.1.On P
  | .each target values condition _ _ _ => target.On P ∧ values.On P ∧ ∀ e ∈ condition, e.On P
  | .assign target value => target.On P ∧ value.On P
  | .capture target filtered _ => target.On P ∧ ∀ e ∈ filtered, e.On P
  | .wrap filtered _ => filtered.On P
  | .scope _ values _ => Expr.OnAll P values
  | .define line _ params _ => P line ∧ ∀ p ∈ params, p.On P
  | .callWith line params call _ => P line ∧ (∀ p ∈ params, p.On P) ∧ call.On P
  | .block line _ _ _ _ => P line
  | .load template _ _ _ => template.On P
  | .extend line template => P line ∧ template.On P
  | .escaping on _ => on.On P

/-- A statement and those inside of it are on lines of a kind. -/
def On (P : Nat → Prop) (s : Stmt) : Prop := ∀ t ∈ s.parts, t.Own P

def OnAll (P : Nat → Prop) (ss : List Stmt) : Prop := ∀ t ∈ partsIn ss, t.Own P

theorem onAll_nil : OnAll P [] := List.forall_mem_nil _

theorem onAll_cons {s : Stmt} {ss : List Stmt} : OnAll P (s :: ss) ↔ s.On P ∧ OnAll P ss := by
  rw [OnAll, partsIn, List.forall_mem_append]
  rfl

theorem onAll_iff {ss : List Stmt} : OnAll P ss ↔ ∀ s ∈ ss, s.On P := by
  induction ss with
  | nil => exact ⟨fun _ => List.forall_mem_nil _, fun _ => onAll_nil⟩
  | cons s ss ih => rw [onAll_cons, ih, List.forall_mem_cons]

theorem onAll_reverse {ss : List Stmt} (h : OnAll P ss) : OnAll P ss.reverse :=
  onAll_iff.mpr fun s hs => onAll_iff.mp h s (List.mem_reverse.mp hs)

theorem onAll_append {ss ts : List Stmt} (hs : OnAll P ss) (ht : OnAll P ts) : OnAll P (ss ++ ts) := by
  rw [onAll_iff, List.forall_mem_append]
  exact ⟨onAll_iff.mp hs, onAll_iff.mp ht⟩

/-- The conditions and the bodies of the further branches are on lines of a kind. -/
def OthersOn (P : Nat → Prop) (others : List (Expr × List Stmt)) : Prop :=
  ∀ other ∈ others, other.1.On P ∧ OnAll P other.2

theorem othersOn_iff {others : List (Expr × List Stmt)} :
    OthersOn P others ↔ (∀ other ∈ others, other.1.On P) ∧ ∀ t ∈ partsInOthers others, t.Own P := by
  induction others with
  | nil => simp [OthersOn, partsInOthers]
  | cons other others ih =>
    rw [OthersOn, List.forall_mem_cons, List.forall_mem_cons, partsInOthers, List.forall_mem_append]
    rw [OthersOn] at ih
    rw [ih]
    exact and_and_and_comm

theorem on_branch_iff {condition : Expr} {yes no : List Stmt} {others : List (Expr × List Stmt)} :
    (Stmt.branch condition yes others no).On P ↔
      condition.On P ∧ OnAll P yes ∧ OthersOn P others ∧ OnAll P no := by
  rw [On, parts, List.forall_mem_cons, List.forall_mem_append, List.forall_mem_append, othersOn_iff]
  constructor
  · rintro ⟨⟨hcondition, hconditions⟩, ⟨hyes, hothers⟩, hno⟩
    exact ⟨hcondition, hyes, ⟨hconditions, hothers⟩, hno⟩
  · rintro ⟨hcondition, hyes, ⟨hconditions, hothers⟩, hno⟩
    exact ⟨⟨hcondition, hconditions⟩, ⟨hyes, hothers⟩, hno⟩

theorem on_each_iff {target : Target} {values : Expr} {condition : Option Expr} {recursive : Bool}
    {body otherwise : List Stmt} : (Stmt.each target values condition recursive body otherwise).On P ↔
      (target.On P ∧ values.On P ∧ ∀ e ∈ condition, e.On P) ∧ OnAll P body ∧ OnAll P otherwise := by
  rw [On, parts, List.forall_mem_cons, List.forall_mem_append]
  rfl

/-- A statement with one body. -/
theorem on_iff_of_body {s : Stmt} {body : List Stmt} (hparts : s.parts = s :: partsIn body) :
    s.On P ↔ s.Own P ∧ OnAll P body := by
  rw [On, hparts, List.forall_mem_cons]
  rfl

/-- A statement that no other one stands inside of. -/
theorem on_iff_own {s : Stmt} (hparts : s.parts = [s]) : s.On P ↔ s.Own P := by
  rw [On, hparts, List.forall_mem_singleton]

mutual

theorem parts_trans (s : Stmt) {t u : Stmt} (ht : t ∈ s.parts) (hu : u ∈ t.parts) : u ∈ s.parts := by
  rw [parts.eq_def, List.mem_cons] at ht
  obtain rfl | ht := ht
  · exact hu
  · rw [parts.eq_def]
    refine List.mem_cons_of_mem s ?_
    cases s with
    | branch condition yes others no =>
      simp only [List.mem_append] at ht ⊢
      obtain (ht | ht) | ht := ht
      · exact .inl (.inl (partsIn_trans yes ht hu))
      · exact .inl (.inr (partsInOthers_trans others ht hu))
      · exact .inr (partsIn_trans no ht hu)
    | each target values condition recursive body otherwise =>
      simp only [List.mem_append] at ht ⊢
      obtain ht | ht := ht
      · exact .inl (partsIn_trans body ht hu)
      · exact .inr (partsIn_trans otherwise ht hu)
    | capture target filtered body => exact partsIn_trans body ht hu
    | wrap filtered body => exact partsIn_trans body ht hu
    | scope targets values body => exact partsIn_trans body ht hu
    | define line id params body => exact partsIn_trans body ht hu
    | callWith line params call body => exact partsIn_trans body ht hu
    | block line id shared required body => exact partsIn_trans body ht hu
    | escaping on body => exact partsIn_trans body ht hu
    | output pieces => cases ht
    | assign target value => cases ht
    | load template several lenient names => cases ht
    | extend line template => cases ht

theorem partsIn_trans (ss : List Stmt) {t u : Stmt} (ht : t ∈ partsIn ss) (hu : u ∈ t.parts) :
    u ∈ partsIn ss := by
  cases ss with
  | nil => cases ht
  | cons s ss =>
    rw [partsIn, List.mem_append] at ht ⊢
    obtain ht | ht := ht
    · exact .inl (parts_trans s ht hu)
    · exact .inr (partsIn_trans ss ht hu)

theorem partsInOthers_trans (others : List (Expr × List Stmt)) {t u : Stmt}
    (ht : t ∈ partsInOthers others) (hu : u ∈ t.parts) : u ∈ partsInOthers others := by
  cases others with
  | nil => cases ht
  | cons other others =>
    obtain ⟨condition, yes⟩ := other
    rw [partsInOthers, List.mem_append] at ht ⊢
    obtain ht | ht := ht
    · exact .inl (partsIn_trans yes ht hu)
    · exact .inr (partsInOthers_trans others ht hu)

end

theorem on_of_mem_partsIn {ss : List Stmt} {t : Stmt} (h : OnAll P ss) (ht : t ∈ partsIn ss) : t.On P :=
  fun _ hu => h _ (partsIn_trans ss ht hu)

end Stmt

namespace Parse

open CardPress.Template.Expr (On)

/-- A part of a target, if it is one, binds names on lines of a kind. -/
def PartOn (P : Nat → Prop) (part : Except String Target) : Prop := ∀ t, part = .ok t → t.On P

theorem partOn_error (kind : String) : PartOn P (.error kind) := nofun

theorem partOn_ok {t : Target} (h : t.On P) : PartOn P (.ok t) := fun _ ht => by
  cases ht
  exact h

theorem partOn_ofExpr {here : Nat} (hhere : P here) (e : Expr) :
    PartOn P (((Target.ofExpr? here e).map .ok).getD (.error e.kind)) := by
  cases ht : Target.ofExpr? here e with
  | none => exact partOn_error _
  | some t => exact partOn_ok (Target.on_ofExpr? hhere ht)

theorem on_of_mapM {parts : List (Except String Target)} {targets : List Target}
    (h : parts.mapM id = .ok targets) (hparts : ∀ part ∈ parts, PartOn P part) : ∀ t ∈ targets, t.On P := by
  have hall := mapM_eq_ok.mp h
  clear h
  induction hall with
  | nil => exact List.forall_mem_nil _
  | cons ht _ ih =>
    obtain ⟨hpart, hrest⟩ := List.forall_mem_cons.mp hparts
    exact List.forall_mem_cons.mpr ⟨hpart _ ht, ih hrest⟩

/-- Several parts are one target if all of them are targets. -/
theorem partOn_together {parts : List (Except String Target)} (h : ∀ part ∈ parts, PartOn P part) :
    PartOn P (match parts.reverse.mapM id with
      | .ok targets => .ok (.tuple targets)
      | .error _ => .error "tuple") := by
  split
  · next targets htargets =>
    exact partOn_ok (Target.on_tuple (on_of_mapM htargets fun part hpart => h part (List.mem_reverse.mp hpart)))
  · exact partOn_error _

theorem keeps_targetPart (fuel : Nat) (places : Bool) : Keeps P (PartOn P) (targetPart fuel places) := by
  have hvalue (here : Nat) (hhere : P here) : Keeps P (PartOn P) (do
      let e ← primary fuel
      return ((Target.ofExpr? here e).map .ok).getD (.error e.kind)) :=
    .bind (reads P fuel).primary fun e _ => .pure (partOn_ofExpr hhere e)
  unfold targetPart
  refine .bind .line ?_
  intro here hhere
  refine .bind .lexeme ?_
  intro l _
  split
  · next s =>
    refine .bind .peek ?_
    intro next _
    split
    · refine .andThen .advance (.andThen .advance ?_)
      refine .bind .expectName ?_
      intro id _
      have hplace : (Target.place s id).On P := List.forall_mem_nil _
      exact .placed hhere (partOn_ok hplace)
    · exact hvalue here hhere
  · exact hvalue here hhere

theorem keeps_targetParts {places : Bool} {stops : List String} {here : Nat}
    {parts : List (Except String Target)} (hhere : P here) (hparts : ∀ part ∈ parts, PartOn P part) :
    Keeps P (PartOn P) (targetParts fuel places stops here parts) := by
  induction fuel generalizing here parts with
  | zero => exact Reads.stopped _
  | succ fuel ih =>
    unfold targetParts
    refine .ite_skip (.expectSign ",") ?_
    refine .bind .lexeme ?_
    intro l _
    split
    · split
      · refine .bind .line ?_
        intro line hline
        exact .bind .lexeme fun _ _ => .fail hline _
      · exact .placed hhere (partOn_together hparts)
    · refine .bind (keeps_targetPart fuel places) ?_
      intro part hpart
      have hmore : ∀ p ∈ part :: parts, PartOn P p := List.forall_mem_cons.mpr ⟨hpart, hparts⟩
      refine .bind .lexeme ?_
      intro l _
      split
      · exact .bind .line fun _ hline => ih hline hmore
      · split
        · exact .pure hpart
        · exact .placed hhere (partOn_together hmore)

theorem keeps_assignTarget (fuel : Nat) (places : Bool) (stops : List String) :
    Keeps P (Target.On P) (assignTarget fuel places stops) := by
  unfold assignTarget
  refine .bind .line ?_
  intro here hhere
  refine .bind (keeps_targetParts hhere (List.forall_mem_nil _)) ?_
  intro part hpart
  split
  · exact .pure (hpart _ rfl)
  · exact .bind .place fun _ hplace => .fail hplace _

theorem keeps_boundName : Keeps P (fun bound => P bound.2) boundName := by
  unfold boundName
  refine .bind .line ?_
  intro here hhere
  refine .bind .expectName ?_
  intro s _
  split
  · exact .fail hhere _
  · exact .pure hhere

theorem keeps_printItems {out : List Expr} (hout : Expr.OnAll P out) :
    Keeps P (Expr.OnAll P) (printItems fuel out) := by
  have hread (out : List Expr) (hout : Expr.OnAll P out) : Keeps P (Expr.OnAll P) (pure out.reverse) :=
    .pure (Expr.onAll_reverse hout)
  induction fuel generalizing out with
  | zero => exact hread out hout
  | succ fuel ih =>
    unfold printItems
    refine .bind .lexeme ?_
    intro l _
    split
    · exact hread out hout
    · refine .ite_skip (.expectSign ",") ?_
      refine .bind (reads P fuel).expression ?_
      intro e he
      exact ih ⟨he, hout⟩

theorem keeps_withItems {targets : List Target} {values : List Expr} (hvalues : Expr.OnAll P values) :
    Keeps P (fun read => Expr.OnAll P read.2) (withItems fuel targets values) := by
  have hread (targets : List Target) (values : List Expr) (hvalues : Expr.OnAll P values) :
      Keeps P (fun read => Expr.OnAll P read.2) (pure (targets.reverse, values.reverse)) :=
    .pure (Expr.onAll_reverse hvalues)
  induction fuel generalizing targets values with
  | zero => exact hread targets values hvalues
  | succ fuel ih =>
    unfold withItems
    refine .bind .lexeme ?_
    intro l _
    split
    · exact hread targets values hvalues
    · refine .ite_skip (.expectSign ",") ?_
      refine .bind (keeps_assignTarget fuel false []) ?_
      intro t _
      refine .andThen (.expectSign "=") ?_
      refine .bind (reads P fuel).expression ?_
      intro e he
      exact ih ⟨he, hvalues⟩

/-- An expression that may be left out. -/
theorem keeps_some {p : Parse Expr} (h : Keeps P (On P) p) :
    Keeps P (fun found => ∀ e ∈ found, e.On P) (some <$> p) :=
  h.map fun e he _ hmem => by
    cases hmem
    exact he

theorem keeps_none : Keeps P (fun found : Option Expr => ∀ e ∈ found, e.On P) (pure none) := .pure nofun

theorem keeps_params {out : List Param} (hout : ∀ p ∈ out, p.On P) :
    Keeps P (fun ps => ∀ p ∈ ps, p.On P) (params fuel out) := by
  have hread (out : List Param) (hout : ∀ p ∈ out, p.On P) :
      Keeps P (fun ps => ∀ p ∈ ps, p.On P) (pure out.reverse) :=
    .pure fun p hp => hout p (List.mem_reverse.mp hp)
  induction fuel generalizing out with
  | zero => exact hread out hout
  | succ fuel ih =>
    unfold params
    refine .bind (.skipSign ")") ?_
    intro closed _
    split
    · exact hread out hout
    · refine .ite_skip (.expectSign ",") ?_
      refine .bind keeps_boundName ?_
      rintro ⟨id, here⟩ _
      refine .bind (.skipSign "=") ?_
      intro standing _
      refine .ite_bind (keeps_some (reads P fuel).expression) keeps_none ?_
      intro standard hstandard
      have hparam : (⟨id, standard⟩ : Param).On P := hstandard
      have hmore := ih (List.forall_mem_cons.mpr ⟨hparam, hout⟩)
      exact .ite_fail hmore

theorem keeps_contextWords : Stays P contextWords := by
  unfold contextWords
  refine .bind (.skipWords "with" "context") ?_
  intro given _
  split
  · exact .pure trivial
  · exact .skipWords "without" "context"

theorem keeps_importNames {out : List String} : Stays P (importNames fuel out) := by
  induction fuel generalizing out with
  | zero => exact .pure trivial
  | succ fuel ih =>
    unfold importNames
    refine .ite_skip (.expectSign ",") ?_
    refine .bind .lexeme ?_
    intro l _
    split
    · refine .bind keeps_contextWords ?_
      intro ended _
      dsimp only
      split
      · exact .pure trivial
      · refine .bind keeps_boundName ?_
        rintro ⟨id, here⟩ hhere
        have hlast (id : String) : Stays P (do
            let done ← contextWords
            if done || !(← lexeme).isSign "," then return (id :: out).reverse
            importNames fuel (id :: out)) := by
          refine .bind keeps_contextWords ?_
          intro done _
          refine .bind .lexeme ?_
          intro l _
          split
          · exact .pure trivial
          · exact ih
        have hnamed (id : String) : Stays P (do
            let id ← if ← skipWord "as" then pure (← boundName).1 else pure id
            let done ← contextWords
            if done || !(← lexeme).isSign "," then return (id :: out).reverse
            importNames fuel (id :: out)) := by
          refine .bind (.skipWord "as") ?_
          intro renamed _
          dsimp only
          split
          · exact .bind keeps_boundName fun bound _ => hlast bound.1
          · exact hlast id
        split
        · exact .andThen (.fail (Q := fun _ => True) hhere _) (hnamed id)
        · exact hnamed id
    · exact .refuse _

/-- What reading a statement or a body of one, with an amount of fuel, leads to. -/
structure ReadsTags (P : Nat → Prop) (fuel : Nat) : Prop where
  statements {nest : Nesting} {pieces : List Piece} {out : List Stmt} : (∀ p ∈ pieces, p.On P) →
    Stmt.OnAll P out → Keeps P (Stmt.OnAll P) (statements fuel nest pieces out)
  body (nest : Nesting) (ends : List String) : Keeps P (fun read => Stmt.OnAll P read.1) (body fuel nest ends)
  branches (nest : Nesting) : Keeps P (fun read => Stmt.OthersOn P read.1 ∧ Stmt.OnAll P read.2)
    (branches fuel nest)
  statement (nest : Nesting) : Keeps P (Stmt.On P) (statement fuel nest)

namespace ReadsTags

theorem zero : ReadsTags P 0 where
  statements _ hout := .pure (Stmt.onAll_reverse hout)
  body _ _ := Reads.stopped _
  branches _ := Reads.stopped _
  statement _ := Reads.stopped _

theorem onAll_outputOf {pieces : List Piece} (h : ∀ p ∈ pieces, p.On P) : Stmt.OnAll P (outputOf pieces) := by
  unfold outputOf
  split
  · exact Stmt.onAll_nil
  · have howned : (Stmt.output pieces.reverse).Own P := fun p hp => h p (List.mem_reverse.mp hp)
    exact Stmt.onAll_cons.mpr ⟨(Stmt.on_iff_own rfl).mpr howned, Stmt.onAll_nil⟩

theorem statements_succ {nest : Nesting} {pieces : List Piece} {out : List Stmt} (ih : ReadsTags P fuel)
    (hpieces : ∀ p ∈ pieces, p.On P) (hout : Stmt.OnAll P out) :
    Keeps P (Stmt.OnAll P) (Parse.statements (fuel + 1) nest pieces out) := by
  have hprinted : Stmt.OnAll P (outputOf pieces ++ out) := Stmt.onAll_append (onAll_outputOf hpieces) hout
  unfold Parse.statements
  refine .bind .lexeme ?_
  intro l _
  split
  · exact .pure (Stmt.onAll_reverse hprinted)
  · next s =>
    have hmore : ∀ p ∈ Piece.data s :: pieces, p.On P := List.forall_mem_cons.mpr ⟨trivial, hpieces⟩
    exact .andThen .advance (ih.statements hmore hout)
  · refine .andThen .advance ?_
    refine .bind ((reads P fuel).tuple true [] false) ?_
    intro e he
    have hmore : ∀ p ∈ Piece.value e :: pieces, p.On P := List.forall_mem_cons.mpr ⟨he, hpieces⟩
    exact .andThen (.expect _ _) (ih.statements hmore hout)
  · refine .andThen .advance ?_
    refine .bind .lexeme ?_
    intro l _
    split
    · exact .pure (Stmt.onAll_reverse hprinted)
    · refine .bind (ih.statement nest) ?_
      intro s hs
      exact .andThen .expectBlockEnd
        (ih.statements (List.forall_mem_nil _) (Stmt.onAll_cons.mpr ⟨hs, hprinted⟩))

theorem body_succ (ih : ReadsTags P fuel) (nest : Nesting) (ends : List String) :
    Keeps P (fun read => Stmt.OnAll P read.1) (Parse.body (fuel + 1) nest ends) := by
  unfold Parse.body
  refine .andThen (.skipSign ":") (.andThen .expectBlockEnd ?_)
  refine .bind (ih.statements (List.forall_mem_nil _) Stmt.onAll_nil) ?_
  intro out hout
  refine .bind .lexeme ?_
  intro l _
  split
  · exact .andThen .advance (.pure hout)
  · exact .bind .line fun _ hline => .fail hline _

theorem branches_succ (ih : ReadsTags P fuel) (nest : Nesting) :
    Keeps P (fun read => Stmt.OthersOn P read.1 ∧ Stmt.OnAll P read.2) (Parse.branches (fuel + 1) nest) := by
  unfold Parse.branches
  refine .bind ((reads P fuel).tuple false [] false) ?_
  intro condition hcondition
  refine .bind (ih.body nest _) ?_
  rintro ⟨yes, needle⟩ hyes
  have hfirst {others : List (Expr × List Stmt)} (hothers : Stmt.OthersOn P others) :
      Stmt.OthersOn P ((condition, yes) :: others) := List.forall_mem_cons.mpr ⟨⟨hcondition, hyes⟩, hothers⟩
  have hlast : Stmt.OthersOn P [(condition, yes)] := hfirst (List.forall_mem_nil _)
  dsimp only
  split
  · refine .bind (ih.branches nest) ?_
    rintro ⟨others, no⟩ hread
    exact .pure ⟨hfirst hread.1, hread.2⟩
  · split
    · refine .bind (ih.body nest _) ?_
      rintro ⟨no, needle⟩ hno
      exact .pure ⟨hlast, hno⟩
    · exact .pure ⟨hlast, Stmt.onAll_nil⟩

/-- A tag with one body, once the rest of the tag was read. -/
theorem with_body {nest : Nesting} {ends : List String} {make : List Stmt → Stmt} (ih : ReadsTags P fuel)
    (h : ∀ out, Stmt.OnAll P out → (make out).On P) :
    Keeps P (Stmt.On P) (do
      let read ← Parse.body fuel nest ends
      return make read.1) :=
  .bind (ih.body nest ends) fun read hread => .pure (h read.1 hread)

theorem statement_succ (ih : ReadsTags P fuel) (nest : Nesting) :
    Keeps P (Stmt.On P) (Parse.statement (fuel + 1) nest) := by
  have hexpression := (reads P fuel).expression
  have hload {e : Expr} {several lenient : Bool} {names : List String} (he : e.On P) :
      Keeps P (Stmt.On P) (pure (.load e several lenient names)) := .pure ((Stmt.on_iff_own rfl).mpr he)
  unfold Parse.statement
  refine .bind .line ?_
  intro here hhere
  refine .bind .lexeme ?_
  intro l _
  split
  · dsimp only
    split
    · -- if
      refine .andThen .advance ?_
      refine .bind (ih.branches _) ?_
      rintro ⟨_ | ⟨⟨condition, yes⟩, others⟩, no⟩ ⟨hbranches, hno⟩
      · have hnothing : nothing.On P := trivial
        exact .pure (Stmt.on_branch_iff.mpr ⟨hnothing, Stmt.onAll_nil, hbranches, hno⟩)
      · obtain ⟨hfirst, hothers⟩ := List.forall_mem_cons.mp hbranches
        exact .pure (Stmt.on_branch_iff.mpr ⟨hfirst.1, hfirst.2, hothers, hno⟩)
    · -- for
      refine .andThen .advance ?_
      refine .bind (keeps_assignTarget fuel false ["in"]) ?_
      intro target htarget
      refine .andThen (.expectWord "in") ?_
      refine .bind ((reads P fuel).tuple false ["recursive"] false) ?_
      intro values hvalues
      refine .bind (.skipWord "if") ?_
      intro tested _
      refine .ite_bind (keeps_some hexpression) keeps_none ?_
      intro condition hcondition
      refine .bind (.skipWord "recursive") ?_
      intro recursive _
      refine .bind (ih.body _ _) ?_
      rintro ⟨loop, needle⟩ hloop
      have heach {otherwise : List Stmt} (hotherwise : Stmt.OnAll P otherwise) :
          (Stmt.each target values condition recursive loop otherwise).On P :=
        Stmt.on_each_iff.mpr ⟨⟨htarget, hvalues, hcondition⟩, hloop, hotherwise⟩
      split
      · exact .pure (heach Stmt.onAll_nil)
      · exact ih.with_body fun _ hotherwise => heach hotherwise
    · -- set
      refine .andThen .advance ?_
      refine .bind (keeps_assignTarget fuel true []) ?_
      intro target htarget
      refine .bind (.skipSign "=") ?_
      intro assigned _
      split
      · refine .bind ((reads P fuel).tuple true [] false) ?_
        intro value hvalue
        exact .pure ((Stmt.on_iff_own rfl).mpr ⟨htarget, hvalue⟩)
      · refine .bind .lexeme ?_
        intro l _
        have hcaptured : Expr.captured.On P := trivial
        refine .ite_bind (keeps_some (keeps_filterChain hcaptured fuel)) keeps_none ?_
        intro filtered hfiltered
        exact ih.with_body fun _ hout => (Stmt.on_iff_of_body rfl).mpr ⟨⟨htarget, hfiltered⟩, hout⟩
    · -- filter
      refine .andThen .advance ?_
      refine .bind ((reads P fuel).filterOf trivial) ?_
      intro value hvalue
      refine .bind (keeps_filterChain hvalue fuel) ?_
      intro value hvalue
      exact ih.with_body fun _ hout => (Stmt.on_iff_of_body rfl).mpr ⟨hvalue, hout⟩
    · -- with
      refine .andThen .advance ?_
      refine .bind (keeps_withItems trivial) ?_
      intro read hvalues
      exact ih.with_body fun _ hout => (Stmt.on_iff_of_body rfl).mpr ⟨hvalues, hout⟩
    · -- macro
      refine .andThen .advance ?_
      refine .bind keeps_boundName ?_
      intro bound _
      refine .andThen (.expectSign "(") ?_
      refine .bind (keeps_params (List.forall_mem_nil _)) ?_
      intro ps hps
      exact ih.with_body fun _ hout => (Stmt.on_iff_of_body rfl).mpr ⟨⟨hhere, hps⟩, hout⟩
    · -- call
      have hnoParams : Keeps P (fun ps : List Param => ∀ p ∈ ps, p.On P) (pure []) :=
        .pure (List.forall_mem_nil _)
      refine .andThen .advance ?_
      refine .bind (.skipSign "(") ?_
      intro given _
      refine .ite_bind (keeps_params (List.forall_mem_nil _)) hnoParams ?_
      intro ps hps
      refine .bind hexpression ?_
      intro e he
      split
      · exact ih.with_body fun _ hout => (Stmt.on_iff_of_body rfl).mpr ⟨⟨hhere, hps, he⟩, hout⟩
      · exact .fail hhere _
    · -- block
      refine .andThen .advance ?_
      refine .bind .expectName ?_
      intro id _
      refine .bind (.skipWord "scoped") ?_
      intro shared _
      refine .bind (.skipWord "required") ?_
      intro required _
      refine .bind .lexeme ?_
      intro l _
      refine .ite_fail ?_
      refine .bind (ih.body _ _) ?_
      intro read hread
      have hblock : (Stmt.block here id shared required read.1).On P := (Stmt.on_iff_of_body rfl).mpr ⟨hhere, hread⟩
      exact .ite_fail (.andThen (.skipWord id) (.pure hblock))
    · -- print
      refine .andThen .advance ?_
      refine .bind (keeps_printItems trivial) ?_
      intro es hes
      have hpieces : ∀ p ∈ es.map Piece.value, p.On P := List.forall_mem_map.mpr (Expr.onAll_iff.mp hes)
      exact .pure ((Stmt.on_iff_own rfl).mpr hpieces)
    · -- extends
      refine .andThen .advance ?_
      refine .bind hexpression ?_
      intro template htemplate
      exact .pure ((Stmt.on_iff_own rfl).mpr ⟨hhere, htemplate⟩)
    · -- include
      refine .andThen .advance ?_
      refine .bind hexpression ?_
      intro e he
      refine .bind (.skipWords "ignore" "missing") ?_
      intro lenient _
      exact .andThen keeps_contextWords (hload he)
    · -- import
      refine .andThen .advance ?_
      refine .bind hexpression ?_
      intro e he
      refine .andThen (.expectWord "as") ?_
      refine .bind keeps_boundName ?_
      intro bound _
      exact .andThen keeps_contextWords (hload he)
    · -- from
      refine .andThen .advance ?_
      refine .bind hexpression ?_
      intro e he
      refine .andThen (.expectWord "import") ?_
      exact .bind keeps_importNames fun _ _ => hload he
    · -- autoescape
      refine .andThen .advance ?_
      refine .bind hexpression ?_
      intro on hon
      exact ih.with_body fun _ hout => (Stmt.on_iff_of_body rfl).mpr ⟨hon, hout⟩
    · exact .fail hhere _
  · exact .fail hhere _

end ReadsTags

/-- Reading tags keeps to the lines of the tokens, however deep they stand in each other. -/
theorem readsTags (P : Nat → Prop) (fuel : Nat) : ReadsTags P fuel := by
  induction fuel with
  | zero => exact .zero
  | succ fuel ih => exact ⟨ih.statements_succ, ih.body_succ, ih.branches_succ, ih.statement_succ⟩

end Parse

/-- What is read from tokens on lines of a kind is on such lines, and so is the fault that ends it. -/
theorem Stmt.ofScan_ends {scan : Scan} (hfirst : P 1) (h : scan.On P) :
    Ends (Stmt.OnAll P) (Refusal.On P) (Stmt.ofScan scan) := by
  have hread : Parse.Keeps P (Stmt.OnAll P) (do
      let _ ← Parse.advance
      Parse.statements (24 * (scan.tokens.length + 4)) {} [] []) :=
    .andThen .advance ((Parse.readsTags P _).statements (List.forall_mem_nil _) Stmt.onAll_nil)
  have hend := hread ⟨⟨1, .finish⟩, scan.tokens, scan.refusal, 1⟩ ⟨hfirst, h.tokens, h.refusal, hfirst⟩
  exact hend.map fun _ hbody => hbody.1

end CardPress.Template
