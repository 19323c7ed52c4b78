import CardPress.Proofs.Template.Stream
import CardPress.Template.Grammar.Statement

/-! Reading expressions: the lines that their filters and tests are said to stand on, and the line of the
fault that ends the reading, are lines of the tokens that are read. -/
namespace CardPress.Template

variable {P : Nat → Prop} {α : Type} {fuel : Nat}

namespace Expr

mutual

/-- Filters and tests in an expression, which may turn out to be unknown, are on lines of a kind. -/
def On (P : Nat → Prop) : Expr → Prop
  | .const _ => True
  | .name _ => True
  | .captured => True
  | .absent _ => True
  | .list items => OnAll P items
  | .tuple items => OnAll P items
  | .dict keys values => OnAll P keys ∧ OnAll P values
  | .field owner _ => On P owner
  | .item owner key => On P owner ∧ On P key
  | .slice start stop step => On P start ∧ On P stop ∧ On P step
  | .call callee args _ named more moreNamed =>
    On P callee ∧ OnAll P args ∧ OnAll P named ∧ OnAll P more ∧ OnAll P moreNamed
  | .filter operand line _ args _ named more moreNamed =>
    P line ∧ On P operand ∧ OnAll P args ∧ OnAll P named ∧ OnAll P more ∧ OnAll P moreNamed
  | .test operand line _ args _ named more moreNamed =>
    P line ∧ On P operand ∧ OnAll P args ∧ OnAll P named ∧ OnAll P more ∧ OnAll P moreNamed
  | .unary _ operand => On P operand
  | .binary _ left right => On P left ∧ On P right
  | .both left right => On P left ∧ On P right
  | .either left right => On P left ∧ On P right
  | .concat parts => OnAll P parts
  | .compare first _ others => On P first ∧ OnAll P others
  | .choose condition yes no => On P condition ∧ On P yes ∧ On P no

def OnAll (P : Nat → Prop) : List Expr → Prop
  | [] => True
  | e :: es => On P e ∧ OnAll P es

end

theorem onAll_iff {es : List Expr} : OnAll P es ↔ ∀ e ∈ es, e.On P := by
  induction es with
  | nil => exact ⟨fun _ => List.forall_mem_nil _, fun _ => trivial⟩
  | cons e es ih => rw [OnAll, ih, List.forall_mem_cons]

theorem onAll_reverse {es : List Expr} (h : OnAll P es) : OnAll P es.reverse :=
  onAll_iff.mpr fun e he => onAll_iff.mp h e (List.mem_reverse.mp he)

theorem on_compare {first : Expr} {ops : List CompareOp} {others : List Expr} (hfirst : first.On P)
    (hothers : OnAll P others) : (Expr.compare first ops others).On P := ⟨hfirst, hothers⟩

theorem onAll_append_single {es : List Expr} {e : Expr} (h : OnAll P es) (he : e.On P) :
    OnAll P (es ++ [e]) := by
  rw [onAll_iff, List.forall_mem_append, List.forall_mem_singleton]
  exact ⟨onAll_iff.mp h, he⟩

end Expr

namespace Parse

open CardPress.Template.Expr (On OnAll)

/-- Filters and tests in all arguments are on lines of a kind. -/
structure Arguments.On (P : Nat → Prop) (a : Arguments) : Prop where
  args : OnAll P a.args
  named : OnAll P a.named
  more : OnAll P a.more
  moreNamed : OnAll P a.moreNamed

theorem Arguments.On.empty : Arguments.On P {} := ⟨trivial, trivial, trivial, trivial⟩

/-- What reading an expression or a part of one, with an amount of fuel, leads to. -/
structure Reads (P : Nat → Prop) (fuel : Nat) : Prop where
  expression : Keeps P (On P) (expression fuel)
  conditions {here : Nat} {e : Expr} : P here → e.On P → Keeps P (On P) (conditions fuel here e)
  operand (level : Nat) : Keeps P (On P) (operand fuel level)
  operands {level here : Nat} {left : Expr} : P here → left.On P →
    Keeps P (On P) (operands fuel level here left)
  joined {here : Nat} {parts : List Expr} : P here → OnAll P parts → Keeps P (On P) (joined fuel here parts)
  comparisons {first : Expr} {ops : List CompareOp} {others : List Expr} : first.On P → OnAll P others →
    Keeps P (On P) (comparisons fuel first ops others)
  single (filters : Bool) : Keeps P (On P) (single fuel filters)
  primary : Keeps P (On P) (primary fuel)
  tuple (inlineConditions : Bool) (stops : List String) (bracketed : Bool) :
    Keeps P (On P) (tuple fuel inlineConditions stops bracketed)
  tupleItems {inlineConditions bracketed : Bool} {stops : List String} {here : Nat} {items : List Expr} :
    P here → OnAll P items → Keeps P (On P) (tupleItems fuel inlineConditions stops bracketed here items)
  listItems {items : List Expr} : OnAll P items → Keeps P (OnAll P) (listItems fuel items)
  dictItems {keys values : List Expr} : OnAll P keys → OnAll P values →
    Keeps P (fun read => OnAll P read.1 ∧ OnAll P read.2) (dictItems fuel keys values)
  suffixes {e : Expr} : e.On P → Keeps P (On P) (suffixes fuel e)
  subscripts {keys : List Expr} : OnAll P keys → Keeps P (OnAll P) (subscripts fuel keys)
  subscript : Keeps P (On P) (subscript fuel)
  arguments : Keeps P (Arguments.On P) (arguments fuel)
  argumentItems {here : Nat} {first : Bool} {a : Arguments} : P here → a.On P →
    Keeps P (Arguments.On P) (argumentItems fuel here first a)
  applications {e : Expr} : e.On P → Keeps P (On P) (applications fuel e)
  filterOf {e : Expr} : e.On P → Keeps P (On P) (filterOf fuel e)
  testOf {e : Expr} : e.On P → Keeps P (On P) (testOf fuel e)

theorem Keeps.moreText (fuel : Nat) (s : String) : Stays P (Parse.moreText fuel s) := by
  induction fuel generalizing s with
  | zero => exact .pure trivial
  | succ fuel ih =>
    refine .bind .lexeme ?_
    intro l _
    split
    · exact .andThen .advance (ih _)
    · exact .pure trivial

theorem Keeps.argumentName : Stays P Parse.argumentName := by
  refine .bind .lexeme ?_
  intro l _
  split
  · refine .bind .peek ?_
    intro next _
    exact .pure trivial
  · exact .pure trivial

namespace Reads

variable {here level : Nat} {e : Expr}

/-- Without fuel all that stops does so at the line that is read. -/
theorem stopped {Q : α → Prop} (problem : Problem) :
    Keeps P Q (do Parse.fail (← Parse.line) problem) :=
  Keeps.bind .line fun _ hline => .fail hline problem

theorem zero : Reads P 0 where
  expression := stopped _
  conditions _ he := .pure he
  operand _ := stopped _
  operands _ hleft := .pure hleft
  joined _ hparts := .pure (Expr.onAll_reverse hparts)
  comparisons hfirst hothers := .pure (Expr.on_compare hfirst (Expr.onAll_reverse hothers))
  single _ := stopped _
  primary := stopped _
  tuple _ _ _ := stopped _
  tupleItems _ _ := stopped _
  listItems _ := stopped _
  dictItems _ _ := stopped _
  suffixes he := .pure he
  subscripts _ := stopped _
  subscript := stopped _
  arguments := stopped _
  argumentItems hhere _ := .fail hhere _
  applications he := .pure he
  filterOf _ := stopped _
  testOf _ := stopped _

theorem expression_succ (ih : Reads P fuel) : Keeps P (On P) (Parse.expression (fuel + 1)) := by
  unfold Parse.expression
  refine .bind .line ?_
  intro here hhere
  refine .bind (ih.operand 1) ?_
  intro first hfirst
  exact ih.conditions hhere hfirst

theorem conditions_succ (ih : Reads P fuel) (hhere : P here) (he : e.On P) :
    Keeps P (On P) (Parse.conditions (fuel + 1) here e) := by
  unfold Parse.conditions
  refine .bind (.skipWord "if") ?_
  intro conditional _
  split
  · refine .bind (ih.operand 1) ?_
    intro condition hcondition
    refine .bind (.skipWord "else") ?_
    intro hasOther _
    refine .ite_bind ih.expression (.pure trivial) ?_
    intro other hother
    refine .bind (.placed hhere (Q := On P) ⟨hcondition, he, hother⟩) ?_
    intro chosen hchosen
    exact .bind .line fun _ hline => ih.conditions hline hchosen
  · exact .pure he

theorem operand_succ (ih : Reads P fuel) (level : Nat) : Keeps P (On P) (Parse.operand (fuel + 1) level) := by
  unfold Parse.operand
  split
  · exact stopped _
  · next hfuel =>
    cases hfuel
    refine .bind .line ?_
    intro here hhere
    refine .bind (.skipWord "not") ?_
    intro negated _
    split
    · refine .bind (ih.operand 3) ?_
      intro e he
      have hnot : (Expr.unary .negate e).On P := he
      exact .placed hhere hnot
    · exact ih.operand 4
  · next hfuel =>
    cases hfuel
    refine .bind (ih.operand 5) ?_
    intro first hfirst
    exact ih.comparisons hfirst trivial
  · next hfuel =>
    cases hfuel
    refine .bind .line ?_
    intro here hhere
    refine .bind (ih.operand 7) ?_
    intro first hfirst
    exact ih.joined hhere ⟨hfirst, trivial⟩
  · next hfuel =>
    cases hfuel
    exact ih.single true
  · next hfuel _ _ _ _ =>
    cases hfuel
    refine .bind .line ?_
    intro here hhere
    refine .bind (ih.operand _) ?_
    intro first hfirst
    exact ih.operands hhere hfirst

/-- An operator makes no line of its own. -/
theorem on_of_operator {l : Lexeme} {make : Expr → Expr → Expr} {left right : Expr}
    (h : operatorOf level l = some make) (hleft : left.On P) (hright : right.On P) :
    (make left right).On P := by
  unfold operatorOf at h
  split at h
  · obtain ⟨op, _, rfl⟩ := Option.map_eq_some_iff.mp h
    exact ⟨hleft, hright⟩
  · split at h
    · cases h
      exact ⟨hleft, hright⟩
    · split at h
      · cases h
        exact ⟨hleft, hright⟩
      · cases h
  · cases h

theorem operands_succ {left : Expr} (ih : Reads P fuel) (hhere : P here) (hleft : left.On P) :
    Keeps P (On P) (Parse.operands (fuel + 1) level here left) := by
  unfold Parse.operands
  refine .bind .lexeme ?_
  intro l _
  split
  · next make hmake =>
    refine .andThen .advance ?_
    refine .bind (ih.operand (level + 1)) ?_
    intro right hright
    refine .bind (.placed hhere (on_of_operator hmake hleft hright)) ?_
    intro e he
    exact .bind .line fun _ hline => ih.operands hline he
  · exact .pure hleft

theorem joined_succ {parts : List Expr} (ih : Reads P fuel) (hhere : P here) (hparts : OnAll P parts) :
    Keeps P (On P) (Parse.joined (fuel + 1) here parts) := by
  unfold Parse.joined
  refine .bind (.skipSign "~") ?_
  intro more _
  split
  · refine .bind (ih.operand 7) ?_
    intro part hpart
    exact ih.joined hhere ⟨hpart, hparts⟩
  · split
    · exact .pure hparts.1
    · have hconcat : (Expr.concat parts.reverse).On P := Expr.onAll_reverse hparts
      exact .placed hhere hconcat

theorem comparisons_succ {first : Expr} {ops : List CompareOp} {others : List Expr} (ih : Reads P fuel)
    (hfirst : first.On P) (hothers : OnAll P others) :
    Keeps P (On P) (Parse.comparisons (fuel + 1) first ops others) := by
  unfold Parse.comparisons
  refine .bind .lexeme ?_
  intro l _
  split
  · refine .bind .advance ?_
    intro _ _
    refine .bind (ih.operand 5) ?_
    intro other hother
    exact ih.comparisons hfirst ⟨hother, hothers⟩
  · refine .bind (.skipWords "not" "in") ?_
    intro missing _
    split
    · refine .bind (ih.operand 5) ?_
      intro other hother
      exact ih.comparisons hfirst ⟨hother, hothers⟩
    · split
      · exact .pure hfirst
      · refine .bind .line ?_
        intro here hhere
        exact .placed hhere (Expr.on_compare hfirst (Expr.onAll_reverse hothers))

theorem single_succ (ih : Reads P fuel) (filters : Bool) :
    Keeps P (On P) (Parse.single (fuel + 1) filters) := by
  have hbehind (e : Expr) (he : e.On P) : Keeps P (On P) (do
      let e ← Parse.suffixes fuel e
      if filters then Parse.applications fuel e else return e) := by
    refine .bind (ih.suffixes he) ?_
    intro e he
    split
    · exact ih.applications he
    · exact .pure he
  have hsigned (here : Nat) (op : UnaryOp) (inner : Expr) (hhere : P here) (hinner : inner.On P) :
      Keeps P (On P) (Parse.placed here (.unary op inner)) := .placed hhere hinner
  unfold Parse.single
  refine .bind .line ?_
  intro here hhere
  refine .bind .lexeme ?_
  intro l _
  refine .bind .lexeme ?_
  intro l _
  dsimp only
  split
  · refine .andThen .advance ?_
    refine .bind (ih.single false) ?_
    intro inner hinner
    exact .bind (hsigned here .minus inner hhere hinner) hbehind
  · split
    · refine .andThen .advance ?_
      refine .bind (ih.single false) ?_
      intro inner hinner
      exact .bind (hsigned here .plus inner hhere hinner) hbehind
    · exact .bind ih.primary hbehind

theorem primary_succ (ih : Reads P fuel) : Keeps P (On P) (Parse.primary (fuel + 1)) := by
  have hconstant (here : Nat) (hhere : P here) (c : Constant) :
      Keeps P (On P) (Parse.placed here (.const c)) := .placed hhere trivial
  unfold Parse.primary
  refine .bind .line ?_
  intro here hhere
  refine .bind .lexeme ?_
  intro l _
  split
  · next s =>
    refine .andThen .advance ?_
    split
    · exact hconstant here hhere _
    · have hname : (Expr.name s).On P := trivial
      exact .placed hhere hname
  · refine .andThen .advance ?_
    refine .bind (.moreText fuel _) ?_
    intro s _
    exact hconstant here hhere _
  · exact .andThen .advance (hconstant here hhere _)
  · exact .andThen .advance (hconstant here hhere _)
  · refine .andThen .advance ?_
    refine .bind (ih.tuple true [] true) ?_
    intro e he
    exact .andThen (.expectSign ")") (.pure he)
  · refine .andThen .advance ?_
    refine .bind (ih.listItems trivial) ?_
    intro items hitems
    have hlist : (Expr.list items).On P := hitems
    exact .placed hhere hlist
  · refine .andThen .advance ?_
    refine .bind (ih.dictItems trivial trivial) ?_
    rintro ⟨keys, values⟩ hread
    have hdict : (Expr.dict keys values).On P := hread
    exact .placed hhere hdict
  · exact .fail hhere _

theorem tuple_succ {stops : List String} {inlineConditions bracketed : Bool} (ih : Reads P fuel) :
    Keeps P (On P) (Parse.tuple (fuel + 1) inlineConditions stops bracketed) := by
  unfold Parse.tuple
  refine .bind .line ?_
  intro here hhere
  exact ih.tupleItems hhere trivial

theorem tupleItems_succ {stops : List String} {inlineConditions bracketed : Bool} {items : List Expr}
    (ih : Reads P fuel) (hhere : P here) (hitems : OnAll P items) :
    Keeps P (On P) (Parse.tupleItems (fuel + 1) inlineConditions stops bracketed here items) := by
  have htuple (items : List Expr) (hitems : OnAll P items) :
      Keeps P (On P) (Parse.placed here (.tuple items.reverse)) :=
    .placed hhere (Q := On P) (Expr.onAll_reverse hitems)
  unfold Parse.tupleItems
  refine .ite_skip (.expectSign ",") ?_
  refine .bind .lexeme ?_
  intro l _
  split
  · split
    · refine .bind .line ?_
      intro line hline
      exact .bind .lexeme fun _ _ => .fail hline _
    · exact htuple items hitems
  · have hbehind (item : Expr) (hitem : item.On P) : Keeps P (On P) (do
        if (← Parse.lexeme).isSign "," then
          Parse.tupleItems fuel inlineConditions stops bracketed (← Parse.line) (item :: items)
        else if items.isEmpty then return item
        else Parse.placed here (.tuple (item :: items).reverse)) := by
      refine .bind .lexeme ?_
      intro l _
      split
      · exact .bind .line fun _ hline => ih.tupleItems hline ⟨hitem, hitems⟩
      · split
        · exact .pure hitem
        · exact htuple (item :: items) ⟨hitem, hitems⟩
    exact .ite_bind ih.expression (ih.operand 1) hbehind

theorem listItems_succ {items : List Expr} (ih : Reads P fuel) (hitems : OnAll P items) :
    Keeps P (OnAll P) (Parse.listItems (fuel + 1) items) := by
  have hread : OnAll P items.reverse := Expr.onAll_reverse hitems
  unfold Parse.listItems
  refine .bind (.skipSign "]") ?_
  intro closed _
  split
  · exact .pure hread
  · refine .ite_skip (.expectSign ",") ?_
    refine .bind (.skipSign "]") ?_
    intro closed _
    split
    · exact .pure hread
    · refine .bind ih.expression ?_
      intro item hitem
      exact ih.listItems ⟨hitem, hitems⟩

theorem dictItems_succ {keys values : List Expr} (ih : Reads P fuel) (hkeys : OnAll P keys)
    (hvalues : OnAll P values) :
    Keeps P (fun read => OnAll P read.1 ∧ OnAll P read.2) (Parse.dictItems (fuel + 1) keys values) := by
  have hread : OnAll P keys.reverse ∧ OnAll P values.reverse :=
    ⟨Expr.onAll_reverse hkeys, Expr.onAll_reverse hvalues⟩
  unfold Parse.dictItems
  refine .bind (.skipSign _) ?_
  intro closed _
  split
  · exact .pure hread
  · refine .ite_skip (.expectSign ",") ?_
    refine .bind (.skipSign _) ?_
    intro closed _
    split
    · exact .pure hread
    · refine .bind ih.expression ?_
      intro key hkey
      refine .andThen (.expectSign ":") ?_
      refine .bind ih.expression ?_
      intro value hvalue
      exact ih.dictItems ⟨hkey, hkeys⟩ ⟨hvalue, hvalues⟩

/-- A call with arguments that were read. -/
theorem placed_call {e : Expr} {a : Arguments} (hhere : P here) (he : e.On P) (ha : a.On P) :
    Keeps P (On P) (Parse.placed here (.call e a.args a.names a.named a.more a.moreNamed)) := by
  have hcall : (Expr.call e a.args a.names a.named a.more a.moreNamed).On P :=
    ⟨he, ha.args, ha.named, ha.more, ha.moreNamed⟩
  exact .placed hhere hcall

theorem suffixes_succ (ih : Reads P fuel) (he : e.On P) :
    Keeps P (On P) (Parse.suffixes (fuel + 1) e) := by
  unfold Parse.suffixes
  refine .bind .lexeme ?_
  intro l _
  refine .bind .line ?_
  intro here hhere
  split
  · refine .andThen .advance ?_
    refine .bind .line ?_
    intro next hnext
    refine .bind .lexeme ?_
    intro l _
    split
    · next s =>
      have hfield : (Expr.field e s).On P := he
      refine .andThen .advance ?_
      exact .bind (.placed hhere hfield) fun _ hplaced => ih.suffixes hplaced
    · next n =>
      have hitem : (Expr.item e (.const (.whole n))).On P := ⟨he, trivial⟩
      refine .andThen .advance ?_
      exact .bind (.placed hhere hitem) fun _ hplaced => ih.suffixes hplaced
    · exact .andThen .advance (.fail hnext _)
  · split
    · refine .andThen .advance ?_
      refine .bind (ih.subscripts trivial) ?_
      intro keys hkeys
      refine .bind (.placed hhere (Q := On P) ⟨he, ?_⟩) fun _ hplaced => ih.suffixes hplaced
      split
      · exact hkeys.1
      · exact hkeys
    · split
      · refine .bind ih.arguments ?_
        intro a ha
        exact .bind (placed_call hhere he ha) fun _ hplaced => ih.suffixes hplaced
      · exact .pure he

theorem subscripts_succ {keys : List Expr} (ih : Reads P fuel) (hkeys : OnAll P keys) :
    Keeps P (OnAll P) (Parse.subscripts (fuel + 1) keys) := by
  unfold Parse.subscripts
  refine .bind (.skipSign "]") ?_
  intro closed _
  split
  · exact .pure (Expr.onAll_reverse hkeys)
  · refine .ite_skip (.expectSign ",") ?_
    refine .bind ih.subscript ?_
    intro key hkey
    exact ih.subscripts ⟨hkey, hkeys⟩

theorem subscript_succ (ih : Reads P fuel) : Keeps P (On P) (Parse.subscript (fuel + 1)) := by
  have hnothing : Keeps P (On P) (pure Parse.nothing) := .pure trivial
  unfold Parse.subscript
  refine .bind .lexeme ?_
  intro l _
  refine .ite_bind hnothing ih.expression ?_
  intro start hstart
  refine .bind (.skipSign ":") ?_
  intro sliced _
  split
  · refine .bind .lexeme ?_
    intro l _
    refine .bind .lexeme ?_
    intro l _
    refine .ite_bind hnothing ih.expression ?_
    intro stop hstop
    refine .bind (.skipSign ":") ?_
    intro stepped _
    have hslice (step : Expr) (hstep : step.On P) : Keeps P (On P) (pure (.slice start stop step)) :=
      .pure (Q := On P) ⟨hstart, hstop, hstep⟩
    dsimp only
    split
    · refine .bind .lexeme ?_
      intro l _
      refine .bind ?_ hslice
      split
      · exact hnothing
      · exact ih.expression
    · exact .bind hnothing hslice
  · exact .pure hstart

theorem arguments_succ (ih : Reads P fuel) : Keeps P (Arguments.On P) (Parse.arguments (fuel + 1)) := by
  unfold Parse.arguments
  refine .bind .line ?_
  intro here hhere
  refine .andThen (.expectSign "(") ?_
  exact ih.argumentItems hhere .empty

theorem argumentItems_succ {first : Bool} {a : Arguments} (ih : Reads P fuel) (hhere : P here) (ha : a.On P) :
    Keeps P (Arguments.On P) (Parse.argumentItems (fuel + 1) here first a) := by
  unfold Parse.argumentItems
  refine .bind (.skipSign ")") ?_
  intro closed _
  split
  · exact .pure ha
  · refine .ite_skip (.expectSign ",") ?_
    refine .bind (.skipSign ")") ?_
    intro closed _
    split
    · exact .pure ha
    · refine .bind .lexeme ?_
      intro l _
      split
      · split
        · exact .fail hhere _
        · refine .andThen .advance ?_
          refine .bind ih.expression ?_
          intro e he
          exact ih.argumentItems hhere { ha with more := ⟨he, trivial⟩ }
      · refine .bind .lexeme ?_
        intro l _
        split
        · split
          · exact .fail hhere _
          · refine .andThen .advance ?_
            refine .bind ih.expression ?_
            intro e he
            exact ih.argumentItems hhere { ha with moreNamed := ⟨he, trivial⟩ }
        · refine .bind .argumentName ?_
          intro named _
          split
          · split
            · exact .fail hhere _
            · refine .andThen .advance (.andThen .advance ?_)
              refine .bind ih.expression ?_
              intro e he
              exact ih.argumentItems hhere { ha with named := Expr.onAll_append_single ha.named he }
          · split
            · exact .fail hhere _
            · refine .bind ih.expression ?_
              intro e he
              exact ih.argumentItems hhere { ha with args := Expr.onAll_append_single ha.args he }

theorem applications_succ (ih : Reads P fuel) (he : e.On P) :
    Keeps P (On P) (Parse.applications (fuel + 1) e) := by
  unfold Parse.applications
  refine .bind .lexeme ?_
  intro l _
  refine .bind .line ?_
  intro here hhere
  refine .bind (.skipSign "|") ?_
  intro filtered _
  split
  · refine .bind (ih.filterOf he) ?_
    intro f hf
    exact ih.applications hf
  · split
    · refine .bind (ih.testOf he) ?_
      intro t ht
      exact ih.applications ht
    · split
      · refine .bind ih.arguments ?_
        intro a ha
        exact .bind (placed_call hhere he ha) fun _ hplaced => ih.applications hplaced
      · exact .pure he

theorem filterOf_succ (ih : Reads P fuel) (he : e.On P) :
    Keeps P (On P) (Parse.filterOf (fuel + 1) e) := by
  unfold Parse.filterOf
  refine .bind .line ?_
  intro here hhere
  refine .bind .expectName ?_
  intro s _
  refine .bind (.dottedName fuel s) ?_
  intro id _
  refine .bind .lexeme ?_
  intro l _
  refine .ite_bind ih.arguments (.pure .empty) ?_
  intro a ha
  have hfilter : (Expr.filter e here id a.args a.names a.named a.more a.moreNamed).On P :=
    ⟨hhere, he, ha.args, ha.named, ha.more, ha.moreNamed⟩
  exact .placed hhere hfilter

theorem testOf_succ (ih : Reads P fuel) (he : e.On P) :
    Keeps P (On P) (Parse.testOf (fuel + 1) e) := by
  unfold Parse.testOf
  refine .bind .advance ?_
  intro t hhere
  refine .bind (.skipWord "not") ?_
  intro negated _
  refine .bind .expectName ?_
  intro s _
  refine .bind (.dottedName fuel s) ?_
  intro id _
  refine .bind .lexeme ?_
  intro l _
  have hbehind (a : Arguments) (ha : a.On P) : Keeps P (On P) (Parse.placed t.line
      (if negated then .unary .negate (.test e t.line id a.args a.names a.named a.more a.moreNamed)
        else .test e t.line id a.args a.names a.named a.more a.moreNamed)) := by
    have htest : (Expr.test e t.line id a.args a.names a.named a.more a.moreNamed).On P :=
      ⟨hhere, he, ha.args, ha.named, ha.more, ha.moreNamed⟩
    refine .placed hhere ?_
    split
    · exact htest
    · exact htest
  dsimp only
  split
  · exact .bind ih.arguments hbehind
  · split
    · split
      · refine .bind .line ?_
        intro here hline
        exact .bind (.fail hline _) hbehind
      · refine .bind ih.primary ?_
        intro arg harg
        refine .bind (ih.suffixes harg) ?_
        intro arg harg
        exact .bind (.pure ⟨⟨harg, trivial⟩, trivial, trivial, trivial⟩) hbehind
    · exact .bind (.pure .empty) hbehind

end Reads

/-- Reading an expression keeps to the lines of the tokens, however deep it goes. -/
theorem reads (P : Nat → Prop) (fuel : Nat) : Reads P fuel := by
  induction fuel with
  | zero => exact .zero
  | succ fuel ih => exact {
      expression := ih.expression_succ
      conditions := ih.conditions_succ
      operand := ih.operand_succ
      operands := ih.operands_succ
      joined := ih.joined_succ
      comparisons := ih.comparisons_succ
      single := ih.single_succ
      primary := ih.primary_succ
      tuple := fun _ _ _ => ih.tuple_succ
      tupleItems := ih.tupleItems_succ
      listItems := ih.listItems_succ
      dictItems := ih.dictItems_succ
      suffixes := ih.suffixes_succ
      subscripts := ih.subscripts_succ
      subscript := ih.subscript_succ
      arguments := ih.arguments_succ
      argumentItems := ih.argumentItems_succ
      applications := ih.applications_succ
      filterOf := ih.filterOf_succ
      testOf := ih.testOf_succ }

theorem keeps_filterChain {e : Expr} (he : e.On P) (fuel : Nat) :
    Keeps P (On P) (filterChain fuel e) := by
  induction fuel generalizing e with
  | zero => exact .pure he
  | succ fuel ih =>
    refine .bind (.skipSign "|") ?_
    intro filtered _
    split
    · refine .bind ((reads P fuel).filterOf he) ?_
      intro f hf
      exact ih hf
    · exact .pure he

end Parse

end CardPress.Template
