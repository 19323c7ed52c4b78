import CardPress.Template.Fold
import CardPress.Template.Grammar.Statement

/-! Statements made ready to be run: names are settled, and parts that depend on no card are computed. -/
namespace CardPress.Template

namespace Stmt

mutual

/-- A statement and all that stand inside of it, each before its own parts. -/
def parts (s : Stmt) : List Stmt :=
  s ::
    match s with
    | .branch _ yes others no => partsIn yes ++ partsInOthers others ++ partsIn no
    | .each _ _ _ _ body otherwise => partsIn body ++ partsIn otherwise
    | .capture _ _ body => partsIn body
    | .wrap _ body => partsIn body
    | .scope _ _ body => partsIn body
    | .define _ _ _ body => partsIn body
    | .callWith _ _ _ body => partsIn body
    | .block _ _ _ _ body => partsIn body
    | .escaping _ body => partsIn body
    | .output _ => []
    | .assign .. => []
    | .load .. => []
    | .extend .. => []

def partsIn (ss : List Stmt) : List Stmt :=
  match ss with
  | [] => []
  | s :: ss => parts s ++ partsIn ss

def partsInOthers (others : List (Expr × List Stmt)) : List Stmt :=
  match others with
  | [] => []
  | (_, yes) :: rest => partsIn yes ++ partsInOthers rest

end

end Stmt

namespace Target

mutual

/-- The names that a target binds and the lines that they stand on. -/
def places : Target → List (String × Nat)
  | .name id line => [(id, line)]
  | .place .. => []
  | .tuple items => placesIn items

def placesIn : List Target → List (String × Nat)
  | [] => []
  | t :: ts => places t ++ placesIn ts

end

end Target

namespace Stmt

/-- The lines on which a name is assigned in a loop. -/
def assignments (id : String) (target : Target) (parts : List Stmt) : List Nat :=
  let targets := target :: parts.filterMap fun
    | .each target _ _ _ _ _ => some target
    | .assign target _ => some target
    | .capture target _ _ => some target
    | _ => none
  targets.flatMap fun t => (t.places.filter (·.1 = id)).map (·.2)

def isShared : Stmt → Bool
  | .block _ _ shared _ _ => shared
  | _ => false

def isExtend : Stmt → Bool
  | .extend .. => true
  | _ => false

/-- The first block whose name an earlier one has. -/
def repeatedBlock (seen : List String) : List Stmt → Option Fault
  | [] => none
  | .block line id _ _ _ :: rest =>
    if seen.contains id then some ⟨.blockTwice id, line⟩ else repeatedBlock (id :: seen) rest
  | _ :: rest => repeatedBlock seen rest

end Stmt

/-- Where in a template a statement stands: the frames around it, whether these are the outermost one
alone, whether no condition is around it either, whether one is around it in its own frame, whether what
is printed here gives way to another template, and whether printed values are escaped. -/
structure Site where
  scope : Scope
  top : Bool := false
  bare : Bool := false
  soft : Bool := false
  yields : Bool := false
  escapes : Bool := false

namespace Site

/-- A frame inside of another one. -/
def inside (site : Site) (scope : Scope) : Site :=
  { scope, yields := site.yields, escapes := site.escapes }

end Site

/-- Whether another template was asked for, and whether it surely takes the place of this one. -/
structure Replacement where
  asked : Bool := false
  certain : Bool := false

abbrev Planning := StateT Replacement (Except Refusal)

namespace Planning

def ofExcept {α : Type} (e : Except Refusal α) : Planning α := e

def fault {α : Type} (problem : Problem) (line : Nat) : Planning α := throw (.fault ⟨problem, line⟩)

def value (site : Site) (e : Expr) : Planning Expr := ofExcept (e.prepared site.soft)

def values (site : Site) (es : List Expr) : Planning (List Expr) := es.mapM (value site)

/-- Neighbouring parts of the output that are the same for every card become one. -/
def joined : List Piece → List Piece
  | [] => []
  | .data s :: rest =>
    match joined rest with
    | .data t :: rest => .data (s ++ t) :: rest
    | rest => .data s :: rest
  | p :: rest => p :: joined rest

def piece (site : Site) (p : Piece) : Planning Piece := do
  match p with
  | .data s => return .data s
  | .value e =>
    match if site.escapes then none else e.text? with
    | some s => return .data s
    | none => return .value (← value site e)

/-- A name that no frame around a place knows. -/
def checkNames (scope : Scope) (e : Expr) : Planning Unit := do
  match e.names.find? fun id => (scope.slot? id).isNone with
  | some id =>
    throw (.trouble ⟨.assertion,
      "Tried to resolve a name to a reference that was unknown to the frame (" ++ Text.quote id ++ ")"⟩)
  | none => pure ()

/-- The frame of a macro, and what its body asks for. -/
def routine (site : Site) (line : Nat) (params : List Param) (body : List Stmt) :
    Planning (Scope × Extras × List Param) := do
  let ids := params.map (·.id)
  let scope := site.scope.inner.giveAll ids
  let scope := (scope.readAll (params.filterMap (·.standard))).visitAll body
  let asks (id : String) : Bool := Stmt.asksFor id body
  if asks "caller" && params.any fun p => p.id = "caller" && p.standard.isNone then
    fault .callerParameter line
  let extras : Extras :=
    { caller := asks "caller"
      named := asks "kwargs" && !ids.contains "kwargs"
      more := asks "varargs" && !ids.contains "varargs" }
  let given := (if extras.caller && !ids.contains "caller" then ["caller"] else [])
    ++ (if extras.named then ["kwargs"] else []) ++ (if extras.more then ["varargs"] else [])
  let scope := scope.giveAll given
  let params ← params.mapM fun p => do
    match p.standard with
    | some e => return ({ p with standard := some (← value { scope } e) } : Param)
    | none => return p
  return (scope, extras, params)

mutual

def step (site : Site) (s : Stmt) : Planning (List Step) := do
  match s with
  | .output pieces =>
    if site.yields && (← get).certain then return []
    else return [.output (joined (← pieces.mapM (piece site)))]
  | .branch condition yes others no =>
    let site := { site with bare := false, soft := true }
    let condition ← value site condition
    let yes ← steps site yes
    let others ← otherSteps site others
    return [.branch condition yes others (← steps site no)]
  | .each target values condition recursive body otherwise =>
    let parts := Stmt.partsIn body ++ Stmt.partsIn otherwise
    let watched := recursive || Stmt.asksFor "loop" body || parts.any (·.isShared)
    let ids := target.bound
    let testing := (condition.toList).foldl (fun scope e => scope.read e) (site.scope.inner.giveAll ids)
    let looping := if watched then site.scope.inner.give "loop" else site.scope.inner
    let looping := (looping.giveAll ids).visitAll body
    let other := site.scope.inner.visitAll otherwise
    let condition ← condition.mapM (value (site.inside testing))
    match Stmt.assignments "loop" target parts with
    | line :: _ => fault .assignedLoop line
    | [] => pure ()
    let early ← if recursive then pure none else some <$> value site values
    let body ← steps (site.inside looping) body
    let otherwise ← steps (site.inside other) otherwise
    let values ← match early with
      | some e => pure e
      | none => value site values
    return [.each target values condition watched recursive testing looping other body otherwise]
  | .assign target e => return [.assign target (← value site e)]
  | .capture target filtered body =>
    let scope := site.scope.inner.visitAll body
    let place := { site.inside scope with yields := false }
    let body ← steps place body
    let filtered ← filtered.mapM (value place)
    match filtered with
    | some e => checkNames scope e
    | none => pure ()
    return [.capture target filtered scope body]
  | .wrap filtered body =>
    let scope := (site.scope.inner.visitAll body).read filtered
    let body ← steps (site.inside scope) body
    return [.wrap (← value (site.inside scope) filtered) scope body]
  | .scope targets es body =>
    let scope := (site.scope.inner.giveAll (Target.boundIn targets)).visitAll body
    let es ← values site es
    return [.scope targets es scope (← steps (site.inside scope) body)]
  | .define line id params body =>
    let (scope, extras, params) ← routine site line params body
    let body ← steps { site.inside scope with yields := false } body
    return [.define id params extras scope body]
  | .callWith line params call body =>
    let (scope, extras, params) ← routine site line params body
    let body ← steps { site.inside scope with yields := false } body
    return [.callWith (← value site call) params extras scope body]
  | .block _ id shared required _ =>
    if site.top && (← get).certain then return []
    else return [.block id shared required]
  | .load template several lenient _ => return [.load (← value site template) several lenient]
  | .extend line template =>
    if !site.top then fault .innerExtend line
    else
      let template ← value site template
      set ({ asked := true, certain := (← get).certain || site.bare } : Replacement)
      return [.load template false false]
  | .escaping on body =>
    let scope := (site.scope.inner.read on).visitAll body
    let place := { site.inside scope with escapes := true }
    let on ← value place on
    return [.escaping on scope (← steps place body)]

/-- Nothing behind a second request for another template is looked at. -/
def steps (site : Site) (ss : List Stmt) : Planning (List Step) := do
  match ss with
  | [] => return []
  | s :: ss =>
    let r ← get
    if s.isExtend && site.top && r.asked && r.certain then return []
    else
      let first ← step site s
      return first ++ (← steps site ss)

def otherSteps (site : Site) (others : List (Expr × List Stmt)) :
    Planning (List (Expr × List Step)) := do
  match others with
  | [] => return []
  | (condition, yes) :: rest =>
    let condition ← value site condition
    let yes ← steps site yes
    return (condition, yes) :: (← otherSteps site rest)

end

def block (parts : Stmt) : Planning (List Block) := do
  match parts with
  | .block _ id _ _ body =>
    let given := ["self", "super"].filter fun id => Stmt.asksFor id body
    let scope := (Scope.root.giveAll given).visitAll body
    return [⟨id, scope, ← steps { scope } body⟩]
  | _ => return []

end Planning

namespace Plan

def plan (body : List Stmt) : Planning Plan := do
  let parts := Stmt.partsIn body
  match Stmt.repeatedBlock [] parts with
  | some f => throw (.fault f)
  | none => pure ()
  let given := if Stmt.asksFor "self" body then ["self"] else []
  let scope := (Scope.root.giveAll given).visitAll body
  let main ← Planning.steps { scope, top := true, bare := true, yields := parts.any (·.isExtend) } body
  return ⟨scope, main, (← parts.mapM Planning.block).flatten⟩

/-- Settles the names of a template and computes ahead what can be. -/
def ofStmts (body : List Stmt) : Except Refusal Plan := ((plan body).run {}).map (·.1)

end Plan

end CardPress.Template
