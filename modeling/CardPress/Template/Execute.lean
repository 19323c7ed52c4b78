import CardPress.Template.Compile
import CardPress.Template.Evaluate

/-! What the statements of a template put out. -/
namespace CardPress.Template

/-- The parts of a loop that is at work. -/
structure LoopSites where
  target : Target
  condition : Option Expr
  watched : Bool
  testing : Scope
  looping : Scope
  other : Scope

namespace LoopSites

/-- An iterator over the values that the condition lets through. -/
def source (l : LoopSites) (f : Frame) (v : Value) : Run Nat := do
  let source ← v.iterate
  match l.condition with
  | none => return source
  | some condition =>
    let inner ← Frame.fresh l.testing f.homes f.context
    Value.started "generator" (.sifted source l.target condition inner false)

def repeated (next : Run Bool) : Nat → Bool → Run Bool
  | 0, started => return started
  | fuel + 1, started => do if ← next then repeated next fuel true else return started

/-- Runs the body for each value, and what stands in for it if there is none. -/
def run (l : LoopSites) (f : Frame) (v : Value) (rerun : Option Rerun) (depth : Nat)
    (body otherwise : Frame → Run Unit) : Run Unit := do
  let source ← l.source f v
  let inner := f.inside l.looping
  let shown : Value ←
    if l.watched then
      Run.keep (.loop { values := if l.condition.isSome then .object source else v, source, depth, rerun })
    else pure .none
  let next : Run Bool := do
    let found ←
      match shown with
      | .object id =>
        match ← Walk.advance id with
        | some (.tuple (w :: _)) => pure (some w)
        | _ => pure none
      | _ => Walk.advance source
    match found with
    | some w =>
      inner.assign l.target w
      if l.watched then inner.give "loop" shown
      inner.enter
      body inner
      return true
    | none => return false
  let started ← repeated next Value.memoryLimit false
  inner.leave
  if !started then
    let inner := f.inside l.other
    inner.enter
    otherwise inner
    inner.leave

end LoopSites

namespace Routine

/-- A macro's values for its parameters; those that were not given are left out. -/
def placed (params : List Param) (args : List Value) (named : List (String × Value)) :
    List (String × Option Value) :=
  (params.take args.length).map (·.id) |>.zip (args.map some) |>.append
    ((params.drop args.length).map fun p => (p.id, named.lookup p.id))

/-- The first values of a macro's names: its parameters, the body of the call, and what is left over. -/
def bindings (r : Routine) (a : Arguments) : Run (List (String × Option Value)) := do
  let params := placed r.params a.args a.named
  let ids := r.params.map (·.id)
  let used := (ids.drop a.args.length)
  let named := a.named.filter fun (k, _) => !used.contains k
  let takesCaller := r.extras.caller && !ids.contains "caller"
  let caller : List (String × Option Value) :=
    if takesCaller then
      let given := match named.lookup "caller" with
        | some .none => Value.undefined "No caller defined"
        | some v => v
        | none => Value.undefined "No caller defined"
      [("caller", some given)]
    else []
  let named := if takesCaller then named.filter (·.1 != "caller") else named
  let name := (r.id.map Text.quote).getD "None"
  let kwargs : List (String × Option Value) ←
    if r.extras.named then do
      pure [("kwargs", some (← Run.newDict (Value.namedEntries named)))]
    else
      match named with
      | [] => pure []
      | (k, _) :: _ =>
        if named.any (·.1 = "caller") then
          Run.typeTrouble (s!"macro {name} was invoked with two values for the special caller argument. "
            ++ "This is most likely a bug.")
        else Run.typeTrouble s!"macro {name} takes no keyword argument {Text.quote k}"
  if r.extras.more then
    return params ++ caller ++ kwargs ++ [("varargs", some (.tuple (a.args.drop ids.length)))]
  else if ids.length < a.args.length then
    Run.typeTrouble s!"macro {name} takes not more than {ids.length} argument(s)"
  else return params ++ caller ++ kwargs

end Routine

/-- Fails where another template is asked for, as there are no others. -/
def noLoader (several lenient : Bool) (v : Value) : Run Unit := do
  let refuse : Run Unit := Run.typeTrouble "no loader for this environment specified"
  let none_ (text : String) : Run Unit := if lenient then pure () else throw (.plain text)
  if !several || v.text?.isSome then refuse
  else
    v.defined
    if !(← v.truth) then none_ "Tried to select from an empty list of templates."
    else
      match ← Walk.advance (← v.iterate) with
      | some _ => refuse
      | none => none_ "none of the templates given were found: "

/-- The context of a block that sees the names around it. -/
def sharedContext (f : Frame) : Run Nat := do
  let s ← get
  let o := (s.contexts[f.context]?).getD {}
  let stored := f.scope.foldl (fun ids layer =>
    ids ++ layer.stored.filter (!ids.contains ·)) ([] : List String)
  let given := o.assigned.foldl (fun given (k, v) => putEntry k v given) o.given
  let given ← stored.foldlM (fun given id => do
    match f.scope.slot? id with
    | some slot =>
      match ← f.slotValue slot with
      | some v => return putEntry id v given
      | none => return given
    | none => return given) given
  set { s with contexts := s.contexts.push { given } }
  return s.contexts.size

namespace Step

mutual

def run (f : Frame) (s : Step) : Run Unit := do
  match s with
  | .output pieces =>
    pieces.forM fun piece => do
      match piece with
      | .data text => Run.say text
      | .value e =>
        let v ← e.eval f
        Run.say (← if (← get).escapes then v.safeTextOf else v.toText)
  | .branch condition yes others no =>
    if ← (← condition.eval f).truth then runAll f yes else runOthers f others (runAll f no)
  | .each target values condition watched recursive testing looping other body otherwise =>
    let v ← values.eval f
    if recursive then
      let rerun : Rerun := { target, condition, testing, looping, other, homes := f.homes
                             context := f.context, body, otherwise }
      Run.sayValue (← (← read).rerun rerun v 0)
    else
      let sites : LoopSites := { target, condition, watched, testing, looping, other }
      sites.run f v none 0 (fun inner => runAll inner body) (fun inner => runAll inner otherwise)
  | .assign target e =>
    target.spaces.forM fun id => do
      match ← f.find id with
      | .object n =>
        match ← Run.thing? n with
        | some (.space _) => pure ()
        | _ => throw (.plain "cannot assign attribute on non-namespace object")
      | _ => throw (.plain "cannot assign attribute on non-namespace object")
    f.assign target (← e.eval f)
  | .capture target filtered names body =>
    let inner := f.inside names
    inner.enter
    let captured ← Run.written (← Run.capture (runAll inner body))
    let v ← match filtered with
      | some e => e.eval { inner with captured }
      | none => pure captured
    f.assign target v
    inner.leave
  | .wrap filtered names body =>
    let inner := f.inside names
    inner.enter
    let captured ← Run.written (← Run.capture (runAll inner body))
    Run.sayValue (← filtered.eval { inner with captured })
    inner.leave
  | .scope targets values names body =>
    let inner := f.inside names
    inner.enter
    (targets.zip values).forM fun (t, e) => do inner.assign t (← e.eval f)
    runAll inner body
    inner.leave
  | .define id params extras names body =>
    f.give id (← Run.keep (.routine
      { id := some id, params, extras, scope := names, homes := f.homes, context := f.context, body }))
  | .callWith call params extras names body =>
    let caller ← Run.keep (.routine
      { id := none, params, extras, scope := names, homes := f.homes, context := f.context, body })
    match call with
    | .call callee args ids named more moreNamed =>
      let v ← callee.eval f
      let a ← Arguments.gather Expr.callPath (Expr.evalAll f args) (ids ++ ["caller"])
        (do return (← Expr.evalAll f named) ++ [caller]) (Expr.evalAll f more)
        (Expr.evalAll f moreNamed)
      Run.sayValue (← v.call a)
    | e => Run.sayValue (← e.eval f)
  | .block id shared required =>
    if required then throw (.plain s!"Required block {Text.quote id} not found")
    let context ← if shared then sharedContext f else pure f.context
    Run.sayValue (← (← read).block id context)
  | .load template several lenient => do noLoader several lenient (← template.eval f)
  | .escaping on names body =>
    let inner := f.inside names
    inner.enter
    let before := (← get).escapes
    let escapes ← (← on.eval inner).truth
    modify fun s => { s with escapes }
    runAll inner body
    modify fun s => { s with escapes := before }
    inner.leave

def runAll (f : Frame) (steps : List Step) : Run Unit := do
  match steps with
  | [] => pure ()
  | s :: rest =>
    run f s
    runAll f rest

/-- Runs the first branch whose condition holds. -/
def runOthers (f : Frame) (others : List (Expr × List Step)) (no : Run Unit) : Run Unit := do
  match others with
  | [] => no
  | (condition, yes) :: rest =>
    if ← (← condition.eval f).truth then runAll f yes else runOthers f rest no

end

end Step

/-- Runs a macro. -/
def Routine.run (r : Routine) (a : Arguments) : Run Value := do
  let given ← r.bindings a
  let f ← Frame.fresh r.scope r.homes r.context
  given.forM fun (id, v) => do
    match f.scope.slot? id with
    | some slot => f.setSlot slot v
    | none => pure ()
  f.enter
  let body : Run Unit := do
    r.params.forM fun p => do
      if (given.lookup p.id).join.isNone then
        f.give p.id (← match p.standard with
          | some e => e.eval f
          | none => pure (.undefined s!"parameter {Text.quote p.id} was not provided"))
    Step.runAll f r.body
  Run.written (← Run.capture body)

/-- Runs a recursive loop for some values. -/
def Rerun.run (r : Rerun) (v : Value) (depth : Nat) : Run Value := do
  let inner ← Frame.fresh r.looping r.homes r.context
  let f : Frame := { scope := r.looping.tail, homes := inner.homes, context := r.context }
  let sites : LoopSites :=
    { target := r.target, condition := r.condition, watched := true, testing := r.testing
      looping := r.looping, other := r.other }
  let work := sites.run f v (some r) depth (fun inner => Step.runAll inner r.body)
    (fun inner => Step.runAll inner r.otherwise)
  Run.written (← Run.capture work)

/-- Gives a name its value if the frame takes it from outside. -/
def Frame.offer (f : Frame) (id : String) (v : Run Value) : Run Unit := do
  match f.origins.find? fun (slot, _) => slot.id = id with
  | some (slot, .given) => f.putSlot slot (← v)
  | _ => pure ()

/-- Runs a block by name. -/
def runBlock (id : String) (context : Nat) : Run Value := do
  match (← get).blocks.find? (·.id = id) with
  | none => return .blank
  | some b =>
    let f ← Frame.fresh b.scope [] context
    f.offer "self" (Run.keep (.blocks context))
    f.offer "super" (pure (.undefined s!"there is no parent block called {Text.quote id}."))
    f.enter
    Run.written (← Run.capture (Step.runAll f b.body))

/-- The next value that the condition of a loop lets through. -/
def sift (id : Nat) : Run (Option Value) := do
  match ← Run.thing? id with
  | some (.iterator kind (.sifted source target condition f entered)) =>
    if !entered then
      f.enter
      Run.change id (.iterator kind (.sifted source target condition f true))
    let rec search : Nat → Run (Option Value)
      | 0 => return none
      | fuel + 1 => do
        match ← Walk.advance source with
        | none =>
          Run.change id (.iterator kind (.given [] none))
          return none
        | some v =>
          f.assign target v
          if ← (← condition.eval f).truth then return some (← f.current target) else search fuel
    search Value.memoryLimit
  | _ => return none

namespace Agents

/-- What statements do for values, while macros and loops stand inside each other no deeper than a
number says. -/
def within : Nat → Agents
  | 0 =>
    let tooDeep {α : Type} : Base α := throw ⟨.recursion, "maximum recursion depth exceeded"⟩
    { call := fun _ _ => tooDeep, rerun := fun _ _ _ => tooDeep, block := fun _ _ => tooDeep
      sift := fun _ => tooDeep }
  | n + 1 =>
    { call := fun r a => (r.run a).run (within n)
      rerun := fun r v depth => (r.run v depth).run (within n)
      block := fun id context => (runBlock id context).run (within n)
      sift := fun id => (Template.sift id).run (within n) }

end Agents

namespace Plan

def deepest : Nat := 230

/-- The text of a template; `given` are the names that it finds outside. -/
def work (p : Plan) (given : Run (List (String × Value))) : Run String := do
  let given ← given
  modify fun s => { s with contexts := s.contexts.push { given }, blocks := p.blocks }
  let f ← Frame.fresh p.scope [] 0
  let f := { f with top := true }
  f.offer "self" (Run.keep (.blocks 0))
  f.enter
  Run.capture (Step.runAll f p.body)

def run (p : Plan) (given : Run (List (String × Value))) : Except Trouble String :=
  (((p.work given).run (Agents.within deepest)).run {}).map (·.1)

end Plan

end CardPress.Template
