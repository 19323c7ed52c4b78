import CardPress.Template.Tree

/-! Which place a name stands for: each frame of a template binds the names that are assigned in it,
and finds the others in the frames around it or in the card. -/
namespace CardPress.Template

/-- A place for a value, named after the depth of its frame. -/
structure Slot where
  level : Nat
  id : String
  deriving DecidableEq, Repr

/-- What a slot holds when its frame is entered. -/
inductive Origin where
  | given
  | context (id : String)
  | outer (slot : Slot)
  | unset
  deriving DecidableEq, Repr

/-- The names known in one frame, where they are kept, and which of them are assigned in it. -/
structure Layer where
  level : Nat
  slots : List (String × Slot) := []
  origins : List (Slot × Origin) := []
  stored : List String := []

/-- The frames around a place of the template, innermost first. -/
abbrev Scope := List Layer

/-- Puts an entry in the place of an older one with the same key, or at the end. -/
def putEntry {α β : Type} [BEq α] (key : α) (value : β) : List (α × β) → List (α × β)
  | [] => [(key, value)]
  | (k, v) :: rest => if k == key then (key, value) :: rest else (k, v) :: putEntry key value rest

namespace Layer

def define (id : String) (origin : Origin) (layer : Layer) : Layer :=
  let slot : Slot := ⟨layer.level, id⟩
  { layer with slots := putEntry id slot layer.slots, origins := putEntry slot origin layer.origins }

def note (id : String) (layer : Layer) : Layer :=
  if layer.stored.contains id then layer else { layer with stored := layer.stored ++ [id] }

end Layer

namespace Scope

def root : Scope := [{ level := 0 }]

def inner (scope : Scope) : Scope :=
  { level := ((scope.head?.map (·.level + 1)).getD 0) } :: scope

def slot? (id : String) : Scope → Option Slot
  | [] => none
  | layer :: outer =>
    match layer.slots.lookup id with
    | some slot => some slot
    | none => slot? id outer

def change (f : Layer → Layer) : Scope → Scope
  | [] => []
  | layer :: outer => f layer :: outer

/-- A name is read. -/
def load (id : String) (scope : Scope) : Scope :=
  match scope.slot? id with
  | some _ => scope
  | none => scope.change (·.define id (.context id))

/-- A name is assigned. -/
def store (id : String) (scope : Scope) : Scope :=
  match scope with
  | [] => []
  | layer :: outer =>
    let layer := layer.note id
    if (layer.slots.lookup id).isSome then layer :: outer
    else
      match slot? id outer with
      | some slot => layer.define id (.outer slot) :: outer
      | none => layer.define id .unset :: outer

/-- A name is given its value from outside whenever the frame is entered. -/
def give (id : String) (scope : Scope) : Scope :=
  scope.change fun layer => (layer.note id).define id .given

/-- Brings together what the branches of a condition do: a name that only they assign keeps the value
from outside until then. -/
def join (branches : List Scope) (scope : Scope) : Scope :=
  match scope with
  | [] => []
  | layer :: outer =>
    let layers := branches.filterMap List.head?
    let merged : Layer := layers.foldl (fun (sum : Layer) (l : Layer) =>
      { sum with
        slots := l.slots.foldl (fun slots (id, slot) => putEntry id slot slots) sum.slots
        origins := l.origins.foldl (fun origins (slot, o) => putEntry slot o origins) sum.origins
        stored := l.stored.foldl (fun ids id => if ids.contains id then ids else ids ++ [id]) sum.stored })
      layer
    let fresh := merged.stored.filter (!layer.stored.contains ·)
    let settle (sum : Layer) (id : String) : Layer :=
      match sum.slots.lookup id with
      | none => sum
      | some slot =>
        let origin := match slot? id outer with
          | some other => Origin.outer other
          | none => .context id
        { sum with origins := putEntry slot origin sum.origins }
    fresh.foldl settle merged :: outer

end Scope

namespace Expr

mutual

/-- The names that an expression reads, in order. -/
def names : Expr → List String
  | .const _ | .captured | .absent _ => []
  | .name id => [id]
  | .list items => namesIn items
  | .tuple items => namesIn items
  | .dict keys values => namesIn keys ++ namesIn values
  | .field owner _ => names owner
  | .item owner key => names owner ++ names key
  | .slice a b c => names a ++ names b ++ names c
  | .call f args _ named more moreNamed =>
    names f ++ namesIn args ++ namesIn named ++ namesIn more ++ namesIn moreNamed
  | .filter e _ _ args _ named more moreNamed =>
    names e ++ namesIn args ++ namesIn named ++ namesIn more ++ namesIn moreNamed
  | .test e _ _ args _ named more moreNamed =>
    names e ++ namesIn args ++ namesIn named ++ namesIn more ++ namesIn moreNamed
  | .unary _ e => names e
  | .binary _ a b => names a ++ names b
  | .both a b => names a ++ names b
  | .either a b => names a ++ names b
  | .concat parts => namesIn parts
  | .compare first _ others => names first ++ namesIn others
  | .choose condition yes no => names condition ++ names yes ++ names no

def namesIn : List Expr → List String
  | [] => []
  | e :: es => names e ++ namesIn es

end

end Expr

namespace Target

mutual

/-- The names that a target binds. -/
def bound : Target → List String
  | .name id _ => [id]
  | .place .. => []
  | .tuple items => boundIn items

def boundIn : List Target → List String
  | [] => []
  | t :: ts => bound t ++ boundIn ts

end

mutual

/-- The namespaces that a target writes to, each once. -/
def spaces : Target → List String
  | .name .. => []
  | .place space _ => [space]
  | .tuple items => spacesIn items

def spacesIn : List Target → List String
  | [] => []
  | t :: ts => spaces t ++ (spacesIn ts).filter (!(spaces t).contains ·)

end

end Target

namespace Scope

def read (e : Expr) (scope : Scope) : Scope := e.names.foldl (fun scope id => load id scope) scope

def readAll (es : List Expr) (scope : Scope) : Scope := es.foldl (fun scope e => read e scope) scope

mutual

/-- Names of namespaces are read, the others assigned. -/
def assign (target : Target) (scope : Scope) : Scope :=
  match target with
  | .name id _ => store id scope
  | .place space _ => load space scope
  | .tuple items => assignAll items scope

def assignAll (targets : List Target) (scope : Scope) : Scope :=
  match targets with
  | [] => scope
  | t :: ts => assignAll ts (assign t scope)

end

def giveAll (ids : List String) (scope : Scope) : Scope := ids.foldl (fun scope id => give id scope) scope

mutual

/-- What a statement does to the names of the frame that it stands in. The bodies of loops and other
frames of their own do not count. -/
def visit (s : Stmt) (scope : Scope) : Scope :=
  match s with
  | .output pieces =>
    pieces.foldl (fun scope piece =>
      match piece with
      | .data _ => scope
      | .value e => read e scope) scope
  | .branch condition yes others no =>
    let scope := read condition scope
    join [visitAll yes scope, visitOthers others scope, visitAll no scope] scope
  | .each _ values _ _ _ _ => read values scope
  | .assign target value => assign target (read value scope)
  | .capture target _ _ => assign target scope
  | .wrap filtered _ => read filtered scope
  | .scope _ values _ => readAll values scope
  | .define _ id _ _ => store id scope
  | .callWith _ _ call _ => read call scope
  | .block .. => scope
  | .load template _ _ ids => ids.foldl (fun scope id => store id scope) (read template scope)
  | .extend _ template => read template scope
  | .escaping .. => scope

def visitAll (ss : List Stmt) (scope : Scope) : Scope :=
  match ss with
  | [] => scope
  | s :: ss => visitAll ss (visit s scope)

/-- Further branches, each a condition of its own. -/
def visitOthers (others : List (Expr × List Stmt)) (scope : Scope) : Scope :=
  match others with
  | [] => scope
  | (condition, yes) :: rest =>
    let before := read condition scope
    visitOthers rest (join [visitAll yes before, before, before] before)

end

end Scope

mutual

/-- Whether a name is read before it is bound; blocks keep their names to themselves. Gives nothing
more once the name was bound. -/
def Stmt.reads (id : String) (s : Stmt) : Option Bool :=
  match s with
  | .output pieces =>
    if pieces.any fun | .value e => e.names.contains id | .data _ => false then some true else none
  | .branch condition yes others no =>
    if condition.names.contains id then some true
    else
      match Stmt.readsIn id yes with
      | some r => some r
      | none =>
        match Stmt.readsInOthers id others with
        | some r => some r
        | none => Stmt.readsIn id no
  | .each target values condition _ body otherwise =>
    if target.bound.contains id then some false
    else if values.names.contains id then some true
    else
      match Stmt.readsIn id body with
      | some r => some r
      | none =>
        match Stmt.readsIn id otherwise with
        | some r => some r
        | none =>
          match condition with
          | some e => if e.names.contains id then some true else none
          | none => none
  | .assign target value =>
    if target.bound.contains id then some false
    else if value.names.contains id then some true
    else none
  | .capture target filtered body =>
    if target.bound.contains id then some false
    else
      match filtered with
      | some e => if e.names.contains id then some true else Stmt.readsIn id body
      | none => Stmt.readsIn id body
  | .wrap filtered body =>
    match Stmt.readsIn id body with
    | some r => some r
    | none => if filtered.names.contains id then some true else none
  | .scope targets values body =>
    if (Target.boundIn targets).contains id then some false
    else if (Expr.namesIn values).contains id then some true
    else Stmt.readsIn id body
  | .define _ _ params body =>
    if (params.map (·.id)).contains id then some false
    else if params.any fun p => (p.standard.map (·.names.contains id)).getD false then some true
    else Stmt.readsIn id body
  | .callWith _ params call body =>
    if call.names.contains id then some true
    else if (params.map (·.id)).contains id then some false
    else if params.any fun p => (p.standard.map (·.names.contains id)).getD false then some true
    else Stmt.readsIn id body
  | .block .. => none
  | .load template _ _ _ => if template.names.contains id then some true else none
  | .extend _ template => if template.names.contains id then some true else none
  | .escaping on body => if on.names.contains id then some true else Stmt.readsIn id body

def Stmt.readsIn (id : String) (ss : List Stmt) : Option Bool :=
  match ss with
  | [] => none
  | s :: ss =>
    match Stmt.reads id s with
    | some r => some r
    | none => Stmt.readsIn id ss

def Stmt.readsInOthers (id : String) (others : List (Expr × List Stmt)) : Option Bool :=
  match others with
  | [] => none
  | (condition, yes) :: rest =>
    if condition.names.contains id then some true
    else
      match Stmt.readsIn id yes with
      | some r => some r
      | none => Stmt.readsInOthers id rest

end

/-- Whether a name is read in a body before anything binds it. -/
def Stmt.asksFor (id : String) (body : List Stmt) : Bool := (Stmt.readsIn id body).getD false

/-! Templates as they are run: statements together with the names of the frames that they open. -/

/-- What a macro takes besides its parameters, because its body asks for it: the body of the call,
further named arguments, and further positional ones. -/
structure Extras where
  caller : Bool := false
  named : Bool := false
  more : Bool := false
  deriving DecidableEq, Repr

/-- In `each`, `watched` says whether the state of the loop can be asked for, and the three scopes are
those of its condition, of its body and of what is done instead. -/
inductive Step where
  | output (pieces : List Piece)
  | branch (condition : Expr) (yes : List Step) (others : List (Expr × List Step)) (no : List Step)
  | each (target : Target) (values : Expr) (condition : Option Expr) (watched recursive : Bool)
      (testing looping other : Scope) (body otherwise : List Step)
  | assign (target : Target) (value : Expr)
  | capture (target : Target) (filtered : Option Expr) (inner : Scope) (body : List Step)
  | wrap (filtered : Expr) (inner : Scope) (body : List Step)
  | scope (targets : List Target) (values : List Expr) (inner : Scope) (body : List Step)
  | define (id : String) (params : List Param) (extras : Extras) (inner : Scope) (body : List Step)
  | callWith (call : Expr) (params : List Param) (extras : Extras) (inner : Scope) (body : List Step)
  | block (id : String) (shared required : Bool)
  | load (template : Expr) (several lenient : Bool)
  | escaping (on : Expr) (inner : Scope) (body : List Step)

/-- A part of the template that can stand elsewhere by its name. -/
structure Block where
  id : String
  scope : Scope
  body : List Step

/-- The frames of a template, the values of which are kept for a run. -/
structure Plan where
  scope : Scope
  body : List Step
  blocks : List Block

end CardPress.Template
