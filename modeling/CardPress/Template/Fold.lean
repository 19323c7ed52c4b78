import CardPress.Template.Filter

/-! Computing ahead what parts of expressions give that depend on no card. -/
namespace CardPress.Template

namespace Constant

/-- The name that stands where a number that is not finite is written. -/
def nameOf? (x : Float) : Option String :=
  if x.isNaN then some "nan" else if x.isInf then some "inf" else Option.none

def noName {α : Type} (id : String) : Run α := Run.trouble .name s!"name '{id}' is not defined"

/-- A complex number as it is read back from its text: a sum or a difference of its parts. -/
def complexFrom (re im : Float) : Complex :=
  if re == 0.0 && !Value.isMinus re then (if Value.isMinus im then ⟨-0.0, im⟩ else ⟨0.0, im⟩)
  else
    let re := if re == 0.0 then 0.0 else re
    if Value.isMinus im then ⟨re - 0.0, 0.0 - im.abs⟩ else ⟨re + 0.0, 0.0 + im⟩

mutual

/-- The value that is written down. Numbers that are not finite have no way to be written. -/
def value : Constant → Run Value
  | .none => return .none
  | .bool b => return .bool b
  | .whole n => return .whole n
  | .real x =>
    match nameOf? x with
    | some id => noName id
    | Option.none => return .real x 0
  | .complex re im =>
    match nameOf? re, nameOf? im with
    | some id, _ => noName id
    | Option.none, some id => noName (id ++ "j")
    | Option.none, Option.none => return Value.ofComplex (complexFrom re im)
  | .text s => return .text s
  | .safe s => return .safe s
  | .range a b c => return .range a b c
  | .list items => do Run.newList (← values items)
  | .tuple items => return .tuple (← values items)
  | .dict keys vals => do
    let keys ← values keys
    let vals ← values vals
    Run.newDict (← Value.entriesFrom [] (keys.zip vals))

def values : List Constant → Run (List Value)
  | [] => return []
  | c :: cs => do
    let v ← value c
    return v :: (← values cs)

end

mutual

/-- The value that a constant stands for while expressions are computed ahead. -/
def ready : Constant → Run Value
  | .none => return .none
  | .bool b => return .bool b
  | .whole n => return .whole n
  | .real x => Run.real x
  | .complex re im => return .complex re im
  | .text s => return .text s
  | .safe s => return .safe s
  | .range a b c => return .range a b c
  | .list items => do Run.newList (← readyAll items)
  | .tuple items => return .tuple (← readyAll items)
  | .dict keys vals => do
    let keys ← readyAll keys
    Run.newDict (keys.zip (← readyAll vals))

def readyAll : List Constant → Run (List Value)
  | [] => return []
  | c :: cs => do
    let v ← ready c
    return v :: (← readyAll cs)

end

mutual

/-- Fails if a number in the constant is too long to be written. -/
def writable : Constant → Run Unit
  | .whole n => do let _ ← Value.wholeText n
  | .list items => writableAll items
  | .tuple items => writableAll items
  | .dict keys vals => do
    writableAll keys
    writableAll vals
  | _ => return ()

def writableAll : List Constant → Run Unit
  | [] => return ()
  | c :: cs => do
    writable c
    writableAll cs

end

end Constant

namespace Value

/-- The constant that a value can be written as; fuel bounds how deep it goes. -/
def constantFrom? : Nat → Value → Run (Option Constant)
  | 0, _ => return Option.none
  | fuel + 1, v => do
    let all (vs : List Value) : Run (Option (List Constant)) := do
      let cs ← vs.mapM (constantFrom? fuel)
      return cs.mapM id
    match v with
    | none => return some .none
    | bool b => return some (.bool b)
    | whole n => return some (.whole n)
    | real x _ => return some (.real x)
    | complex re im => return some (.complex re im)
    | text s => return some (.text s)
    | safe s => return some (.safe s)
    | range a b c => return some (.range a b c)
    | tuple items => return (← all items).map .tuple
    | object n =>
      match ← Run.thing? n with
      | some (.list items) => return (← all items.toList).map .list
      | some (.dict entries) =>
        match ← all (entries.map (·.1)), ← all (entries.map (·.2)) with
        | some keys, some vals => return some (.dict keys vals)
        | _, _ => return Option.none
      | _ => return Option.none
    | _ => return Option.none

def constant? (v : Value) : Run (Option Constant) := constantFrom? 100 v

def binary : BinaryOp → Value → Value → Run Value
  | .add => add
  | .sub => sub
  | .mul => mul
  | .div => div
  | .floorDiv => floorDiv
  | .mod => mod
  | .pow => pow

def unary (op : UnaryOp) (v : Value) : Run Value := do
  match op with
  | .plus => plus v
  | .minus => minus v
  | .negate => return bool !(← v.truth)

/-- Named arguments out of a mapping. -/
def namedFrom (path : String) (v : Value) : Run (List (String × Value)) := do
  v.defined
  let refuse : Run (List (String × Value)) := do
    Run.typeTrouble (path ++ "() argument after ** must be a mapping, not " ++ (← v.typeName))
  match v with
  | object n =>
    match ← Run.thing? n with
    | some (.dict entries) =>
      entries.mapM fun (k, w) => do
        match k.text? with
        | some s => return (s, w)
        | Option.none => Run.typeTrouble "keywords must be strings"
    | _ => refuse
  | _ => refuse

/-- Named arguments after those that are there; a repeated name keeps its place. -/
def mergedNames (named more : List (String × Value)) : List (String × Value) :=
  more.foldl (fun named (k, v) => CardPress.Template.putEntry k v named) named

end Value

/-- What computing ahead gives: a value, or nothing if it has to wait. Failures of operators make an
expression wait; the others stop the template. -/
abbrev Ahead := Run (Option Value)

namespace Ahead

def waitOnTrouble (act : Ahead) : Ahead := do
  match ← Run.attempt act with
  | .ok v => return v
  | .error _ => return none

/-- A mapping whose entries are put in one after the other. -/
def entries (known : List (Value × Value)) : List (Ahead × Ahead) → Ahead
  | [] => do return some (← Run.newDict known)
  | (key, value) :: rest => do
    match ← key with
    | some k =>
      match ← value with
      | some v => entries (← Value.entriesFrom known [(k, v)]) rest
      | none => return none
    | none => return none

/-- Brings the arguments of a filter or test together. Failures of the further ones only mean that it
has to wait. -/
def arguments (args : List Value) (named : List (String × Value))
    (more moreNamed : Except Trouble (Option (List Value))) : Run (Option Arguments) := do
  match more, moreNamed with
  | .ok (some more), .ok (some moreNamed) =>
    let gathered ← Run.attempt do
      let more ← more.mapM Value.items
      let moreNamed ← moreNamed.mapM (Value.namedFrom "dict")
      return (⟨args ++ more.flatten,
        Value.mergedNames (Value.mergedNames [] named) moreNamed.flatten⟩ : Arguments)
    return gathered.toOption
  | _, _ => return none

end Ahead

def contextFilters : List String :=
  ["map", "select", "reject", "selectattr", "rejectattr", "random"]

namespace Expr

mutual

def ahead : Expr → Ahead
  | .const c => do return some (← c.ready)
  | .name _ => return none
  | .captured => return none
  | .absent _ => return none
  | .call .. => return none
  | .list items => do
    match ← aheadAll items with
    | some vs => return some (← Run.newList vs)
    | none => return none
  | .tuple items => do return (← aheadAll items).map Value.tuple
  | .dict keys values => Ahead.entries [] ((aheadEach keys).zip (aheadEach values))
  | .field owner id => Ahead.waitOnTrouble do
    match ← ahead owner with
    | some v => return some (← v.field id)
    | none => return none
  | .item owner key => Ahead.waitOnTrouble do
    match ← ahead owner with
    | some v =>
      match ← ahead key with
      | some k => return some (← v.item k)
      | none => return none
    | none => return none
  | .slice a b c => do
    match ← ahead a with
    | some a =>
      match ← ahead b with
      | some b =>
        match ← ahead c with
        | some c => return some (.slice a b c)
        | none => return none
      | none => return none
    | none => return none
  | .filter operand _ id args names named more moreNamed => do
    if !Filter.names.contains id || contextFilters.contains id then return none
    else
      match ← aheadAll args with
      | some args =>
        match ← aheadAll named with
        | some named =>
          let more ← Run.attempt (aheadAll more)
          let moreNamed ← Run.attempt (aheadAll moreNamed)
          match ← Ahead.arguments args (names.zip named) more moreNamed with
          | some a =>
            match ← ahead operand with
            | some v => Ahead.waitOnTrouble do return some (← Filter.run id v a)
            | none => return none
          | none => return none
        | none => return none
      | none => return none
  | .test operand _ id args names named more moreNamed => do
    match Test.find? id with
    | none => return none
    | some n =>
      match ← aheadAll args with
      | some args =>
        match ← aheadAll named with
        | some named =>
          let more ← Run.attempt (aheadAll more)
          let moreNamed ← Run.attempt (aheadAll moreNamed)
          match ← Ahead.arguments args (names.zip named) more moreNamed with
          | some a =>
            match ← ahead operand with
            | some v => Ahead.waitOnTrouble do return some (.bool (← Test.run Filter.names id n v a))
            | none => return none
          | none => return none
        | none => return none
      | none => return none
  | .unary op e => Ahead.waitOnTrouble do
    match ← ahead e with
    | some v => return some (← Value.unary op v)
    | none => return none
  | .binary op a b => Ahead.waitOnTrouble do
    match ← ahead a with
    | some v =>
      match ← ahead b with
      | some w => return some (← Value.binary op v w)
      | none => return none
    | none => return none
  | .both a b => do
    match ← ahead a with
    | some v => if ← v.truth then ahead b else return some v
    | none => return none
  | .either a b => do
    match ← ahead a with
    | some v => if ← v.truth then return some v else ahead b
    | none => return none
  | .concat parts => do
    match ← aheadAll parts with
    | some vs => return some (.text (String.join (← vs.mapM Value.toText)))
    | none => return none
  | .compare first ops others => do
    match ← ahead first with
    | some v => Ahead.waitOnTrouble (aheadChain v ops others)
    | none => return none
  | .choose condition yes no => do
    match ← ahead condition with
    | some v => if ← v.truth then ahead yes else ahead no
    | none => return none

def aheadAll : List Expr → Run (Option (List Value))
  | [] => return some []
  | e :: es => do
    match ← ahead e with
    | some v => return (← aheadAll es).map (v :: ·)
    | none => return none

def aheadEach : List Expr → List Ahead
  | [] => []
  | e :: es => ahead e :: aheadEach es

def aheadChain (left : Value) (ops : List CompareOp) : List Expr → Ahead
  | [] => return some (.bool true)
  | e :: es => do
    match ops with
    | [] => return some (.bool true)
    | op :: ops =>
      match ← ahead e with
      | some right =>
        if ← Value.compared op left right then aheadChain right ops es else return some (.bool false)
      | none => return none

end

end Expr

namespace Run

/-- While expressions are computed ahead no statement runs. -/
def idle : Agents where
  call _ _ := return .none
  rerun _ _ _ := return .none
  block _ _ := return .none
  sift _ := return none

/-- The result of an action by itself. -/
def alone {α : Type} (act : Run α) : Except Trouble α := ((act.run idle).run {}).map (·.1)

end Run

namespace Expr

/-- An expression whose parts are as short as they can be, as a constant if it is one. -/
def settled (e : Expr) : Except Trouble Expr := do
  let found ← Run.alone do
    match ← e.ahead with
    | some v => v.constant?
    | none => return none
  return (found.map Expr.const).getD e

mutual

/-- Replaces all parts that can be computed ahead. -/
def folded : Expr → Except Trouble Expr
  | .const c => return .const c
  | .name id => return .name id
  | .captured => return .captured
  | .absent line => return .absent line
  | .list items => do settled (.list (← foldedAll items))
  | .tuple items => do settled (.tuple (← foldedAll items))
  | .dict keys values => do
    let keys ← foldedAll keys
    settled (.dict keys (← foldedAll values))
  | .field owner id => do settled (.field (← folded owner) id)
  | .item owner key => do
    let owner ← folded owner
    settled (.item owner (← folded key))
  | .slice a b c => do
    let a ← folded a
    let b ← folded b
    return .slice a b (← folded c)
  | .call f args names named more moreNamed => do
    let f ← folded f
    let args ← foldedAll args
    let named ← foldedAll named
    let more ← foldedAll more
    return .call f args names named more (← foldedAll moreNamed)
  | .filter e line id args names named more moreNamed => do
    let e ← folded e
    let args ← foldedAll args
    let named ← foldedAll named
    let more ← foldedAll more
    settled (.filter e line id args names named more (← foldedAll moreNamed))
  | .test e line id args names named more moreNamed => do
    let e ← folded e
    let args ← foldedAll args
    let named ← foldedAll named
    let more ← foldedAll more
    settled (.test e line id args names named more (← foldedAll moreNamed))
  | .unary op e => do settled (.unary op (← folded e))
  | .binary op a b => do
    let a ← folded a
    settled (.binary op a (← folded b))
  | .both a b => do
    let a ← folded a
    settled (.both a (← folded b))
  | .either a b => do
    let a ← folded a
    settled (.either a (← folded b))
  | .concat parts => do settled (.concat (← foldedAll parts))
  | .compare first ops others => do
    let first ← folded first
    settled (.compare first ops (← foldedAll others))
  | .choose condition yes no => do
    let condition ← folded condition
    let yes ← folded yes
    settled (.choose condition yes (← folded no))

def foldedAll : List Expr → Except Trouble (List Expr)
  | [] => return []
  | e :: es => do
    let e ← folded e
    return e :: (← foldedAll es)

end

/-- The text of an expression that is the same for every card. -/
def text? (e : Expr) : Option String :=
  match Run.alone (do
    match ← e.ahead with
    | some v => return some (← v.toText)
    | none => return none) with
  | .ok s => s
  | .error _ => none

/-- A constant written with a minus in front, without it. -/
def Constant.withoutMinus? : Constant → Option Constant
  | .whole n => if n < 0 then some (.whole (-n)) else none
  | .real x => if Value.isMinus x then some (.real (-x)) else none
  | .complex re im =>
    if re == 0.0 && !Value.isMinus re && Value.isMinus im then some (.complex 0.0 (-im)) else none
  | _ => none

/-- A power binds closer than a minus in front of its constant base. -/
def power (a b : Expr) : Expr :=
  match a with
  | .const c =>
    match Constant.withoutMinus? c with
    | some c => .unary .minus (.binary .pow (.const c) b)
    | none => .binary .pow a b
  | a => .binary .pow a b

/-- A call that has to name a known filter or test, unless it stands under a condition. -/
def known (soft : Bool) (isKnown : Bool) (problem : Problem) (line : Nat) : Except Refusal Unit :=
  if soft || isKnown then .ok () else .error (.fault ⟨problem, line⟩)

mutual

/-- Checks an expression whose parts were computed ahead, in the order in which its parts stand. -/
def checked (soft : Bool) : Expr → Except Refusal Expr
  | .const c =>
    match Run.alone c.writable with
    | .ok _ => .ok (.const c)
    | .error t => .error (.trouble t)
  | .name id => return .name id
  | .captured => return .captured
  | .absent line => return .absent line
  | .list items => do return .list (← checkedAll soft items)
  | .tuple items => do return .tuple (← checkedAll soft items)
  | .dict keys values => do
    let keys ← checkedAll soft keys
    return .dict keys (← checkedAll soft values)
  | .field owner id => do return .field (← checked soft owner) id
  | .item owner key => do
    let owner ← checked soft owner
    return .item owner (← checked soft key)
  | .slice a b c => do
    let a ← checked soft a
    let b ← checked soft b
    return .slice a b (← checked soft c)
  | .call f args names named more moreNamed => do
    let f ← checked soft f
    let args ← checkedAll soft args
    let named ← checkedAll soft named
    let more ← checkedAll soft more
    return .call f args names named more (← checkedAll soft moreNamed)
  | .filter e line id args names named more moreNamed => do
    known soft (Filter.names.contains id) (.unknownFilter id) line
    let e ← checked soft e
    let args ← checkedAll soft args
    let named ← checkedAll soft named
    let more ← checkedAll soft more
    return .filter e line id args names named more (← checkedAll soft moreNamed)
  | .test e line id args names named more moreNamed => do
    known soft (Test.find? id).isSome (.unknownTest id) line
    let e ← checked soft e
    let args ← checkedAll soft args
    let named ← checkedAll soft named
    let more ← checkedAll soft more
    return .test e line id args names named more (← checkedAll soft moreNamed)
  | .unary op e => do return .unary op (← checked soft e)
  | .binary op a b => do
    let a ← checked soft a
    let b ← checked soft b
    return if op = .pow then power a b else .binary op a b
  | .both a b => do
    let a ← checked soft a
    return .both a (← checked soft b)
  | .either a b => do
    let a ← checked soft a
    return .either a (← checked soft b)
  | .concat parts => do return .concat (← checkedAll soft parts)
  | .compare first ops others => do
    let first ← checked soft first
    return .compare first ops (← checkedAll soft others)
  | .choose condition yes no => do
    let yes ← checked true yes
    let condition ← checked true condition
    return .choose condition yes (← checked true no)

def checkedAll (soft : Bool) : List Expr → Except Refusal (List Expr)
  | [] => return []
  | e :: es => do
    let e ← checked soft e
    return e :: (← checkedAll soft es)

end

mutual

/-- An expression made ready for cards. Lists and the like are made anew for each card. -/
def prepared (soft : Bool) : Expr → Except Refusal Expr
  | .list items => do return .list (← preparedAll soft items)
  | .tuple items => do return .tuple (← preparedAll soft items)
  | .dict keys values => do
    let keys ← preparedAll soft keys
    return .dict keys (← preparedAll soft values)
  | e =>
    match folded e with
    | .ok e => checked soft e
    | .error t => .error (.trouble t)

def preparedAll (soft : Bool) : List Expr → Except Refusal (List Expr)
  | [] => return []
  | e :: es => do
    let e ← prepared soft e
    return e :: (← preparedAll soft es)

end

end Expr

end CardPress.Template
