import CardPress.Template.Grammar.Stream

/-! Reading expressions by recursive descent; fuel bounds the depth of the descent. -/
namespace CardPress.Template

namespace Parse

def isTupleEnd (stops : List String) (l : Lexeme) : Bool :=
  isBlockEnd l || isVariableEnd l || l.isSign ")" || stops.any l.isName

def isSubscriptEnd (l : Lexeme) : Bool := l.isSign "]" || l.isSign ","

def nothing : Expr := .const .none

/-- The operators of each level that groups to the left, loosest first. -/
def operators : Nat → List (String × BinaryOp)
  | 5 => [("+", .add), ("-", .sub)]
  | 7 => [("*", .mul), ("/", .div), ("//", .floorDiv), ("%", .mod)]
  | 8 => [("**", .pow)]
  | _ => []

def operatorOf (level : Nat) : Lexeme → Option (Expr → Expr → Expr)
  | .sign s => ((operators level).lookup s).map .binary
  | .name s =>
    if level = 1 && s = "or" then some .either else if level = 2 && s = "and" then some .both else none
  | _ => none

def comparisonOf : Lexeme → Option CompareOp
  | .sign s =>
    [("==", CompareOp.eq), ("!=", .ne), (">", .gt), (">=", .ge), ("<", .lt), ("<=", .le)].lookup s
  | .name "in" => some .member
  | _ => none

structure Arguments where
  args : List Expr := []
  names : List String := []
  named : List Expr := []
  more : List Expr := []
  moreNamed : List Expr := []

def wordConstant? : String → Option Constant
  | "true" => some (.bool true)
  | "True" => some (.bool true)
  | "false" => some (.bool false)
  | "False" => some (.bool false)
  | "none" => some .none
  | "None" => some .none
  | _ => none

/-- Whether the argument of a test may follow without brackets. -/
def startsArgument : Lexeme → Bool
  | .name s => s != "else" && s != "or" && s != "and"
  | .text _ => true
  | .whole _ => true
  | .real _ => true
  | .sign s => s == "(" || s == "[" || s == "\x7b"
  | _ => false

/-- String literals side by side are one literal. -/
def moreText : Nat → String → Parse String
  | 0, s => return s
  | fuel + 1, s => do
    match ← lexeme with
    | .text t => let _ ← advance; moreText fuel (s ++ t)
    | _ => return s

/-- The name of the argument that follows, if it has one. -/
def argumentName : Parse (Option String) := do
  match ← lexeme with
  | .name s =>
    let next ← peek
    return if next.isSign "=" then some s else none
  | _ => return none

mutual

def expression : Nat → Parse Expr
  | 0 => do fail (← line) .badCall
  | fuel + 1 => do
    let here ← line
    let first ← operand fuel 1
    conditions fuel here first
termination_by structural n => n

/-- Inline conditions behind an expression. -/
def conditions : Nat → Nat → Expr → Parse Expr
  | 0, _, e => return e
  | fuel + 1, here, e => do
    if ← skipWord "if" then
      let condition ← operand fuel 1
      let other ← if ← skipWord "else" then expression fuel else pure (.absent here)
      let e ← placed here (.choose condition e other)
      conditions fuel (← line) e
    else return e
termination_by structural n _ _ => n

/-- An expression of a level: 1 or, 2 and, 3 not, 4 comparison, 5 sum, 6 joined texts, 7 product,
8 power, 9 a single value with what follows it. -/
def operand : Nat → Nat → Parse Expr
  | 0, _ => do fail (← line) .badCall
  | fuel + 1, 3 => do
    let here ← line
    if ← skipWord "not" then
      let e ← operand fuel 3
      placed here (.unary .negate e)
    else operand fuel 4
  | fuel + 1, 4 => do
    let first ← operand fuel 5
    comparisons fuel first [] []
  | fuel + 1, 6 => do
    let here ← line
    let first ← operand fuel 7
    joined fuel here [first]
  | fuel + 1, 9 => single fuel true
  | fuel + 1, level => do
    let here ← line
    let first ← operand fuel (level + 1)
    operands fuel level here first
termination_by structural n _ => n

def operands : Nat → Nat → Nat → Expr → Parse Expr
  | 0, _, _, e => return e
  | fuel + 1, level, here, left => do
    match operatorOf level (← lexeme) with
    | some make =>
      let _ ← advance
      let right ← operand fuel (level + 1)
      let e ← placed here (make left right)
      operands fuel level (← line) e
    | none => return left
termination_by structural n _ _ _ => n

def joined : Nat → Nat → List Expr → Parse Expr
  | 0, _, parts => return .concat parts.reverse
  | fuel + 1, here, parts => do
    if ← skipSign "~" then
      let part ← operand fuel 7
      joined fuel here (part :: parts)
    else
      match parts with
      | [e] => return e
      | _ => placed here (.concat parts.reverse)
termination_by structural n _ _ => n

def comparisons : Nat → Expr → List CompareOp → List Expr → Parse Expr
  | 0, first, ops, others => return .compare first ops.reverse others.reverse
  | fuel + 1, first, ops, others => do
    match comparisonOf (← lexeme) with
    | some op =>
      let _ ← advance
      let other ← operand fuel 5
      comparisons fuel first (op :: ops) (other :: others)
    | none =>
      if ← skipWords "not" "in" then
        let other ← operand fuel 5
        comparisons fuel first (.notMember :: ops) (other :: others)
      else if ops.isEmpty then return first
      else placed (← line) (.compare first ops.reverse others.reverse)
termination_by structural n _ _ _ => n

def single : Nat → Bool → Parse Expr
  | 0, _ => do fail (← line) .badCall
  | fuel + 1, filters => do
    let here ← line
    let e ←
      if (← lexeme).isSign "-" then do
        let _ ← advance
        let inner ← single fuel false
        placed here (.unary .minus inner)
      else if (← lexeme).isSign "+" then do
        let _ ← advance
        let inner ← single fuel false
        placed here (.unary .plus inner)
      else primary fuel
    let e ← suffixes fuel e
    if filters then applications fuel e else return e
termination_by structural n _ => n

def primary : Nat → Parse Expr
  | 0 => do fail (← line) .badCall
  | fuel + 1 => do
    let here ← line
    match ← lexeme with
    | .name s =>
      let _ ← advance
      match wordConstant? s with
      | some c => placed here (.const c)
      | none => placed here (.name s)
    | .text s =>
      let _ ← advance
      let s ← moreText fuel s
      placed here (.const (.text s))
    | .whole n => let _ ← advance; placed here (.const (.whole n))
    | .real x => let _ ← advance; placed here (.const (.real x))
    | .sign "(" =>
      let _ ← advance
      let e ← tuple fuel true [] true
      let _ ← expectSign ")"
      return e
    | .sign "[" =>
      let _ ← advance
      let items ← listItems fuel []
      placed here (.list items)
    | .sign "\x7b" =>
      let _ ← advance
      let (keys, values) ← dictItems fuel [] []
      placed here (.dict keys values)
    | l => fail here (.unexpected l.describe)
termination_by structural n => n

/-- One expression, or several with commas between them. -/
def tuple : Nat → Bool → List String → Bool → Parse Expr
  | 0, _, _, _ => do fail (← line) .badCall
  | fuel + 1, inlineConditions, stops, bracketed => do
    tupleItems fuel inlineConditions stops bracketed (← line) []
termination_by structural n _ _ _ => n

def tupleItems : Nat → Bool → List String → Bool → Nat → List Expr → Parse Expr
  | 0, _, _, _, _, _ => do fail (← line) .badCall
  | fuel + 1, inlineConditions, stops, bracketed, here, items => do
    if !items.isEmpty then let _ ← expectSign ","
    if isTupleEnd stops (← lexeme) then
      if items.isEmpty && !bracketed then fail (← line) (.noExpression (← lexeme).describe)
      else placed here (.tuple items.reverse)
    else
      let item ← if inlineConditions then expression fuel else operand fuel 1
      if (← lexeme).isSign "," then
        tupleItems fuel inlineConditions stops bracketed (← line) (item :: items)
      else if items.isEmpty then return item
      else placed here (.tuple (item :: items).reverse)
termination_by structural n _ _ _ _ _ => n

def listItems : Nat → List Expr → Parse (List Expr)
  | 0, _ => do fail (← line) .badCall
  | fuel + 1, items => do
    if ← skipSign "]" then return items.reverse
    else
      if !items.isEmpty then let _ ← expectSign ","
      if ← skipSign "]" then return items.reverse
      else
        let item ← expression fuel
        listItems fuel (item :: items)
termination_by structural n _ => n

def dictItems : Nat → List Expr → List Expr → Parse (List Expr × List Expr)
  | 0, _, _ => do fail (← line) .badCall
  | fuel + 1, keys, values => do
    if ← skipSign "\x7d" then return (keys.reverse, values.reverse)
    else
      if !keys.isEmpty then let _ ← expectSign ","
      if ← skipSign "\x7d" then return (keys.reverse, values.reverse)
      else
        let key ← expression fuel
        let _ ← expectSign ":"
        let value ← expression fuel
        dictItems fuel (key :: keys) (value :: values)
termination_by structural n _ _ => n

/-- Attributes, items and calls behind a value. -/
def suffixes : Nat → Expr → Parse Expr
  | 0, e => return e
  | fuel + 1, e => do
    let l ← lexeme
    let here ← line
    if l.isSign "." then
      let _ ← advance
      let next ← line
      match ← lexeme with
      | .name s =>
        let _ ← advance
        let e ← placed here (.field e s)
        suffixes fuel e
      | .whole n =>
        let _ ← advance
        let e ← placed here (.item e (.const (.whole n)))
        suffixes fuel e
      | _ =>
        let _ ← advance
        fail next .noNameOrNumber
    else if l.isSign "[" then
      let _ ← advance
      let keys ← subscripts fuel []
      let key := match keys with
        | [key] => key
        | _ => .tuple keys
      let e ← placed here (.item e key)
      suffixes fuel e
    else if l.isSign "(" then
      let a ← arguments fuel
      let e ← placed here (.call e a.args a.names a.named a.more a.moreNamed)
      suffixes fuel e
    else return e
termination_by structural n _ => n

def subscripts : Nat → List Expr → Parse (List Expr)
  | 0, _ => do fail (← line) .badCall
  | fuel + 1, keys => do
    if ← skipSign "]" then return keys.reverse
    else
      if !keys.isEmpty then let _ ← expectSign ","
      let key ← subscript fuel
      subscripts fuel (key :: keys)
termination_by structural n _ => n

/-- One key, or a slice with up to three parts. -/
def subscript : Nat → Parse Expr
  | 0 => do fail (← line) .badCall
  | fuel + 1 => do
    let start ← if (← lexeme).isSign ":" then pure nothing else expression fuel
    if ← skipSign ":" then
      let stop ←
        if (← lexeme).isSign ":" || isSubscriptEnd (← lexeme) then pure nothing else expression fuel
      let step ←
        if ← skipSign ":" then
          (if isSubscriptEnd (← lexeme) then pure nothing else expression fuel)
        else pure nothing
      return .slice start stop step
    else return start
termination_by structural n => n

def arguments : Nat → Parse Arguments
  | 0 => do fail (← line) .badCall
  | fuel + 1 => do
    let here ← line
    let _ ← expectSign "("
    argumentItems fuel here true {}
termination_by structural n => n

def argumentItems : Nat → Nat → Bool → Arguments → Parse Arguments
  | 0, here, _, _ => fail here .badCall
  | fuel + 1, here, first, a => do
    if ← skipSign ")" then return a
    else
      if !first then let _ ← expectSign ","
      if ← skipSign ")" then return a
      else if (← lexeme).isSign "*" then
        if !a.more.isEmpty || !a.moreNamed.isEmpty then fail here .badCall
        else
          let _ ← advance
          let e ← expression fuel
          argumentItems fuel here false { a with more := [e] }
      else if (← lexeme).isSign "**" then
        if !a.moreNamed.isEmpty then fail here .badCall
        else
          let _ ← advance
          let e ← expression fuel
          argumentItems fuel here false { a with moreNamed := [e] }
      else
        match ← argumentName with
        | some s =>
          if !a.moreNamed.isEmpty then fail here .badCall
          else
            let _ ← advance
            let _ ← advance
            let e ← expression fuel
            argumentItems fuel here false { a with names := a.names ++ [s], named := a.named ++ [e] }
        | none =>
          if !a.more.isEmpty || !a.moreNamed.isEmpty || !a.names.isEmpty then fail here .badCall
          else
            let e ← expression fuel
            argumentItems fuel here false { a with args := a.args ++ [e] }
termination_by structural n _ _ _ => n

/-- Filters, tests and calls behind a value. -/
def applications : Nat → Expr → Parse Expr
  | 0, e => return e
  | fuel + 1, e => do
    let l ← lexeme
    let here ← line
    if ← skipSign "|" then
      let f ← filterOf fuel e
      applications fuel f
    else if l.isName "is" then
      let t ← testOf fuel e
      applications fuel t
    else if l.isSign "(" then
      let a ← arguments fuel
      let e ← placed here (.call e a.args a.names a.named a.more a.moreNamed)
      applications fuel e
    else return e
termination_by structural n _ => n

def filterOf : Nat → Expr → Parse Expr
  | 0, _ => do fail (← line) .badCall
  | fuel + 1, e => do
    let here ← line
    let id ← dottedName fuel (← expectName)
    let a ← if (← lexeme).isSign "(" then arguments fuel else pure {}
    placed here (.filter e here id a.args a.names a.named a.more a.moreNamed)
termination_by structural n _ => n

def testOf : Nat → Expr → Parse Expr
  | 0, _ => do fail (← line) .badCall
  | fuel + 1, e => do
    let here := (← advance).line
    let negated ← skipWord "not"
    let id ← dottedName fuel (← expectName)
    let l ← lexeme
    let a ←
      if l.isSign "(" then arguments fuel
      else if startsArgument l then do
        if l.isName "is" then fail (← line) .chainedTests
        else
          let arg ← primary fuel
          let arg ← suffixes fuel arg
          pure { args := [arg] }
      else pure {}
    let t := Expr.test e here id a.args a.names a.named a.more a.moreNamed
    placed here (if negated then .unary .negate t else t)
termination_by structural n _ => n

end

/-- The filters behind a value, one after the other. -/
def filterChain : Nat → Expr → Parse Expr
  | 0, e => return e
  | fuel + 1, e => do
    if ← skipSign "|" then
      let e ← filterOf fuel e
      filterChain fuel e
    else return e

end Parse

end CardPress.Template
