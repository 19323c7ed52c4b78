import CardPress.Template.Grammar.Expression
import CardPress.Text.Blank

/-! Reading the tags of a template into statements; fuel bounds how deep they stand in each other. -/
namespace CardPress.Template

mutual

/-- The target that an expression on the left of an assignment stands for. -/
def Target.ofExpr? (line : Nat) : Expr → Option Target
  | .name id => some (.name id line)
  | .tuple items => (Target.ofExprs? line items).map .tuple
  | _ => none

def Target.ofExprs? (line : Nat) : List Expr → Option (List Target)
  | [] => some []
  | e :: es =>
    match Target.ofExpr? line e, Target.ofExprs? line es with
    | some t, some ts => some (t :: ts)
    | _, _ => none

end

namespace Parse

/-- One part of a target: the target, or the kind of an expression that is none. -/
def targetPart (fuel : Nat) (places : Bool) : Parse (Except String Target) := do
  let here ← line
  match ← lexeme with
  | .name s =>
    if (wordConstant? s).isNone && places && (← peek).isSign "." then
      let _ ← advance
      let _ ← advance
      let id ← expectName
      placed here (.ok (.place s id))
    else
      let e ← primary fuel
      return ((Target.ofExpr? here e).map .ok).getD (.error e.kind)
  | _ =>
    let e ← primary fuel
    return ((Target.ofExpr? here e).map .ok).getD (.error e.kind)

def targetParts : Nat → Bool → List String → Nat → List (Except String Target) → Parse (Except String Target)
  | 0, _, _, _, _ => do fail (← line) .badCall
  | fuel + 1, places, stops, here, parts => do
    let together : Except String Target :=
      match parts.reverse.mapM id with
      | .ok targets => .ok (.tuple targets)
      | .error _ => .error "tuple"
    if !parts.isEmpty then let _ ← expectSign ","
    if isTupleEnd stops (← lexeme) then
      if parts.isEmpty then fail (← line) (.noExpression (← lexeme).describe)
      else placed here together
    else
      let part ← targetPart fuel places
      if (← lexeme).isSign "," then targetParts fuel places stops (← line) (part :: parts)
      else if parts.isEmpty then return part
      else
        placed here (match (part :: parts).reverse.mapM id with
          | .ok targets => .ok (.tuple targets)
          | .error _ => .error "tuple")

def assignTarget (fuel : Nat) (places : Bool) (stops : List String) : Parse Target := do
  match ← targetParts fuel places stops (← line) [] with
  | .ok t => return t
  | .error kind => fail (← place) (.cannotAssign kind)

/-- A name alone that is to be bound. -/
def boundName : Parse (String × Nat) := do
  let here ← line
  let s ← expectName
  match wordConstant? s with
  | some _ => fail here (.cannotAssign "name")
  | none => return (s, here)

/-- The tags that are open and the tags that may end them, innermost first. -/
structure Nesting where
  tags : List String := []
  ends : List (List String) := []

def unknownTag {α : Type} (nest : Nesting) (name : String) (here : Nat) : Parse α :=
  fail here (.unknownTag name (nest.ends.headD []) (nest.ends.any (·.contains name)) nest.tags.head?)

def printItems : Nat → List Expr → Parse (List Expr)
  | 0, out => return out.reverse
  | fuel + 1, out => do
    if isBlockEnd (← lexeme) then return out.reverse
    else
      if !out.isEmpty then let _ ← expectSign ","
      let e ← expression fuel
      printItems fuel (e :: out)

def withItems : Nat → List Target → List Expr → Parse (List Target × List Expr)
  | 0, targets, values => return (targets.reverse, values.reverse)
  | fuel + 1, targets, values => do
    if isBlockEnd (← lexeme) then return (targets.reverse, values.reverse)
    else
      if !targets.isEmpty then let _ ← expectSign ","
      let t ← assignTarget fuel false []
      let _ ← expectSign "="
      let e ← expression fuel
      withItems fuel (t :: targets) (e :: values)

def params : Nat → List Param → Parse (List Param)
  | 0, out => return out.reverse
  | fuel + 1, out => do
    if ← skipSign ")" then return out.reverse
    else
      if !out.isEmpty then let _ ← expectSign ","
      let (id, _) ← boundName
      let standard ← if ← skipSign "=" then some <$> expression fuel else pure none
      if standard.isNone && out.any (·.standard.isSome) then fail (← line) .lateParameter
      params fuel (⟨id, standard⟩ :: out)

/-- Whether what is loaded sees the names around it. -/
def contextWords : Parse Bool := do
  if ← skipWords "with" "context" then return true
  else skipWords "without" "context"

def importNames : Nat → List String → Parse (List String)
  | 0, out => return out.reverse
  | fuel + 1, out => do
    if !out.isEmpty then let _ ← expectSign ","
    match ← lexeme with
    | .name _ =>
      if ← contextWords then return out.reverse
      let (id, here) ← boundName
      if id.startsWith "_" then fail here .hiddenImport
      let id ← if ← skipWord "as" then pure (← boundName).1 else pure id
      let done ← contextWords
      if done || !(← lexeme).isSign "," then return (id :: out).reverse
      importNames fuel (id :: out)
    | _ => refuse "name"

/-- Whether a body has nothing but blanks in it. -/
def isBlankBody (body : List Stmt) : Bool :=
  body.all fun
    | .output pieces => pieces.all fun
      | .data s => s.toList.all Text.isBlank
      | .value _ => false
    | _ => false

def outputOf (pieces : List Piece) : List Stmt := if pieces.isEmpty then [] else [.output pieces.reverse]

mutual

/-- Statements up to one of the ending tags, whose name is then the token in hand. Both lists hold
what was read so far in reverse. -/
def statements : Nat → Nesting → List Piece → List Stmt → Parse (List Stmt)
  | 0, _, _, out => return out.reverse
  | fuel + 1, nest, pieces, out => do
    match ← lexeme with
    | .finish => return (outputOf pieces ++ out).reverse
    | .data s =>
      let _ ← advance
      statements fuel nest (.data s :: pieces) out
    | .variableBegin =>
      let _ ← advance
      let e ← tuple fuel true [] false
      let _ ← expect isVariableEnd "end of print statement"
      statements fuel nest (.value e :: pieces) out
    | _ =>
      let _ ← advance
      let out := outputOf pieces ++ out
      if (nest.ends.headD []).any (← lexeme).isName then return out.reverse
      else
        let s ← statement fuel nest
        let _ ← expectBlockEnd
        statements fuel nest [] (s :: out)

/-- The body of a tag and the name of the tag that ends it. -/
def body : Nat → Nesting → List String → Parse (List Stmt × String)
  | 0, _, _ => do fail (← line) .noTag
  | fuel + 1, nest, ends => do
    let _ ← skipSign ":"
    let _ ← expectBlockEnd
    let out ← statements fuel { nest with ends := ends :: nest.ends } [] []
    match ← lexeme with
    | .name s =>
      let _ ← advance
      return (out, s)
    | _ => fail (← line) (.endInBlock ends nest.tags.head?)

def branches : Nat → Nesting → Parse (List (Expr × List Stmt) × List Stmt)
  | 0, _ => do fail (← line) .noTag
  | fuel + 1, nest => do
    let condition ← tuple fuel false [] false
    let (yes, needle) ← body fuel nest ["elif", "else", "endif"]
    if needle = "elif" then
      let (others, no) ← branches fuel nest
      return ((condition, yes) :: others, no)
    else if needle = "else" then
      let (no, _) ← body fuel nest ["endif"]
      return ([(condition, yes)], no)
    else return ([(condition, yes)], [])

def statement : Nat → Nesting → Parse Stmt
  | 0, _ => do fail (← line) .noTag
  | fuel + 1, nest => do
    let here ← line
    match ← lexeme with
    | .name tag =>
      let inner := { nest with tags := tag :: nest.tags }
      match tag with
      | "if" =>
        let _ ← advance
        match ← branches fuel inner with
        | ((condition, yes) :: others, no) => return .branch condition yes others no
        | ([], no) => return .branch Parse.nothing [] [] no
      | "for" =>
        let _ ← advance
        let target ← assignTarget fuel false ["in"]
        let _ ← expectWord "in"
        let values ← tuple fuel false ["recursive"] false
        let condition ← if ← skipWord "if" then some <$> expression fuel else pure none
        let recursive ← skipWord "recursive"
        let (loop, needle) ← body fuel inner ["endfor", "else"]
        if needle = "endfor" then return .each target values condition recursive loop []
        else
          let (otherwise, _) ← body fuel inner ["endfor"]
          return .each target values condition recursive loop otherwise
      | "set" =>
        let _ ← advance
        let target ← assignTarget fuel true []
        if ← skipSign "=" then return .assign target (← tuple fuel true [] false)
        else
          let filtered ←
            if (← lexeme).isSign "|" then some <$> filterChain fuel .captured else pure none
          let (out, _) ← body fuel inner ["endset"]
          return .capture target filtered out
      | "filter" =>
        let _ ← advance
        let value ← filterOf fuel .captured
        let value ← filterChain fuel value
        let (out, _) ← body fuel inner ["endfilter"]
        return .wrap value out
      | "with" =>
        let _ ← advance
        let (targets, values) ← withItems fuel [] []
        let (out, _) ← body fuel inner ["endwith"]
        return .scope targets values out
      | "macro" =>
        let _ ← advance
        let (id, _) ← boundName
        let _ ← expectSign "("
        let ps ← params fuel []
        let (out, _) ← body fuel inner ["endmacro"]
        return .define here id ps out
      | "call" =>
        let _ ← advance
        let ps ← if ← skipSign "(" then params fuel [] else pure []
        let e ← expression fuel
        match e with
        | .call .. =>
          let (out, _) ← body fuel inner ["endcall"]
          return .callWith here ps e out
        | _ => fail here .noCall
      | "block" =>
        let _ ← advance
        let id ← expectName
        let shared ← skipWord "scoped"
        let required ← skipWord "required"
        if (← lexeme).isSign "-" then fail (← line) .hyphenatedBlock
        let (out, _) ← body fuel inner ["endblock"]
        if required && !isBlankBody out then fail (← line) .filledBlock
        let _ ← skipWord id
        return .block here id shared required out
      | "print" =>
        let _ ← advance
        return .output ((← printItems fuel []).map .value)
      | "extends" =>
        let _ ← advance
        return .extend here (← expression fuel)
      | "include" =>
        let _ ← advance
        let e ← expression fuel
        let lenient ← skipWords "ignore" "missing"
        let _ ← contextWords
        return .load e true lenient []
      | "import" =>
        let _ ← advance
        let e ← expression fuel
        let _ ← expectWord "as"
        let (id, _) ← boundName
        let _ ← contextWords
        return .load e false false [id]
      | "from" =>
        let _ ← advance
        let e ← expression fuel
        let _ ← expectWord "import"
        return .load e false false (← importNames fuel [])
      | "autoescape" =>
        let _ ← advance
        let on ← expression fuel
        let (out, _) ← body fuel inner ["endautoescape"]
        return .escaping on out
      | _ => unknownTag nest tag here
    | _ => fail here .noTag

end

end Parse

/-- Reads the tokens of a template. -/
def Stmt.ofScan (scan : Scan) : Except Refusal (List Stmt) :=
  let start : Stream := ⟨⟨1, .finish⟩, scan.tokens, scan.refusal, 1⟩
  let fuel := 24 * (scan.tokens.length + 4)
  let parse : Parse (List Stmt) := do
    let _ ← Parse.advance
    Parse.statements fuel {} [] []
  (parse.run start).map (·.1)

end CardPress.Template
