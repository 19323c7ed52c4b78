/-! Template text as a tree: expressions and statements. -/
namespace CardPress.Template

/-- A value that can be written down in a template. -/
inductive Constant where
  | none
  | bool (b : Bool)
  | whole (n : Int)
  | real (x : Float)
  | complex (re im : Float)
  | text (s : String)
  | safe (s : String)
  | range (start stop step : Int)
  | list (items : List Constant)
  | tuple (items : List Constant)
  | dict (keys values : List Constant)

inductive UnaryOp where
  | plus
  | minus
  | negate
  deriving DecidableEq, Repr

inductive BinaryOp where
  | add
  | sub
  | mul
  | div
  | floorDiv
  | mod
  | pow
  deriving DecidableEq, Repr

inductive CompareOp where
  | eq
  | ne
  | lt
  | le
  | gt
  | ge
  | member
  | notMember
  deriving DecidableEq, Repr

/-- Calls, filters and tests hold positional arguments, named ones, and at most one list and one
mapping of further arguments. `captured` is the text of the body around it, `absent` the value of a
condition without an alternative that does not hold. -/
inductive Expr where
  | const (value : Constant)
  | name (id : String)
  | captured
  | absent (line : Nat)
  | list (items : List Expr)
  | tuple (items : List Expr)
  | dict (keys values : List Expr)
  | field (owner : Expr) (id : String)
  | item (owner key : Expr)
  | slice (start stop step : Expr)
  | call (callee : Expr) (args : List Expr) (names : List String) (named more moreNamed : List Expr)
  | filter (operand : Expr) (line : Nat) (id : String) (args : List Expr) (names : List String)
      (named more moreNamed : List Expr)
  | test (operand : Expr) (line : Nat) (id : String) (args : List Expr) (names : List String)
      (named more moreNamed : List Expr)
  | unary (op : UnaryOp) (operand : Expr)
  | binary (op : BinaryOp) (left right : Expr)
  | both (left right : Expr)
  | either (left right : Expr)
  | concat (parts : List Expr)
  | compare (first : Expr) (ops : List CompareOp) (others : List Expr)
  | choose (condition yes no : Expr)

/-- What can be assigned to: a name, a place of a namespace, or several of them at once. -/
inductive Target where
  | name (id : String) (line : Nat)
  | place (space id : String)
  | tuple (items : List Target)

structure Param where
  id : String
  standard : Option Expr

/-- Items of printed output. -/
inductive Piece where
  | data (text : String)
  | value (e : Expr)

/-- In `capture` and `wrap` the text of the body is what `Expr.captured` stands for. `load` asks for
another template, for the first of several that exists, or for none at all if it is lenient. -/
inductive Stmt where
  | output (pieces : List Piece)
  | branch (condition : Expr) (yes : List Stmt) (others : List (Expr × List Stmt)) (no : List Stmt)
  | each (target : Target) (values : Expr) (condition : Option Expr) (recursive : Bool)
      (body otherwise : List Stmt)
  | assign (target : Target) (value : Expr)
  | capture (target : Target) (filtered : Option Expr) (body : List Stmt)
  | wrap (filtered : Expr) (body : List Stmt)
  | scope (targets : List Target) (values : List Expr) (body : List Stmt)
  | define (line : Nat) (id : String) (params : List Param) (body : List Stmt)
  | callWith (line : Nat) (params : List Param) (call : Expr) (body : List Stmt)
  | block (line : Nat) (id : String) (shared required : Bool) (body : List Stmt)
  | load (template : Expr) (several lenient : Bool) (names : List String)
  | extend (line : Nat) (template : Expr)
  | escaping (on : Expr) (body : List Stmt)

namespace Expr

/-- The name of an expression's kind, as messages give it. -/
def kind : Expr → String
  | const _ => "const"
  | name _ => "name"
  | captured => "const"
  | absent _ => "const"
  | list _ => "list"
  | tuple _ => "tuple"
  | dict .. => "dict"
  | field .. => "getattr"
  | item .. => "getitem"
  | slice .. => "slice"
  | call .. => "call"
  | filter .. => "filter"
  | test .. => "test"
  | unary .plus _ => "pos"
  | unary .minus _ => "neg"
  | unary .negate _ => "not"
  | binary .add .. => "add"
  | binary .sub .. => "sub"
  | binary .mul .. => "mul"
  | binary .div .. => "div"
  | binary .floorDiv .. => "floordiv"
  | binary .mod .. => "mod"
  | binary .pow .. => "pow"
  | both .. => "and"
  | either .. => "or"
  | concat _ => "concat"
  | compare .. => "compare"
  | choose .. => "condexpr"

end Expr

end CardPress.Template
