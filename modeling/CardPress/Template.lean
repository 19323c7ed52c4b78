import CardPress.Card
import CardPress.Template.Execute

/-! Templates: compiled from text, filled in with what they are given. -/
namespace CardPress

structure Template where
  plan : Template.Plan

namespace Template

def compile (source : String) : Except Refusal Template := do
  let statements ← Stmt.ofScan (Scan.ofString source)
  return ⟨← Plan.ofStmts statements⟩

/-- What is given, as a value. -/
def Given.value : Given → Run Value
  | .text s => return .text s
  | .entries es => Run.newDict (es.map fun (k, v) => (.text k, .text v))

def render (t : Template) (given : List (String × Given)) : Except Trouble String :=
  t.plan.run do
    let named ← given.mapM fun (id, g) => do return (id, ← g.value)
    return named.foldl (fun all (id, v) => putEntry id v all) Value.everywhere

end Template

end CardPress
