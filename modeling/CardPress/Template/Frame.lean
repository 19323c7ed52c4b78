import CardPress.Template.Same

/-! Reading and writing the names of a frame, and collecting what is put out. -/
namespace CardPress.Template

namespace Frame

def level (f : Frame) : Nat := (f.scope.head?.map (·.level)).getD 0

/-- Where a slot is kept: with the innermost home that is not deeper than the slot. -/
def cell? (f : Frame) (slot : Slot) : Option Nat :=
  (f.homes.find? fun h => decide (h.level ≤ slot.level)).map (·.cell)

def slotValue (f : Frame) (slot : Slot) : Run (Option Value) := do
  let s ← get
  return (f.cell? slot).bind fun n => (s.cells[n]?).bind (·.lookup slot)

def clearSlot (f : Frame) (slot : Slot) : Run Unit := do
  match f.cell? slot with
  | some n => modify fun s => { s with cells := s.cells.modify n (·.filter fun e => e.1 != slot) }
  | none => pure ()

def putSlot (f : Frame) (slot : Slot) (v : Value) : Run Unit := do
  match f.cell? slot with
  | some n => modify fun s => { s with cells := s.cells.modify n (CardPress.Template.putEntry slot v) }
  | none => pure ()

def setSlot (f : Frame) (slot : Slot) : Option Value → Run Unit
  | some v => f.putSlot slot v
  | none => f.clearSlot slot

/-- The value of a name, if it has one. -/
def value? (f : Frame) (id : String) : Run (Option Value) := do
  match f.scope.slot? id with
  | some slot => f.slotValue slot
  | none => return none

/-- What a name stands for; one without a value is undefined. -/
def find (f : Frame) (id : String) : Run Value := do return (← f.value? id).getD (Value.missing id)

/-- What a name stands for outside of the template. -/
def outside? (f : Frame) (id : String) : Run (Option Value) := do
  let o := ((← get).contexts[f.context]?).getD {}
  return (o.assigned.lookup id).orElse fun _ => o.given.lookup id

def origins (f : Frame) : List (Slot × Origin) := (f.scope.head?.map (·.origins)).getD []

/-- Gives the names of the innermost frame their first values. -/
def enter (f : Frame) : Run Unit :=
  f.origins.forM fun (slot, origin) => do
    match origin with
    | .given => pure ()
    | .context id => f.setSlot slot (← f.outside? id)
    | .outer other => f.setSlot slot (← f.slotValue other)
    | .unset => f.clearSlot slot

/-- The names of the innermost frame lose their values. -/
def leave (f : Frame) : Run Unit := f.origins.forM fun (slot, _) => f.clearSlot slot

/-- A frame inside of another one. -/
def inside (f : Frame) (scope : Scope) : Frame := { scope, homes := f.homes, context := f.context }

/-- The frame of a routine: its values are kept apart from those of other runs. -/
def fresh (scope : Scope) (homes : List Home) (context : Nat) : Run Frame := do
  let s ← get
  set { s with cells := s.cells.push [] }
  let bare : Frame := { scope, homes, context }
  return { bare with homes := ⟨bare.level, s.cells.size⟩ :: homes }

/-- Gives a name its value, outside too if the frame is at the top. -/
def give (f : Frame) (id : String) (v : Value) : Run Unit := do
  match f.scope.slot? id with
  | some slot => f.putSlot slot v
  | none => pure ()
  if f.top then
    modify fun s => { s with contexts := s.contexts.modify f.context fun o =>
      { o with assigned := CardPress.Template.putEntry id v o.assigned } }

end Frame

namespace Value

/-- Puts a value into a place of something that has such places. -/
def putPlace (space : Value) (id : String) (v : Value) : Run Unit := do
  let refuse : Run Unit := do
    Run.typeTrouble ("'" ++ (← space.typeName) ++ "' object does not support item assignment")
  match space with
  | object n =>
    match ← Run.thing? n with
    | some (.space entries) => Run.change n (.space (← putEntry (text id) v entries))
    | some (.dict entries) => Run.change n (.dict (← putEntry (text id) v entries))
    | some (.list _) => Run.typeTrouble "list indices must be integers or slices, not str"
    | _ => refuse
  | _ => refuse

end Value

namespace Frame

mutual

/-- Gives a value to a target; that of several names is taken apart. -/
def assign (f : Frame) (t : Target) (v : Value) : Run Unit := do
  match t with
  | .name id _ => f.give id v
  | .place space id =>
    match ← f.value? space with
    | some w => w.putPlace id v
    | none => Run.typeTrouble "'MissingType' object does not support item assignment"
  | .tuple items =>
    let vs ← v.unpacked items.length
    assignAll f items vs

def assignAll (f : Frame) (ts : List Target) (vs : List Value) : Run Unit := do
  match ts with
  | [] => pure ()
  | t :: ts =>
    match vs with
    | [] => pure ()
    | v :: vs =>
      assign f t v
      assignAll f ts vs

end

mutual

/-- The values that the names of a target have. -/
def current (f : Frame) (t : Target) : Run Value := do
  match t with
  | .name id _ => f.find id
  | .place space _ => f.find space
  | .tuple items => return .tuple (← currentAll f items)

def currentAll (f : Frame) (ts : List Target) : Run (List Value) := do
  match ts with
  | [] => return []
  | t :: ts =>
    let v ← current f t
    return v :: (← currentAll f ts)

end

end Frame

namespace Run

/-- Puts out a piece of text. -/
def say (text : String) : Run Unit :=
  modify fun s => { s with out := s.out ++ text, said := s.said + 1 }

/-- Puts out a value as it is, which has to be text in the end. -/
def sayValue (v : Value) : Run Unit := do
  match v.text? with
  | some text => say text
  | none => modify fun s => { s with
      said := s.said + 1, stray := s.stray.orElse fun _ => some (s.said, v) }

/-- The text that is put out meanwhile. -/
def capture (act : Run Unit) : Run String := do
  let before ← get
  set { before with out := "", said := 0, stray := none }
  act
  let inner ← get
  set { inner with out := before.out, said := before.said, stray := before.stray }
  match inner.stray with
  | some (place, v) =>
    typeTrouble s!"sequence item {place}: expected str instance, {← v.typeName} found"
  | none => return inner.out

/-- Text put out by the template itself, safe where texts are escaped. -/
def written (text : String) : Run Value := do
  return if (← get).escapes then .safe text else .text text

end Run

end CardPress.Template
