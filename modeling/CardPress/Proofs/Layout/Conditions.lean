import CardPress.Layout.Reader
import CardPress.Proofs.Draw.Faults
import CardPress.Proofs.Report

/-! The conditions of layouts that were read: their operators mean something. -/
namespace CardPress

variable {α β : Type}

open Report

/-- No text is read as an operator without a meaning. -/
theorem Operator.ofString?_known {s : String} {op : Option Operator}
    (h : Operator.ofString? s = .ok op) : IsKnown op := by
  intro text
  unfold ofString? at h
  dsimp only at h
  split at h
  · cases h
    exact nofun
  · split at h
    · cases h
    · rename_i hknown
      cases h
      exact fun hop => hknown text (Option.some.inj hop)

namespace Condition

theorem make_gives (left : CardText) {operator : Option Operator} (h : Operator.IsKnown operator)
    (right : List CardText) : Gives (make left operator right) IsKnown := by
  unfold make
  cases operator with
  | none => exact .pure h
  | some op =>
    dsimp only
    split
    · exact Gives.any.bind fun _ _ => .pure h
    · exact .pure h

theorem ofXml_gives (e : Xml.Element) : Gives (ofXml e) IsKnown := by
  have hmade (left : CardText) {op : Operator} (h : Operator.IsKnown (some op))
      (right : List CardText) : Gives (if right.isEmpty then do
        let _ ← (throw (.parse (.noRightValue op.text)) : Report Unit)
        make left (some op) right
      else make left (some op) right) IsKnown := by
    split
    · exact Gives.any.bind fun _ _ => make_gives left h right
    · exact make_gives left h right
  unfold ofXml
  refine Gives.any.bind fun field _ => Gives.any.bind fun left _ => ?_
  dsimp only
  split
  case' h_1 =>
    have hnone : Gives (pure none) Operator.IsKnown := .pure fun _ => nofun
    refine hnone.bind fun operator hop => ?_
  case' h_2 => refine (Gives.lift fun op => Operator.ofString?_known).bind fun operator hop => ?_
  all_goals
    split
    case' h_1 => refine Gives.any.bind fun _ _ => Gives.any.bind fun _ _ => ?_
    case' h_2 => refine Gives.any.bind fun _ _ => Gives.any.bind fun _ _ => Gives.any.bind fun _ _ => ?_
    all_goals
      cases operator with
      | none => exact make_gives left hop _
      | some op => exact hmade left hop _

end Condition

variable [Scalar α]

theorem PathStyle.ofXml_gives (e : Xml.Element) :
    Gives (PathStyle.ofXml e : Report (PathStyle α)) fun s =>
      ∀ c, s.condition? = some c → c.IsKnown := by
  unfold PathStyle.ofXml
  split
  · exact Gives.any.bind fun _ _ => Gives.any.bind fun _ _ => Gives.any.bind fun _ _ => .pure nofun
  · split
    · exact Gives.any.bind fun _ _ => .pure nofun
    · split
      · exact (Condition.ofXml_gives e).bind fun c hc => .pure fun d hd => by cases hd; exact hc
      · exact .throw _

theorem TextStyle.ofXml_gives (e : Xml.Element) :
    Gives (TextStyle.ofXml e : Report (TextStyle α)) fun s =>
      ∀ c, s.condition? = some c → c.IsKnown := by
  unfold TextStyle.ofXml
  split
  · exact .pure nofun
  split
  · exact Gives.any.bind fun _ _ => .pure nofun
  split
  · exact .pure nofun
  split
  · exact Gives.any.bind fun _ _ => .pure nofun
  split
  · exact Gives.any.bind fun _ _ => .pure nofun
  split
  · exact (Condition.ofXml_gives e).bind fun c hc => .pure fun d hd => by cases hd; exact hc
  · exact .throw _

omit [Scalar α] in
theorem known_filterMap {condition? : β → Option Condition} {styles : List β}
    (h : ∀ s ∈ styles, ∀ c, condition? s = some c → c.IsKnown) :
    ∀ c ∈ styles.filterMap condition?, c.IsKnown := by
  intro c hmem
  obtain ⟨s, hs, hsc⟩ := List.mem_filterMap.mp hmem
  exact h s hs c hsc

theorem PathStyle.mapM_gives (es : List Xml.Element) :
    Gives (es.mapM PathStyle.ofXml : Report (List (PathStyle α)))
      fun styles => ∀ c ∈ styles.filterMap condition?, c.IsKnown :=
  (Gives.mapM ofXml_gives es).mono fun _ => known_filterMap

theorem TextStyle.mapM_gives (es : List Xml.Element) :
    Gives (es.mapM TextStyle.ofXml : Report (List (TextStyle α)))
      fun styles => ∀ c ∈ styles.filterMap condition?, c.IsKnown :=
  (Gives.mapM ofXml_gives es).mono fun _ => known_filterMap

namespace Element

theorem textParts_gives (contents : Option String) {styles : List (TextStyle α)}
    (h : ∀ c ∈ styles.filterMap TextStyle.condition?, c.IsKnown) (es : List Xml.Element) :
    Gives (textParts contents styles es)
      fun parts => ∀ c ∈ parts.2.filterMap TextStyle.condition?, c.IsKnown := by
  induction es generalizing contents styles with
  | nil => exact .pure h
  | cons e rest ih =>
    unfold textParts
    split
    · exact ih _ h
    · refine (TextStyle.ofXml_gives e).bind fun style hstyle => ih _ ?_
      have hone : ∀ c ∈ [style].filterMap TextStyle.condition?, c.IsKnown :=
        known_filterMap (by simpa using hstyle)
      intro c hmem
      rw [List.filterMap_append, List.mem_append] at hmem
      exact hmem.elim (h c) (hone c)

theorem textOfXml_gives (e : Xml.Element) :
    Gives (textOfXml e : Report (Element α)) fun x => ∀ c ∈ x.conditions, c.IsKnown := by
  unfold textOfXml
  refine (textParts_gives _ (List.forall_mem_nil _) _).bind fun parts hparts => ?_
  exact Gives.any.bind fun _ _ => Gives.any.bind fun _ _ => .pure hparts

theorem imageOfXml_gives (e : Xml.Element) :
    Gives (imageOfXml e : Report (Element α)) fun x => ∀ c ∈ x.conditions, c.IsKnown := by
  unfold imageOfXml
  dsimp only
  split
  · exact .throw _
  · exact Gives.any.bind fun _ _ => Gives.any.bind fun _ _ => Gives.any.bind fun _ _ =>
      .pure (List.forall_mem_nil _)

mutual

theorem ofXml_gives : ∀ e : Xml.Element,
    Gives (ofXml e : Report (Element α)) fun x => ∀ c ∈ x.conditions, c.IsKnown
  | .mk tag fields inside children => by
    unfold ofXml
    dsimp only
    split
    · exact (PathStyle.mapM_gives children).bind fun styles hstyles => .pure hstyles
    split
    · exact Gives.any.bind fun _ _ =>
      (PathStyle.mapM_gives children).bind fun styles hstyles => .pure hstyles
    split
    · exact textOfXml_gives _
    split
    · exact imageOfXml_gives _
    split
    · exact Gives.any.bind fun _ _ => (ofXmls_gives children).bind fun inner hinner => .pure hinner
    · exact .throw _

theorem ofXmls_gives : ∀ es : List Xml.Element,
    Gives (ofXmls es : Report (List (Element α))) fun xs => ∀ c ∈ allConditions xs, c.IsKnown
  | [] => .pure (List.forall_mem_nil _)
  | e :: rest => by
    unfold ofXmls
    refine (ofXml_gives e).bind fun first hfirst => (ofXmls_gives rest).bind fun more hmore => .pure ?_
    exact fun c hmem => (List.mem_append.mp hmem).elim (hfirst c) (hmore c)

end

end Element

omit [Scalar α] in
theorem Element.allConditions_append (xs ys : List (Element α)) :
    allConditions (xs ++ ys) = allConditions xs ++ allConditions ys := by
  induction xs with
  | nil => rfl
  | cons x xs ih => rw [List.cons_append, allConditions, ih, allConditions, List.append_assoc]

namespace Layout

/-- The conditions of what was read of a layout so far mean something. -/
structure Draft.Known (d : Draft α) : Prop where
  path : ∀ c ∈ d.path.filterMap PathStyle.condition?, c.IsKnown
  text : ∀ c ∈ d.text.filterMap TextStyle.condition?, c.IsKnown
  elements : ∀ c ∈ Element.allConditions d.elements, c.IsKnown

theorem Draft.addBase_gives {d : Draft α} (h : d.Known) (e : Xml.Element) :
    Gives (d.addBase e) Known := by
  unfold addBase
  split
  · refine (PathStyle.mapM_gives e.children).bind fun styles hstyles => .pure { h with path := ?_ }
    intro c hmem
    rw [List.filterMap_append, List.mem_append] at hmem
    exact hmem.elim (h.path c) (hstyles c)
  split
  · refine (TextStyle.mapM_gives e.children).bind fun styles hstyles => .pure { h with text := ?_ }
    intro c hmem
    rw [List.filterMap_append, List.mem_append] at hmem
    exact hmem.elim (h.text c) (hstyles c)
  · exact .throw _

theorem Draft.add_gives {d : Draft α} (h : d.Known) (e : Xml.Element) : Gives (d.add e) Known := by
  unfold add
  split
  · exact Gives.any.bind fun _ _ => .pure ⟨h.path, h.text, h.elements⟩
  split
  · exact Gives.foldlM (fun d e hd => addBase_gives hd e) e.children h
  · refine (Element.ofXml_gives e).bind fun x hx => .pure { h with elements := ?_ }
    intro c hmem
    rw [Element.allConditions_append, List.mem_append] at hmem
    refine hmem.elim (h.elements c) fun hmem => hx c ?_
    rwa [Element.allConditions, Element.allConditions, List.append_nil] at hmem

/-- The conditions of a layout that was read mean something. -/
theorem ofDocument_gives (document : Except Xml.Refusal Xml.Element) (name : String)
    (source : Option String) :
    Gives (ofDocument document name source : Report (Layout α))
      fun l => ∀ c ∈ l.conditions, c.IsKnown := by
  have hempty : ({} : Draft α).Known :=
    ⟨List.forall_mem_nil _, List.forall_mem_nil _, List.forall_mem_nil _⟩
  have hroot : ∀ root : Xml.Element,
      Gives (ofRoot root name : Report (Layout α)) fun l => ∀ c ∈ l.conditions, c.IsKnown := by
    intro root
    unfold ofRoot
    refine (Gives.foldlM (fun d e hd => Draft.add_gives hd e) root.children hempty).bind
      fun d hd => ?_
    cases d.geometry with
    | none => exact .throw _
    | some geometry =>
      refine .pure fun c hmem => ?_
      rcases List.mem_append.mp hmem with hmem | hmem
      · exact (List.mem_append.mp hmem).elim (hd.path c) (hd.text c)
      · exact hd.elements c hmem
  unfold ofDocument
  exact Gives.any.bind fun root _ => (hroot root).mapFailure _

end Layout

end CardPress
