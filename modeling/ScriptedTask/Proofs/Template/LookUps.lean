import ScriptedTask.Proofs.Running
import ScriptedTask.Proofs.Template.Rendering

/-! Which names rendering looks up. Rendering step by step asks for the text of a name when it comes to
its action, and stops at the first action that is no look-up. The names that a text refers to are those
that rendering asks for, and after a failure perhaps more. -/

namespace ScriptedTask

/-- Rendering as it goes through a text, asking for the text of each name. -/
def Shape.renderAsking {m : Type → Type} [Monad m] (ask : String → m String) (offset : Nat) (trims : Bool) :
    Shape → ExceptT TemplateError m (List Char)
  | .text rest => pure (Template.trimBefore trims rest)
  | .unclosed before => throw (.unclosed (offset + Text.byteCount before))
  | .action before inside after => do
    let opening := offset + Text.byteCount before
    match Action.read? inside with
    | none => throw (.unsupportedAction (String.ofList (Text.trimBlanks inside)) opening)
    | some found =>
      let filled ← ask (String.ofList found.name)
      let rest ← after.renderAsking ask (opening + 2 + Text.byteCount inside + 2) found.trimsAfter
      return Template.trimAfter found.trimsBefore (Template.trimBefore trims before) ++ filled.toList ++ rest

namespace Placeholders

/-- Looks a name up, and notes that it was. -/
def askNoting (placeholders : Placeholders) (name : String) : StateM (List String) String :=
  fun noted => ((placeholders.get? name).getD "", noted ++ [name])

/-- Renders a text step by step, and tells the names that were looked up on the way. -/
def renderNoting (placeholders : Placeholders) (text : String) : Except TemplateError String × List String :=
  conduct (String.ofList <$> (Shape.ofText text.toList).renderAsking placeholders.askNoting 0 false) []

def lookedUp (placeholders : Placeholders) (text : String) : List String := (placeholders.renderNoting text).2

end Placeholders

namespace Shape

/-- The names of the actions before the first that is no look-up. -/
def reached : Shape → List String
  | .text _ | .unclosed _ => []
  | .action _ inside after =>
    match Action.read? inside with
    | some found => String.ofList found.name :: after.reached
    | none => []

theorem reached_prefix (shape : Shape) : shape.reached <+: shape.names.map String.ofList := by
  induction shape with
  | text rest => exact List.nil_prefix
  | unclosed before => exact List.nil_prefix
  | action before inside after ih =>
    rw [reached, names]
    cases Action.read? inside with
    | none => exact List.nil_prefix
    | some found => exact List.cons_prefix_cons.mpr ⟨rfl, ih⟩

theorem names_of_ofShape {shape : Shape} {offset : Nat} {template : Template}
    (read : Template.ofShape offset shape = .ok template) :
    shape.reached = template.names ∧ shape.names.map String.ofList = template.names := by
  induction shape generalizing offset template with
  | text rest =>
    cases read
    exact ⟨rfl, rfl⟩
  | unclosed before => cases read
  | action before inside after ih =>
    rw [Template.ofShape] at read
    rw [reached, names]
    cases found : Action.read? inside with
    | none =>
      rw [found] at read
      cases read
    | some action =>
      rw [found] at read
      obtain ⟨others, behind, rfl⟩ := map_ok read
      obtain ⟨reached, names⟩ := ih behind
      exact ⟨congrArg _ reached, congrArg _ names⟩

/-- Rendering step by step gives what filling in the template gives, or fails as reading it does. -/
theorem conduct_renderAsking (placeholders : Placeholders) (offset : Nat) (trims : Bool) (shape : Shape)
    (noted : List String) :
    conduct (shape.renderAsking placeholders.askNoting offset trims) noted =
      ((Template.ofShape offset shape).map (Template.fill placeholders trims), noted ++ shape.reached) := by
  induction shape generalizing offset trims noted with
  | text rest => simp [renderAsking, Template.ofShape, reached]; rfl
  | unclosed before => simp [renderAsking, Template.ofShape, reached]; rfl
  | action before inside after ih =>
    rw [renderAsking, Template.ofShape, reached]
    cases found : Action.read? inside with
    | none => simp; rfl
    | some action =>
      let name := String.ofList action.name
      have asked : conduct (liftM (placeholders.askNoting name) : ExceptT TemplateError (StateM (List String)) String)
          noted = (.ok ((placeholders.get? name).getD ""), noted ++ [name]) := rfl
      have rest := ih (offset + Text.byteCount before + 2 + Text.byteCount inside + 2) action.trimsAfter (noted ++ [name])
      rw [List.append_assoc] at rest
      dsimp only
      rw [conduct_bind_ok _ asked]
      cases read : Template.ofShape (offset + Text.byteCount before + 2 + Text.byteCount inside + 2) after with
      | error problem =>
        rw [read] at rest
        rw [conduct_bind_error _ rest]
        rfl
      | ok template =>
        rw [read] at rest
        rw [conduct_bind_ok _ rest]
        rfl

end Shape

namespace Placeholders

variable (placeholders : Placeholders) (text : String)

theorem renderNoting_eq :
    placeholders.renderNoting text = (placeholders.render text, (Shape.ofText text.toList).reached) := by
  have steps := Shape.conduct_renderAsking placeholders 0 false (Shape.ofText text.toList) []
  rw [renderNoting, map_eq_pure_bind]
  cases read : Template.ofShape 0 (Shape.ofText text.toList) with
  | error problem =>
    rw [read] at steps
    rw [conduct_bind_error _ steps, render, Template.parse, read]
    rfl
  | ok template =>
    rw [read] at steps
    rw [conduct_bind_ok _ steps, render, Template.parse, read]
    rfl

theorem lookedUp_prefix : placeholders.lookedUp text <+: referencedNames text := by
  rw [lookedUp, renderNoting_eq]
  exact Shape.reached_prefix _

theorem lookedUp_of_render {placeholders : Placeholders} {text result : String}
    (rendered : placeholders.render text = .ok result) : placeholders.lookedUp text = referencedNames text := by
  obtain ⟨template, read, -⟩ := map_ok rendered
  obtain ⟨reached, names⟩ := Shape.names_of_ofShape read
  rw [lookedUp, renderNoting_eq, reached, referencedNames, names]

end Placeholders

/-- Only what a template looks up shows in what it is filled in with. -/
theorem Template.fill_congr {left right : Placeholders} {template : Template} {trims : Bool}
    (agree : ∀ name ∈ template.names, left.get? name = right.get? name) :
    template.fill left trims = template.fill right trims := by
  induction template generalizing trims with
  | text rest => rfl
  | action before found after ih =>
    rw [names, List.forall_mem_cons] at agree
    rw [fill, fill, lookUp, lookUp, agree.1, ih agree.2]

namespace Placeholders

theorem render_congr {left right : Placeholders} {text : String}
    (agree : ∀ name ∈ referencedNames text, left.get? name = right.get? name) :
    left.render text = right.render text := by
  unfold render
  cases read : Template.parse text with
  | error problem => rfl
  | ok template =>
    rw [referencedNames, (Shape.names_of_ofShape read).2] at agree
    simp only [Except.map, Template.fill_congr agree]

/-- Variables that a text does not refer to have no part in its rendering, and neither have those
under the fixed names. -/
theorem render_ofVariables_congr {left right : Values} {text : String}
    (agree : ∀ name ∈ referencedNames text, name ≠ "brl" → name ≠ "brr" → left.get? name = right.get? name) :
    (ofVariables left).render text = (ofVariables right).render text := by
  apply render_congr
  intro name referred
  rw [get?_ofVariables, get?_ofVariables]
  split
  · rfl
  next notRight =>
    split
    · rfl
    next notLeft => rw [agree name referred notLeft notRight]

end Placeholders
end ScriptedTask
