import Phrasebook.Renderer

/-!
# Descriptions

A description is a text at hand, a text that is computed whenever it is asked for, or a
reference to a template with the variables and functions to render it with. Computing a text
may have an effect, which is that of a monad; the other descriptions have none.
-/

namespace Phrasebook

/-- A template by name, with what it is rendered with. -/
structure TemplateReference where
  name : Text
  bindings : Dictionary Value := Dictionary.empty
  functions : Registry := Dictionary.empty

/-- What describes something, such as a rule that a value has to meet. -/
inductive Description (m : Type → Type) where
  | immediate (content : Text)
  | computed (action : m Text)
  | template (reference : TemplateReference)

/-- The text of a description; only a template depends on the renderer and the language. -/
def Description.evaluate {m : Type → Type} [Monad m] (description : Description m)
    (renderer : Renderer) (language : Text) : m (Except RenderError Text) :=
  match description with
  | .immediate content => pure (.ok content)
  | .computed action => return .ok (← action)
  | .template reference =>
    pure (renderer.render reference.name reference.bindings reference.functions language)

end Phrasebook
