import Phrasebook.Catalog
import Phrasebook.Environment
import Phrasebook.Function
import Phrasebook.Suggestion
import Phrasebook.Template.Rendering

/-!
# Renderers

A source gives the template for a name and a language. A source that can also list its names
lets a failed look-up suggest what was meant. A renderer puts a source together with a
registry of functions and the language that the empty language stands for; functions given
for one rendering win over those of the registry.
-/

namespace Phrasebook

/-- Where templates come from; all but the look-up has a plain default. -/
structure Source where
  /-- The template under a name and a language. -/
  lookup : Text → Text → Option Text
  /-- The names that the source can list. -/
  names : List Text := []
  /-- The form in which the source holds a name. -/
  storedName : Text → Text := id
  /-- A name and language as they are shown to a reader. -/
  key : Text → Text → Text := fun name language =>
    if language.isEmpty then name else name ++ '[' :: language ++ [']']

/-- A catalog as a source. -/
def Catalog.source (catalog : Catalog) : Source where
  lookup := catalog.lookup
  names := catalog.templateNames

/-- The environment as a source. -/
def KeyScheme.source (scheme : KeyScheme) (environment : Environment) : Source where
  lookup := scheme.lookup environment
  names := scheme.names environment
  storedName := KeyScheme.storedName
  key := scheme.key

/-- Why a template could not be rendered. -/
inductive RenderError where
  /-- There is no template of this name in the default language. -/
  | notFound (name key : Text) (suggestions : List Text)
  /-- There is no template of this name in the wanted language. -/
  | unknownLanguage (name language : Text)
  /-- A call of the template could not be resolved. -/
  | call (error : Template.CallError)
deriving DecidableEq

/-- The error in words. -/
def RenderError.message : RenderError → Text
  | .notFound _ key suggestions =>
    "template '".toList ++ key ++ "' is not registered".toList ++
      (if suggestions.isEmpty then []
      else "; did you mean: ".toList ++ Text.join [',', ' '] suggestions ++ ['?'])
  | .unknownLanguage name language =>
    "could not find the requested language '".toList ++ language ++ "' for template '".toList ++
      name ++ ['\'']
  | .call error => error.message

/-- A source of templates with the functions and the language to render them with. -/
structure Renderer where
  source : Source
  functions : Registry := Registry.builtins
  defaultLanguage : Text := []

namespace Renderer

/-- Looks a template up; in the default language a failure comes with suggestions. -/
def template (renderer : Renderer) (name language : Text) : Except RenderError Text :=
  match renderer.source.lookup name language with
  | some template => .ok template
  | none =>
    if language.isEmpty then
      .error (.notFound name (renderer.source.key name language)
        (Suggestion.suggestions (renderer.source.storedName name) renderer.source.names))
    else .error (.unknownLanguage name language)

/-- Renders a text with variables and further functions. -/
def renderText (renderer : Renderer) (template : Text) (bindings : Dictionary Value)
    (functions : Registry) : Except RenderError Text :=
  match Template.render ⟨bindings, renderer.functions.union functions⟩ template with
  | .ok text => .ok text
  | .error error => .error (.call error)

/-- Renders the template of a name in a language with variables and further functions. -/
def render (renderer : Renderer) (name : Text) (bindings : Dictionary Value)
    (functions : Registry) (language : Text) : Except RenderError Text :=
  (renderer.template name (if language.isEmpty then renderer.defaultLanguage else language)).bind
    fun template => renderer.renderText template bindings functions

end Renderer

end Phrasebook
