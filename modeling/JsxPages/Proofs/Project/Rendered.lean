import JsxPages.Project.Build
/-!
# What a page is rendered to

The module of a page is made of what the page is converted to, and imports a stylesheet if there are
classes. It is refused if the options of the page are, or if modules are checked and this one does
not pass; nothing else stops it (`render_cases`).
-/

namespace JsxPages.Project

/-- What a page is converted to. -/
def Config.conversion (config : Config) (assets : AssetMap) (source : Source) (html : String) :
    Document.Conversion :=
  Document.convert { assets, options := config.pageOptions source } html

/-- The name of the stylesheet that the module of a page imports, if there are classes. -/
def Source.stylesheet? (source : Source) (conversion : Document.Conversion) : Option String :=
  if conversion.tables.classes.size != 0 then some (source.component ++ ".css") else none

def Source.moduleText (source : Source) (conversion : Document.Conversion) : String :=
  Page.moduleText source.component conversion (source.stylesheet? conversion)

/-- Whether a module is let through. -/
def Config.accepts (config : Config) (tools : Tools) (module : String) : Prop :=
  config.validate = true → tools.acceptsModule module = true

/-- What a page is rendered to, where nothing stops it. -/
def rendered (source : Source) (conversion : Document.Conversion) : Rendered :=
  { module := source.moduleText conversion
    stylesheet := (source.stylesheet? conversion).map (·, conversion.stylesheet)
    images := conversion.tables.images.entries.map (·.1)
    classes := conversion.tables.classes.size }

variable (tools : Tools) (config : Config) (assets : AssetMap) (source : Source) (html : String)

theorem render_eq :
    render tools config assets source html =
      match (config.pageOptions source).check with
      | .error error => .error (.option error)
      | .ok () =>
        let conversion := config.conversion assets source html
        if config.validate ∧ ¬ tools.acceptsModule (source.moduleText conversion) then
          .error .invalidModule
        else
          .ok (rendered source conversion) :=
  rfl

/-- The ways in which a page can be rendered. -/
theorem render_cases :
    (∃ error, (config.pageOptions source).check = .error error ∧
      render tools config assets source html = .error (.option error)) ∨
    (¬ config.accepts tools (source.moduleText (config.conversion assets source html)) ∧
      render tools config assets source html = .error .invalidModule) ∨
    (config.accepts tools (source.moduleText (config.conversion assets source html)) ∧
      render tools config assets source html =
        .ok (rendered source (config.conversion assets source html))) := by
  rw [render_eq, Config.accepts]
  cases (config.pageOptions source).check with
  | error error => exact .inl ⟨error, rfl, rfl⟩
  | ok accepted =>
    right
    dsimp only
    split
    · rename_i refused
      exact .inl ⟨fun passes => refused.2 (passes refused.1), rfl⟩
    · rename_i passes
      exact .inr ⟨fun checked => Decidable.not_not.1 fun refused => passes ⟨checked, refused⟩, rfl⟩

end JsxPages.Project
