import JsxPages.Command.Run
import JsxPages.Command.Tools
import JsxPages.Project.Tree
import JsxPages.Proofs.Project.Programs
import Mathlib.Data.List.Basic
/-!
# What a conversion leaves behind

To convert a document, the command first reads all that it needs, which changes nothing
(`quiet_prepare`), and then writes. A stylesheet is written as soon as it is known, the module only
after it has passed the check. So a conversion that fails, and not for a write, has written nothing,
but for one case: a module that does not pass leaves its stylesheet behind.
-/

namespace JsxPages.Command

open Project (Disk Tools Tree outcome outcome_bind outcome_lift outcome_result error_of_bind Quiet
  quiet_lift quiet_result)

/-! ### Reading, then writing -/

section
variable {m : Type → Type} [Monad m] (disk : Disk m) (tools : Tools) (settingsFile : String)
  (arguments : ConvertArguments)

/-- The settings for a document, and what it is converted to under them. -/
def prepare : ExceptT CommandError m (Settings × Document.Conversion) := do
  let settings ← loadSettings disk settingsFile
  let assets ← building (Project.loadAssets disk (arguments.assets.or settings.assetMap))
  let html ← readNeeded disk arguments.input
  let conversion ← ExceptT.mk (pure (convertDocument settings assets html))
  return (settings, conversion)

/-- The name of the component that a module exports. -/
def ConvertArguments.componentName (arguments : ConvertArguments) : String :=
  arguments.name.getD (nameFor arguments.input)

/-- What is left of a conversion once the document is converted. -/
def emit (settings : Settings) (conversion : Document.Conversion) :
    ExceptT CommandError m String := do
  let stylesheet ← writeStylesheet disk arguments arguments.componentName conversion
  let text ← ExceptT.mk (pure
    (renderDocument tools settings arguments arguments.componentName stylesheet conversion))
  match arguments.output with
  | none => return text
  | some output =>
    write disk output text
    return ""

theorem convert_eq [LawfulMonad m] :
    convert disk tools settingsFile arguments =
      prepare disk settingsFile arguments >>= fun prepared =>
        emit disk tools arguments prepared.1 prepared.2 := by
  simp only [prepare, bind_assoc, pure_bind]
  rfl

end

section
variable {σ : Type} {disk : Disk (StateM σ)}

/-- Questions to the disk change nothing. -/
structure AnswersQuietly (disk : Disk (StateM σ)) : Prop where
  read : ∀ path state, ((disk.read path).run state).2 = state
  isThere : ∀ path state, ((disk.isThere path).run state).2 = state

theorem quiet_readNeeded (quiet : AnswersQuietly disk) (path : String) :
    Quiet (readNeeded disk path) := by
  refine (quiet_lift (quiet.read path)).bind fun answer => ?_
  cases answer with
  | ok text => exact quiet_result _
  | error fault => exact quiet_result _

theorem outcome_building {α : Type} (action : ExceptT Project.BuildError (StateM σ) α) (state : σ) :
    outcome (building action) state =
      ((outcome action state).1.mapError .build, (outcome action state).2) := by
  rcases ran : outcome action state with ⟨error | value, left⟩
  all_goals
    rw [outcome] at ran
    rw [outcome, building, ExceptT.run_mk, StateT.run_bind, ran]
    rfl

theorem quiet_building {α : Type} {action : ExceptT Project.BuildError (StateM σ) α}
    (quiet : Quiet action) : Quiet (building action) := by
  intro state
  rw [outcome_building]
  exact quiet state

theorem quiet_loadAssets (quiet : AnswersQuietly disk) (file : Option String) :
    Quiet (Project.loadAssets disk file) := by
  cases file with
  | none => exact quiet_result _
  | some path =>
    refine Quiet.bind ((quiet_lift (quiet.read path)).bind fun answer => ?_) fun text => ?_
    · cases answer with
      | ok text => exact quiet_result _
      | error fault => exact quiet_result _
    · cases AssetMap.ofJson? text with
      | none => exact quiet_result _
      | some assets => exact quiet_result _

theorem quiet_loadSettings (quiet : AnswersQuietly disk) (path : String) :
    Quiet (loadSettings disk path) := by
  refine (quiet_lift (quiet.isThere path)).bind fun isThere => ?_
  cases isThere with
  | false => exact quiet_result _
  | true =>
    refine (quiet_readNeeded quiet path).bind fun text => ?_
    cases Settings.ofText? text with
    | none => exact quiet_result _
    | some settings => exact quiet_result _

/-- Nothing is written before the document is converted. -/
theorem quiet_prepare (quiet : AnswersQuietly disk) (settingsFile : String)
    (arguments : ConvertArguments) : Quiet (prepare disk settingsFile arguments) := by
  refine (quiet_loadSettings quiet _).bind fun settings => ?_
  refine (quiet_building (quiet_loadAssets quiet _)).bind fun assets => ?_
  refine (quiet_readNeeded quiet _).bind fun html => ?_
  exact (quiet_result _).bind fun conversion => quiet_result _

/-! ### What is written -/

variable {tools : Tools} {settingsFile : String} {arguments : ConvertArguments}
  {settings : Settings} {conversion : Document.Conversion} {state left : σ}

theorem outcome_write (path text : String) (state : σ) :
    outcome (write disk path text) state =
      match (disk.write path text).run state with
      | (true, left) => (.ok (), left)
      | (false, left) => (.error (.unwritable path), left) := by
  rw [write, outcome_bind, outcome_lift]
  rcases (disk.write path text).run state with ⟨written | written, left⟩ <;> rfl

theorem error_of_write {path text : String} {error : CommandError}
    (failed : outcome (write disk path text) state = (.error error, left)) :
    error = .unwritable path := by
  rw [outcome_write] at failed
  split at failed
  · cases failed
  · cases failed
    rfl

theorem error_of_writeStylesheet {name : String} {error : CommandError}
    (failed : outcome (writeStylesheet disk arguments name conversion) state =
      (.error error, left)) : ∃ path, error = .unwritable path := by
  rw [writeStylesheet] at failed
  split at failed
  · cases failed
  · split at failed
    · cases failed
    · rcases error_of_bind failed with unwritten | ⟨_, _, _, failed⟩
      · exact ⟨_, error_of_write unwritten⟩
      · cases failed

/-- The stylesheet is written beside the output file, if there is one and there are classes. -/
theorem cases_of_writeStylesheet {name : String} {stylesheet : Option String}
    (done : outcome (writeStylesheet disk arguments name conversion) state =
      (.ok stylesheet, left)) :
    (stylesheet = none ∧ left = state ∧
      ∀ output, arguments.output = some output → conversion.tables.classes.size = 0) ∨
    ∃ output, arguments.output = some output ∧ conversion.tables.classes.size ≠ 0 ∧
      stylesheet = some (stylesheetName output name arguments.component) ∧
      (disk.write
          (Project.Path.withFileName output (stylesheetName output name arguments.component))
        conversion.stylesheet).run state = (true, left) := by
  rw [writeStylesheet] at done
  split at done
  · rename_i noOutput
    cases done
    exact .inl ⟨rfl, rfl, by simp [noOutput]⟩
  · rename_i output isOutput
    split at done
    · rename_i none
      cases done
      exact .inl ⟨rfl, rfl, fun _ _ => none⟩
    · rename_i some
      right
      refine ⟨output, isOutput, some, ?_⟩
      rw [outcome_bind, outcome_write] at done
      rcases written : (disk.write (Project.Path.withFileName output
        (stylesheetName output name arguments.component)) conversion.stylesheet).run state
        with ⟨success | success, behind⟩
      · rw [written] at done
        cases done
      · rw [written] at done
        cases done
        exact ⟨rfl, rfl⟩

theorem error_of_renderDocument {name : String} {stylesheet : Option String} {error : CommandError}
    (failed : renderDocument tools settings arguments name stylesheet conversion = .error error) :
    error = .build .invalidModule ∧ arguments.component = true ∧ settings.validate = true ∧
      tools.acceptsModule (Page.moduleText name conversion stylesheet) = false := by
  rw [renderDocument] at failed
  split at failed
  · rename_i component
    dsimp only at failed
    split at failed
    · rename_i refused
      cases failed
      exact ⟨rfl, component, refused.1, by simpa using refused.2⟩
    · cases failed
  · cases failed

/-- The module of a document does not pass, and there is a stylesheet to stand beside it. -/
structure IsRefusedWithClasses (tools : Tools) (arguments : ConvertArguments) (settings : Settings)
    (conversion : Document.Conversion) (output : String) : Prop where
  isOutput : arguments.output = some output
  component : arguments.component = true
  classes : conversion.tables.classes.size ≠ 0
  checked : settings.validate = true
  refused : tools.acceptsModule (Page.moduleText arguments.componentName conversion
    (some (stylesheetName output arguments.componentName true))) = false

theorem cases_of_emit {error : CommandError}
    (failed : outcome (emit disk tools arguments settings conversion) state = (.error error, left))
    (notWriting : ∀ path, error ≠ .unwritable path) :
    (left = state ∧
      ∀ output, ¬ IsRefusedWithClasses tools arguments settings conversion output) ∨
    error = .build .invalidModule ∧
      ∃ output, IsRefusedWithClasses tools arguments settings conversion output ∧
        (disk.write (Project.Path.withFileName output
            (stylesheetName output arguments.componentName true))
          conversion.stylesheet).run state = (true, left) := by
  rw [emit] at failed
  rcases error_of_bind failed with unwritten | ⟨stylesheet, middle, wrote, failed⟩
  · obtain ⟨path, same⟩ := error_of_writeStylesheet unwritten
    exact absurd same (notWriting path)
  rcases error_of_bind failed with refused | ⟨text, _, _, failed⟩
  · rw [outcome_result] at refused
    obtain ⟨result, rfl⟩ := Prod.mk.inj refused
    obtain ⟨invalid, component, checked, refused⟩ := error_of_renderDocument result
    rcases cases_of_writeStylesheet wrote with
      ⟨_, same, noClasses⟩ | ⟨output, isOutput, classes, rfl, written⟩
    · exact .inl ⟨same, fun output refused => refused.classes (noClasses output refused.isOutput)⟩
    · rw [component] at refused written
      exact .inr ⟨invalid, output, ⟨isOutput, component, classes, checked, refused⟩, written⟩
  · split at failed
    · cases failed
    · rcases error_of_bind failed with unwritten | ⟨_, _, _, failed⟩
      · exact absurd (error_of_write unwritten) (notWriting _)
      · cases failed

end

/-- **A conversion that fails leaves nothing behind but the stylesheet of a refused module.** On any
disk whose answers change nothing, and with any check: a conversion that fails, and not for a write,
has written the stylesheet, and nothing else, if the module of a document with classes does not
pass and there is an output file, and has written nothing in every other case. -/
theorem failed_conversion_leaves {σ : Type} {disk : Disk (StateM σ)} (quiet : AnswersQuietly disk)
    (tools : Tools) (settingsFile : String) (arguments : ConvertArguments) {start left : σ}
    {error : CommandError}
    (failed : outcome (convert disk tools settingsFile arguments) start = (.error error, left))
    (notWriting : ∀ path, error ≠ .unwritable path) :
    (left = start ∧ ∀ settings conversion output,
      (outcome (prepare disk settingsFile arguments) start).1 = .ok (settings, conversion) →
        ¬ IsRefusedWithClasses tools arguments settings conversion output) ∨
    error = .build .invalidModule ∧ ∃ settings conversion output,
      (outcome (prepare disk settingsFile arguments) start).1 = .ok (settings, conversion) ∧
      IsRefusedWithClasses tools arguments settings conversion output ∧
      (disk.write (Project.Path.withFileName output
          (stylesheetName output arguments.componentName true))
        conversion.stylesheet).run start = (true, left) := by
  have still := quiet_prepare quiet settingsFile arguments start
  rw [convert_eq] at failed
  rcases error_of_bind failed with unprepared | ⟨⟨settings, conversion⟩, middle, ready, unsent⟩
  · rw [unprepared] at still ⊢
    exact .inl ⟨still, fun _ _ _ known => by cases known⟩
  · rw [ready] at still ⊢
    obtain rfl : middle = start := still
    rcases cases_of_emit unsent notWriting with
      ⟨same, noneRefused⟩ | ⟨invalid, output, refused, written⟩
    · refine .inl ⟨same, fun _ _ output known => ?_⟩
      cases known
      exact noneRefused output
    · exact .inr ⟨invalid, settings, conversion, output, rfl, refused, written⟩

/-! ### A refused module -/

theorem answersQuietly_tree : AnswersQuietly Tree.disk :=
  ⟨fun _ _ => rfl, fun _ _ => rfl⟩

/-- A document with a class, and with a handler that no function is made of. -/
def brokenHandler : Tree :=
  { nodes := [(["a.html"], .text "<p style='--x:1' onclick='if ('>x")] }

def toModule : ConvertArguments :=
  { input := "a.html", output := some "A.jsx", component := true }

theorem build_ne_unwritable (error : Project.BuildError) (path : String) :
    CommandError.build error ≠ .unwritable path := by
  simp

theorem convert_brokenHandler :
    outcome (convert Tree.disk tools "sitejsx.toml" toModule) brokenHandler =
      (.error (.build .invalidModule),
        brokenHandler.set ["A.css"] (.text ".custom-var-1 \x7b\n  --x: 1;\n\x7d\n")) := by
  decide +kernel

theorem failed_conversion_leaves_brokenHandler :
    let left := brokenHandler.set ["A.css"] (.text ".custom-var-1 \x7b\n  --x: 1;\n\x7d\n")
    AnswersQuietly Tree.disk ∧
      outcome (convert Tree.disk tools "sitejsx.toml" toModule) brokenHandler =
        (.error (.build .invalidModule), left) ∧
      (∀ path, CommandError.build .invalidModule ≠ .unwritable path) ∧
      ∃ settings conversion output,
        IsRefusedWithClasses tools toModule settings conversion output ∧
        (Tree.disk.write (Project.Path.withFileName output
            (stylesheetName output toModule.componentName true))
          conversion.stylesheet).run brokenHandler = (true, left) := by
  intro left
  refine ⟨answersQuietly_tree, convert_brokenHandler, build_ne_unwritable _, ?_⟩
  rcases failed_conversion_leaves answersQuietly_tree tools _ toModule convert_brokenHandler
    (build_ne_unwritable _) with ⟨same, _⟩ | ⟨_, settings, conversion, output, _, refused, written⟩
  · exact absurd same (by decide)
  · exact ⟨settings, conversion, output, refused, written⟩

/-- The command fails in the check, and there is a stylesheet that was not there before. -/
theorem convert_leaves_stylesheet :
    ∃ left, outcome (convert Tree.disk tools "sitejsx.toml" toModule) brokenHandler =
        (.error (.build .invalidModule), left) ∧
      brokenHandler.find? ["A.css"] = none ∧
      left.find? ["A.css"] = some (.text ".custom-var-1 \x7b\n  --x: 1;\n\x7d\n") ∧
      left.find? ["A.jsx"] = none :=
  ⟨_, convert_brokenHandler, by decide, by decide, by decide⟩

end JsxPages.Command
