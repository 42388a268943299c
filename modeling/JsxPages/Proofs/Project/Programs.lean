import JsxPages.Project.Build
/-!
# Programs on any disk

What a program comes to is told by its parts: where a program stops, one of its parts stops
(`error_of_bind`), and a program whose parts leave everything as it is does so too (`Quiet.bind`).
Nothing is said of the disk, which may be the files of a machine as well as a tree in memory.
-/

namespace JsxPages.Project

variable {ε σ α β : Type}

/-- What a program comes to from a state, and the state behind it. -/
def outcome (program : ExceptT ε (StateM σ) α) (state : σ) : Except ε α × σ :=
  program.run.run state

theorem outcome_bind (program : ExceptT ε (StateM σ) α) (next : α → ExceptT ε (StateM σ) β)
    (state : σ) :
    outcome (program >>= next) state =
      match outcome program state with
      | (.ok value, state) => outcome (next value) state
      | (.error error, state) => (.error error, state) := by
  have run : outcome (program >>= next) state =
      (ExceptT.bindCont next (outcome program state).1).run (outcome program state).2 := rfl
  rw [run]
  rcases outcome program state with ⟨error | value, left⟩ <;> rfl

theorem outcome_lift (action : StateM σ α) (state : σ) :
    outcome (liftM action : ExceptT ε (StateM σ) α) state =
      (.ok (action.run state).1, (action.run state).2) :=
  rfl

theorem outcome_result (result : Except ε α) (state : σ) :
    outcome (ExceptT.mk (pure result)) state = (result, state) :=
  rfl

/-- Where a program stops, one of its parts does. -/
theorem error_of_bind {program : ExceptT ε (StateM σ) α} {next : α → ExceptT ε (StateM σ) β}
    {state left : σ} {error : ε}
    (failed : outcome (program >>= next) state = (.error error, left)) :
    outcome program state = (.error error, left) ∨
      ∃ value middle, outcome program state = (.ok value, middle) ∧
        outcome (next value) middle = (.error error, left) := by
  rw [outcome_bind] at failed
  split at failed
  · rename_i value middle ran
    exact .inr ⟨value, middle, ran, failed⟩
  · rename_i ran
    cases failed
    exact .inl ran

/-! ### Programs that change nothing -/

/-- Whatever the program comes to, everything is as it was. -/
def Quiet (program : ExceptT ε (StateM σ) α) : Prop :=
  ∀ state, (outcome program state).2 = state

theorem Quiet.bind {program : ExceptT ε (StateM σ) α} {next : α → ExceptT ε (StateM σ) β}
    (first : Quiet program) (later : ∀ value, Quiet (next value)) : Quiet (program >>= next) := by
  intro state
  have same := first state
  rw [outcome_bind]
  generalize outcome program state = ran at same
  rcases ran with ⟨error | value, left⟩
  · exact same
  · exact (later value left).trans same

theorem quiet_lift {action : StateM σ α} (same : ∀ state, (action.run state).2 = state) :
    Quiet (liftM action : ExceptT ε (StateM σ) α) :=
  same

theorem quiet_result (result : Except ε α) :
    Quiet (ExceptT.mk (pure result) : ExceptT ε (StateM σ) α) :=
  fun _ => rfl

/-! ### What can go wrong -/

theorem error_of_readText {disk : Disk (StateM σ)} {path : String} {state left : σ}
    {error : BuildError} (failed : outcome (readText disk path) state = (.error error, left)) :
    ∃ fault, error = .unreadable path fault := by
  rw [readText, outcome_bind, outcome_lift] at failed
  cases read : ((disk.read path).run state).1 with
  | ok text =>
    rw [read] at failed
    cases failed
  | error fault =>
    rw [read] at failed
    cases failed
    exact ⟨fault, rfl⟩

theorem error_of_writeOrFail {disk : Disk (StateM σ)} {path text : String} {state left : σ}
    {error : BuildError}
    (failed : outcome (writeOrFail disk path text) state = (.error error, left)) :
    error = .unwritable := by
  rw [writeOrFail, outcome_bind, outcome_lift] at failed
  cases written : ((disk.write path text).run state).1 with
  | true =>
    rw [written] at failed
    cases failed
  | false =>
    rw [written] at failed
    cases failed
    rfl

end JsxPages.Project
