import JsxPages.Proofs.Document.Edit
/-!
# What holds of every reachable pass

The stack, the flags of the body and the two outputs belong together: content is written to the
output of the body exactly while the body is on the stack, and nothing but dropped content stands
inside dropped content. `Sound` states this, every edit keeps it, and so do all runs. An output
changes only by what is written behind it.
-/

namespace JsxPages.Document

/-! ### Stacks, innermost first -/

/-- Dropped content is the inner end of the stack. -/
def DroppedInside (stack : List Frame) : Prop :=
  ∃ dropped kept, stack = dropped ++ kept ∧
    (∀ frame ∈ dropped, frame.isDiscarded = true) ∧ ∀ frame ∈ kept, frame.isDiscarded = false

/-- The elements written to the output of the body are those above the body. -/
def TargetsMatch (stack : List Frame) : Prop :=
  ∀ above name target below, stack = above ++ .element name target :: below →
    (target = .main ↔ .body ∈ below)

theorem DroppedInside.cons {frame : Frame} {stack : List Frame} (inside : DroppedInside stack)
    (nested : frame.isDiscarded = true ∨ ∀ outer ∈ stack, outer.isDiscarded = false) :
    DroppedInside (frame :: stack) := by
  obtain ⟨dropped, kept, rfl, inner, outer⟩ := inside
  cases isDropped : frame.isDiscarded with
  | true => exact ⟨frame :: dropped, kept, rfl, List.forall_mem_cons.2 ⟨isDropped, inner⟩, outer⟩
  | false =>
    have all := nested.resolve_left (by simp [isDropped])
    exact ⟨[], frame :: (dropped ++ kept), rfl, by simp, List.forall_mem_cons.2 ⟨isDropped, all⟩⟩

theorem DroppedInside.tail {frame : Frame} {stack : List Frame}
    (inside : DroppedInside (frame :: stack)) : DroppedInside stack := by
  obtain ⟨dropped, kept, whole, inner, outer⟩ := inside
  rcases dropped with _ | ⟨first, dropped⟩
  · rw [List.nil_append] at whole
    subst whole
    exact ⟨[], stack, rfl, by simp, (List.forall_mem_cons.1 outer).2⟩
  · exact ⟨dropped, kept, (List.cons.inj whole).2, (List.forall_mem_cons.1 inner).2, outer⟩

theorem TargetsMatch.cons {frame : Frame} {stack : List Frame} (targets : TargetsMatch stack)
    (written : ∀ name target, frame = .element name target → (target = .main ↔ .body ∈ stack)) :
    TargetsMatch (frame :: stack) := by
  intro above name target below split
  cases above with
  | nil =>
    obtain ⟨same, rfl⟩ := List.cons.inj split
    exact written name target same
  | cons _ between => exact targets between name target below (List.cons.inj split).2

theorem TargetsMatch.tail {frame : Frame} {stack : List Frame}
    (targets : TargetsMatch (frame :: stack)) : TargetsMatch stack := by
  intro above name target below split
  exact targets (frame :: above) name target below (by rw [split, List.cons_append])

namespace Pass

/-- What ties the stack to the flags. -/
structure Sound (pass : Pass) : Prop where
  body_count : pass.stack.count .body ≤ 1
  body_mem_iff : .body ∈ pass.stack ↔ pass.bodyOpen = true
  seen_iff : pass.bodySeen = true ↔ pass.bodyAttributes.isSome = true
  seen_of_open : pass.bodyOpen = true → pass.bodySeen = true
  dropped : DroppedInside pass.stack
  targets : TargetsMatch pass.stack

/-- What is `Sound` about a pass depends on its stack and its flags alone. -/
theorem Sound.congr {pass other : Pass} (sound : Sound pass) (stack : other.stack = pass.stack)
    (opened : other.bodyOpen = pass.bodyOpen) (seen : other.bodySeen = pass.bodySeen)
    (attributes : other.bodyAttributes = pass.bodyAttributes) : Sound other := by
  obtain ⟨count, mem, seenIff, seenOf, dropped, targets⟩ := sound
  constructor <;> simpa only [stack, opened, seen, attributes]

theorem sound_initial (tables : Tables) : Sound { tables } where
  body_count := by simp
  body_mem_iff := by simp
  seen_iff := by simp
  seen_of_open := by simp
  dropped := ⟨[], [], by simp⟩
  targets := by simp [TargetsMatch]

theorem Sound.write {pass : Pass} (sound : Sound pass) (target : Target) (text : String) :
    Sound (pass.write target text) :=
  sound.congr (by simp) (by simp) (by simp) (by simp)

/-- Outside dropped content the stack holds no dropped content at all. -/
theorem Sound.isDiscarded_eq_false {pass : Pass} (sound : Sound pass)
    (outside : pass.discarding = false) : ∀ frame ∈ pass.stack, frame.isDiscarded = false := by
  obtain ⟨dropped, kept, stack, inner, outer⟩ := sound.dropped
  cases dropped with
  | nil => simpa only [stack, List.nil_append] using outer
  | cons frame rest =>
    have top := inner frame List.mem_cons_self
    simp [discarding, stack, top] at outside

theorem Sound.push {pass : Pass} (sound : Sound pass) {frame : Frame} (notBody : frame ≠ .body)
    (nested : frame.isDiscarded = true ∨ pass.discarding = false)
    (written : ∀ name target, frame = .element name target → target = pass.target) :
    Sound (pass.push frame) where
  body_count := by simpa [Pass.push, notBody] using sound.body_count
  body_mem_iff := by simpa [Pass.push, Ne.symm notBody] using sound.body_mem_iff
  seen_iff := sound.seen_iff
  seen_of_open := sound.seen_of_open
  dropped := sound.dropped.cons (nested.imp_right sound.isDiscarded_eq_false)
  targets := sound.targets.cons fun name target element => by
    rw [written name target element, sound.body_mem_iff, Pass.target]
    cases pass.bodyOpen <;> simp

theorem Sound.openBody {setting : Setting} {pass : Pass} (sound : Sound pass)
    (outside : pass.discarding = false) (closed : pass.bodyOpen = false)
    (attributes : List (String × String)) : Sound (pass.openBody setting attributes) := by
  have absent : Frame.body ∉ pass.stack := by simp [sound.body_mem_iff, closed]
  simp only [Pass.openBody, closed, Bool.false_eq_true, if_false]
  exact {
    body_count := by simp [List.count_eq_zero_of_not_mem absent]
    body_mem_iff := by simp
    seen_iff := by simp
    seen_of_open := by simp
    dropped := sound.dropped.cons (.inr (sound.isDiscarded_eq_false outside))
    targets := sound.targets.cons (by simp) }

theorem Sound.closeTop {pass : Pass} (sound : Sound pass) {frame : Frame} {rest : List Frame}
    (top : pass.stack = frame :: rest) : Sound (pass.closeTop frame rest) := by
  obtain ⟨count, mem, seenIff, seenOf, dropped, targets⟩ := sound
  rw [top] at count mem dropped targets
  by_cases body : frame = .body
  · -- no second body is below, so the flag may be taken back
    subst body
    have absent : Frame.body ∉ rest := List.count_eq_zero.1 (by simpa using count)
    exact {
      body_count := by simp [Pass.closeTop, List.count_eq_zero_of_not_mem absent]
      body_mem_iff := by simp [Pass.closeTop, closeFrame, absent]
      seen_iff := seenIff
      seen_of_open := by simp [Pass.closeTop, closeFrame]
      dropped := dropped.tail
      targets := targets.tail }
  · have opened : (pass.closeTop frame rest).bodyOpen = pass.bodyOpen := by
      cases frame <;> simp_all [Pass.closeTop, closeFrame]
    have seen : (pass.closeTop frame rest).bodySeen = pass.bodySeen := by
      cases frame <;> simp [Pass.closeTop, closeFrame]
    have attributes : (pass.closeTop frame rest).bodyAttributes = pass.bodyAttributes := by
      cases frame <;> simp [Pass.closeTop, closeFrame]
    exact {
      body_count := by simpa [Pass.closeTop, body] using count
      body_mem_iff := by
        rw [opened]
        simpa [Pass.closeTop, Ne.symm body] using mem
      seen_iff := by rw [seen, attributes, seenIff]
      seen_of_open := by rwa [seen, opened]
      dropped := dropped.tail
      targets := targets.tail }

theorem Sound.edit {setting : Setting} {pass after : Pass} {piece : Option (Target × Piece)}
    (edit : Edit setting pass piece after) (sound : Sound pass) : Sound after := by
  cases edit with
  | report diagnostic => exact sound.congr rfl rfl rfl rfl
  | close top => exact sound.closeTop top
  | discard name => exact sound.push (by simp) (.inl rfl) (by simp)
  | document outside => exact sound.push (by simp) (.inr outside) (by simp)
  | body outside closed attributes => exact sound.openBody outside closed attributes
  | tag outside name attributes closed =>
    simp only [openElement]
    generalize Attribute.convert _ _ _ _ _ = converted
    have filed : Sound { pass with tables := converted.2 } := sound.congr rfl rfl rfl rfl
    split
    · exact filed.write _ _
    · exact (filed.write _ _).push (by simp) (.inr (by simpa [discarding] using outside))
        (by simp [Pass.target])
  | text outside piece => exact sound.write _ _
  | comment outside text => exact sound.write _ _

theorem sound_run (setting : Setting) (tables : Tables) (tokens : List Html.Token) :
    Sound (run setting { tables } tokens) :=
  (run_edits setting { tables } tokens).keep Sound.edit (sound_initial tables)

/-! ### Outputs -/

theorem Edits.exists_buffer {setting : Setting} {pass after : Pass}
    {pieces : List (Target × Piece)} (edits : Edits setting pass pieces after) (target : Target) :
    ∃ text, after.buffer target = pass.buffer target ++ text := by
  induction edits with
  | refl => exact ⟨"", by simp⟩
  | head edit _ ih =>
    obtain ⟨first, written⟩ := edit.exists_buffer target
    obtain ⟨second, more⟩ := ih
    exact ⟨first ++ second, by rw [more, written, String.append_assoc]⟩

/-- **What holds of every reachable pass**, and that its outputs only grow, by later tokens and by
the end of the document. -/
theorem reachable_sound (setting : Setting) (tables : Tables) (tokens : List Html.Token) :
    Sound (run setting { tables } tokens) ∧
      (∀ more target, ∃ text,
        (run setting { tables } (tokens ++ more)).buffer target =
          (run setting { tables } tokens).buffer target ++ text) ∧
      ∀ target, ∃ text,
        (run setting { tables } tokens).closed.buffer target =
          (run setting { tables } tokens).buffer target ++ text := by
  refine ⟨sound_run setting tables tokens, fun more target => ?_, fun target => ?_⟩
  · rw [run_append]
    exact (run_edits setting _ more).exists_buffer target
  · exact (closed_edits setting _).exists_buffer target

end Pass

end JsxPages.Document
