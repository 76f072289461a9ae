import WiperDriver.Proofs.Wiper.Conversation

/-!
# Tasks of a channel

A caller takes control of a channel, performs operations on its wiper, gives the wiper up and takes
control again. `Task` is one thing of these, performed on the handle that the caller has or does not
have: taking control replaces the handle, and an operation without one does nothing.
-/

namespace WiperDriver.Wiper

/-- Something asked of a channel. -/
inductive Task where
  /-- To give up the wiper, if there is one under control, and to take control. -/
  | start (mode : Mode) (initial : Int32)
  /-- To perform an operation on the wiper under control. -/
  | perform (operation : Operation)
  deriving DecidableEq, Repr

/-- What a task does with the wiper under control, and the result unless there is no such wiper. -/
def Task.run (model : Model) (channel : Channel) :
    Task → StateT (Option Wiper) (Dialogue Bus.Call Bus.Answer) (Option (Except Error Result))
  | .start mode initial, _ => (Wiper.start model channel mode initial).run >>= fun
    | .ok wiper => .done (some (.ok .done), some wiper)
    | .error error => .done (some (.error error), none)
  | .perform operation, some wiper => operation.perform.run.run wiper >>= fun
    | (result, wiper) => .done (some result, some wiper)
  | .perform _, none => .done (none, none)

/-! ## Tasks on a chip -/

theorem converse_task_start (chip : Chip) (model : Model) (channel : Channel) (mode : Mode)
    (initial : Int32) (handle : Option Wiper) :
    chip.converse ((Task.start mode initial).run model channel handle) =
      match chip.converse (start model channel mode initial).run with
      | (.ok wiper, chip) => ((some (.ok .done), some wiper), chip)
      | (.error error, chip) => ((some (.error error), none), chip) := by
  unfold Task.run
  rw [Chip.converse_bind]
  rcases chip.converse (start model channel mode initial).run with ⟨_ | _, _⟩ <;> rfl

theorem converse_task_perform (chip : Chip) (model : Model) (channel : Channel)
    (operation : Operation) (wiper : Wiper) :
    chip.converse ((Task.perform operation).run model channel (some wiper)) =
      let ended := chip.converse (operation.perform.run.run wiper)
      ((some ended.1.1, some ended.1.2), ended.2) := by
  unfold Task.run
  rw [Chip.converse_bind]
  rfl

end WiperDriver.Wiper
