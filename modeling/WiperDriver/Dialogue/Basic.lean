import WiperDriver.Log

/-!
# Dialogues

An operation of the driver is a conversation: it asks something of the level below, decides by the
answer how to go on, and reports to the log in between. `Dialogue` is the tree of all courses such
a conversation can take, one branch for every answer. It is data, so a statement about what an
operation does on the bus is a statement about this tree, whatever answers the calls.

Dialogues compose as a lawful monad; `ask` and `say` are its two effects.
-/

namespace WiperDriver

/-- A computation that makes calls and reports to the log until it has a value. -/
inductive Dialogue (Call : Type) (Answer : Call → Type) (α : Type) where
  /-- It is over and has a value. -/
  | done (value : α)
  /-- It reports a line and goes on. -/
  | say (line : Log.Line) (next : Dialogue Call Answer α)
  /-- It makes a call and goes on as the answer demands. -/
  | ask (call : Call) (next : Answer call → Dialogue Call Answer α)

namespace Dialogue

variable {Call : Type} {Answer : Call → Type} {α β : Type}

/-- One dialogue after another: the second starts from the value of the first. -/
def bind : Dialogue Call Answer α → (α → Dialogue Call Answer β) → Dialogue Call Answer β
  | .done value, f => f value
  | .say line next, f => .say line (next.bind f)
  | .ask call next, f => .ask call fun answer => (next answer).bind f

instance : Monad (Dialogue Call Answer) where
  pure := .done
  bind := bind

/-- Makes one call and has its answer as value. -/
def request (call : Call) : Dialogue Call Answer (Answer call) :=
  .ask call .done

/-- Reports one line. -/
def note (line : Log.Line) : Dialogue Call Answer Unit :=
  .say line (.done ())

@[simp]
theorem pure_eq (value : α) : (pure value : Dialogue Call Answer α) = .done value :=
  rfl

@[simp]
theorem done_bind (value : α) (f : α → Dialogue Call Answer β) :
    (Dialogue.done value >>= f) = f value :=
  rfl

@[simp]
theorem say_bind (line : Log.Line) (next : Dialogue Call Answer α)
    (f : α → Dialogue Call Answer β) :
    (Dialogue.say line next >>= f) = .say line (next >>= f) :=
  rfl

@[simp]
theorem ask_bind (call : Call) (next : Answer call → Dialogue Call Answer α)
    (f : α → Dialogue Call Answer β) :
    (Dialogue.ask call next >>= f) = .ask call fun answer => next answer >>= f :=
  rfl

@[simp]
theorem map_done (f : α → β) (value : α) :
    (f <$> (Dialogue.done value : Dialogue Call Answer α)) = .done (f value) :=
  rfl

@[simp]
theorem map_say (f : α → β) (line : Log.Line) (next : Dialogue Call Answer α) :
    (f <$> Dialogue.say line next) = .say line (f <$> next) :=
  rfl

@[simp]
theorem map_ask (f : α → β) (call : Call) (next : Answer call → Dialogue Call Answer α) :
    (f <$> Dialogue.ask call next) = .ask call fun answer => f <$> next answer :=
  rfl

/-- Ending a dialogue with its own value adds nothing to it. -/
theorem bind_done (dialogue : Dialogue Call Answer α) : (dialogue >>= .done) = dialogue := by
  induction dialogue with
  | done value => rfl
  | say line next ih => rw [say_bind, ih]
  | ask call next ih => rw [ask_bind]; simp only [ih]

/-- How three dialogues in a row are grouped makes no difference. -/
theorem bind_assoc {γ : Type} (dialogue : Dialogue Call Answer α)
    (f : α → Dialogue Call Answer β) (g : β → Dialogue Call Answer γ) :
    (dialogue >>= f >>= g) = (dialogue >>= fun value => f value >>= g) := by
  induction dialogue with
  | done value => rfl
  | say line next ih => simp only [say_bind, ih]
  | ask call next ih => simp only [ask_bind, ih]

instance : LawfulMonad (Dialogue Call Answer) :=
  LawfulMonad.mk' (Dialogue Call Answer) bind_done (fun _ _ => rfl) bind_assoc

end Dialogue

end WiperDriver
