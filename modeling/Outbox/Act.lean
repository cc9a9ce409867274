import Outbox.Fault.Basic

/-!
# Acts

Sending a transaction is a conversation: a gate is asked, a network is asked, a callback
is called, and any of them may change its own state, take note of something, or fail.
An `Act` is a piece of such a conversation.  Started in a state it ends with a result or
a fault, with the notes that were taken on the way in their order, and in a next state.

## Why notes are part of an act

Much of what the library promises is about the conversation and not about its result:
who was asked, in what order, how often, and that nobody was asked after a fault.  Notes
make these statements about data.  A fault does not undo anything: the notes taken
before it and the changes of state made before it stay.

## Faults and interrupts

`rescue` goes on after a fault, and there is one rule in it that nothing in the library
may break: an order to stop is never rescued (`rescue_of_interrupt`).
-/

namespace Outbox

/-- How an act ended: its result, the notes taken on the way, and the state after it. -/
structure Outcome (ν σ α : Type) where
  result : Except Fault α
  notes : List ν
  next : σ

/-- A piece of work that starts in a state of type `σ`, takes notes of type `ν`, and ends
with an `α` or a fault. -/
def Act (ν σ α : Type) : Type := σ → Outcome ν σ α

variable {ν μ σ τ α β : Type}

/-- The outcome with earlier notes in front. -/
def Outcome.after (notes : List ν) (o : Outcome ν σ α) : Outcome ν σ α :=
  { o with notes := notes ++ o.notes }

namespace Outcome

@[simp] theorem after_nil (o : Outcome ν σ α) : o.after [] = o := rfl

@[simp] theorem result_after (notes : List ν) (o : Outcome ν σ α) :
    (o.after notes).result = o.result := rfl

@[simp] theorem notes_after (notes : List ν) (o : Outcome ν σ α) :
    (o.after notes).notes = notes ++ o.notes := rfl

@[simp] theorem next_after (notes : List ν) (o : Outcome ν σ α) :
    (o.after notes).next = o.next := rfl

theorem after_after (ms ns : List ν) (o : Outcome ν σ α) :
    (o.after ns).after ms = o.after (ms ++ ns) := by
  simp [after, List.append_assoc]

end Outcome

namespace Act

/-- The act that does nothing. -/
protected def pure (a : α) : Act ν σ α := fun s => ⟨.ok a, [], s⟩

/-- One act after another.  A fault of the first is the fault of both. -/
protected def bind (x : Act ν σ α) (f : α → Act ν σ β) : Act ν σ β := fun s =>
  match (x s).result with
  | .ok a => (f a (x s).next).after (x s).notes
  | .error e => ⟨.error e, (x s).notes, (x s).next⟩

instance : Monad (Act ν σ) where
  pure := Act.pure
  bind := Act.bind

theorem bind_eq (x : Act ν σ α) (f : α → Act ν σ β) (s : σ) :
    (x >>= f) s = match (x s).result with
      | .ok a => (f a (x s).next).after (x s).notes
      | .error e => ⟨.error e, (x s).notes, (x s).next⟩ := rfl

@[simp] theorem pure_eq (a : α) (s : σ) : (pure a : Act ν σ α) s = ⟨.ok a, [], s⟩ := rfl

theorem bind_of_ok {x : Act ν σ α} {f : α → Act ν σ β} {s : σ} {a : α}
    (h : (x s).result = .ok a) : (x >>= f) s = (f a (x s).next).after (x s).notes := by
  rw [bind_eq, h]

theorem bind_of_error {x : Act ν σ α} {f : α → Act ν σ β} {s : σ} {e : Fault}
    (h : (x s).result = .error e) : (x >>= f) s = ⟨.error e, (x s).notes, (x s).next⟩ := by
  rw [bind_eq, h]

instance : LawfulMonad (Act ν σ) := LawfulMonad.mk' (Act ν σ)
  (by
    intro α x
    funext s
    show (x >>= fun a => pure (id a)) s = x s
    rw [bind_eq]
    rcases h : x s with ⟨⟨e⟩ | ⟨a⟩, notes, t⟩ <;> simp [Outcome.after])
  (by
    intro α β a f
    funext s
    rw [bind_eq]
    simp)
  (by
    intro α β γ x f g
    funext s
    cases h : (x s).result with
    | error e => simp [bind_eq, h]
    | ok a =>
      cases h' : (f a (x s).next).result with
      | error e => simp [bind_eq, h, h', Outcome.after]
      | ok b => simp [bind_eq, h, h', Outcome.after, List.append_assoc])

@[simp] theorem map_eq (f : α → β) (x : Act ν σ α) (s : σ) :
    (f <$> x) s = ⟨(x s).result.map f, (x s).notes, (x s).next⟩ := by
  rw [← bind_pure_comp, bind_eq]
  cases h : (x s).result <;> simp [Outcome.after, Except.map]

/-! ## Small acts -/

/-- The act that ends in a fault. -/
def fail (e : Fault) : Act ν σ α := fun s => ⟨.error e, [], s⟩

/-- The act that takes a note. -/
def note (n : ν) : Act ν σ Unit := fun s => ⟨.ok (), [n], s⟩

/-- The act that looks at the state. -/
def look : Act ν σ σ := fun s => ⟨.ok s, [], s⟩

/-- The act that changes the state. -/
def change (f : σ → σ) : Act ν σ Unit := fun s => ⟨.ok (), [], f s⟩

/-- The act that ends with a result known beforehand. -/
def ofExcept (r : Except Fault α) : Act ν σ α := fun s => ⟨r, [], s⟩

@[simp] theorem fail_eq (e : Fault) (s : σ) : (fail e : Act ν σ α) s = ⟨.error e, [], s⟩ := rfl

@[simp] theorem note_eq (n : ν) (s : σ) : note n s = ⟨.ok (), [n], s⟩ := rfl

@[simp] theorem look_eq (s : σ) : (look : Act ν σ σ) s = ⟨.ok s, [], s⟩ := rfl

@[simp] theorem change_eq (f : σ → σ) (s : σ) : (change f : Act ν σ Unit) s = ⟨.ok (), [], f s⟩ :=
  rfl

@[simp] theorem ofExcept_eq (r : Except Fault α) (s : σ) :
    (ofExcept r : Act ν σ α) s = ⟨r, [], s⟩ := rfl

/-! ## Going on after a fault -/

/-- Goes on with `handler` after a fault that is no order to stop. -/
def rescue (x : Act ν σ α) (handler : Fault → Act ν σ α) : Act ν σ α := fun s =>
  match (x s).result with
  | .ok _ => x s
  | .error e => if e.isInterrupt then x s else (handler e (x s).next).after (x s).notes

theorem rescue_of_ok {x : Act ν σ α} {handler : Fault → Act ν σ α} {s : σ} {a : α}
    (h : (x s).result = .ok a) : rescue x handler s = x s := by
  simp [rescue, h]

/-- An order to stop is passed on as it is. -/
theorem rescue_of_interrupt {x : Act ν σ α} {handler : Fault → Act ν σ α} {s : σ} {e : Fault}
    (h : (x s).result = .error e) (he : e.isInterrupt = true) : rescue x handler s = x s := by
  simp [rescue, h, he]

theorem rescue_of_fault {x : Act ν σ α} {handler : Fault → Act ν σ α} {s : σ} {e : Fault}
    (h : (x s).result = .error e) (he : e.isInterrupt = false) :
    rescue x handler s = (handler e (x s).next).after (x s).notes := by
  simp [rescue, h, he]

/-- The act that always ends well, with what came of another. -/
def attempt (x : Act ν σ α) : Act ν σ (Except Fault α) := fun s =>
  let o := x s
  ⟨.ok o.result, o.notes, o.next⟩

@[simp] theorem attempt_eq (x : Act ν σ α) (s : σ) :
    attempt x s = ⟨.ok (x s).result, (x s).notes, (x s).next⟩ := rfl

/-! ## Acts on a part of a state -/

/-- The act on a part of a larger state. -/
def within (part : τ → σ) (put : σ → τ → τ) (x : Act ν σ α) : Act ν τ α := fun t =>
  let o := x (part t)
  ⟨o.result, o.notes, put o.next t⟩

/-- The act with its notes written in another way. -/
def renote (f : ν → μ) (x : Act ν σ α) : Act μ σ α := fun s =>
  let o := x s
  ⟨o.result, o.notes.map f, o.next⟩

/-- An act that takes no notes, among acts that do. -/
def silent (x : Act Empty σ α) : Act ν σ α := renote Empty.elim x

@[simp] theorem result_within (part : τ → σ) (put : σ → τ → τ) (x : Act ν σ α) (t : τ) :
    (within part put x t).result = (x (part t)).result := rfl

@[simp] theorem notes_within (part : τ → σ) (put : σ → τ → τ) (x : Act ν σ α) (t : τ) :
    (within part put x t).notes = (x (part t)).notes := rfl

@[simp] theorem next_within (part : τ → σ) (put : σ → τ → τ) (x : Act ν σ α) (t : τ) :
    (within part put x t).next = put (x (part t)).next t := rfl

@[simp] theorem result_renote (f : ν → μ) (x : Act ν σ α) (s : σ) :
    (renote f x s).result = (x s).result := rfl

@[simp] theorem notes_renote (f : ν → μ) (x : Act ν σ α) (s : σ) :
    (renote f x s).notes = (x s).notes.map f := rfl

@[simp] theorem next_renote (f : ν → μ) (x : Act ν σ α) (s : σ) :
    (renote f x s).next = (x s).next := rfl

@[simp] theorem notes_silent (x : Act Empty σ α) (s : σ) :
    (silent x s : Outcome ν σ α).notes = [] := by
  simp only [silent, notes_renote]
  cases (x s).notes with
  | nil => rfl
  | cons n _ => exact n.elim

end Act
end Outbox
