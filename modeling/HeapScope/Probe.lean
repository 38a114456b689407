import HeapScope.Error
import HeapScope.Register

/-!
# Probes

A probe is a computation that inspects a stopped process. It ends with a value, with an inspection
error or with a crash, and it leaves a trace of what it did on the way: which memory and registers
it read, which formatters it consulted, and at which depths it summarized values. What a probe ends
with never depends on the trace, so a statement on results may forget it.
-/

namespace HeapScope

/-- Something that a probe does. -/
inductive Event where
  | memory (address : UInt64) (size : Nat)
  | register (register : Register)
  | formatter (id : Nat)
  | summary (depth : Nat)
deriving DecidableEq, Repr

namespace Event

/-- Whether an event is a read of memory. -/
def isMemory : Event → Bool
  | memory _ _ => true
  | _ => false

end Event

/-- A value with the trace of how it came about. -/
structure Traced (α : Type) where
  value : α
  events : List Event := []

instance : Monad Traced where
  pure a := ⟨a, []⟩
  bind x f :=
    let y := f x.value
    ⟨y.value, x.events ++ y.events⟩

/-- A value by itself is the value. -/
@[simp] theorem Traced.value_pure {α : Type} (a : α) : (pure a : Traced α).value = a := rfl

/-- A value by itself has an empty trace. -/
@[simp] theorem Traced.events_pure {α : Type} (a : α) : (pure a : Traced α).events = [] := rfl

/-- The value of two steps is that of the second one. -/
@[simp] theorem Traced.value_bind {α β : Type} (x : Traced α) (f : α → Traced β) :
    (x >>= f).value = (f x.value).value := rfl

/-- The trace of two steps is the first one's with the second one's behind it. -/
@[simp] theorem Traced.events_bind {α β : Type} (x : Traced α) (f : α → Traced β) :
    (x >>= f).events = x.events ++ (f x.value).events := rfl

instance : LawfulMonad Traced := LawfulMonad.mk' Traced
  (by intro α x; cases x; simp [Functor.map])
  (by intro α β x f; simp [bind, pure])
  (by intro α β γ x f g; simp [bind])

/-- Why a probe has no value. -/
inductive Stop where
  | failed (error : InspectionError)
  | crashed (crash : Crash)
deriving DecidableEq, Repr

/-- A computation that inspects a stopped process. -/
abbrev Probe := ExceptT Stop Traced

namespace Probe

/-- What a probe ends with. -/
def outcome {α : Type} (p : Probe α) : Except Stop α := p.run.value

/-- What a probe does on the way. -/
def events {α : Type} (p : Probe α) : List Event := p.run.events

/-- Ends with an inspection error. -/
def fail {α : Type} (e : InspectionError) : Probe α := throw (.failed e)

/-- Ends with a crash. -/
def crash {α : Type} (c : Crash) : Probe α := throw (.crashed c)

/-- A value by itself is what it ends with. -/
@[simp] theorem outcome_pure {α : Type} (a : α) : (pure a : Probe α).outcome = .ok a := rfl

/-- An inspection error is what it ends with. -/
@[simp] theorem outcome_fail {α : Type} (e : InspectionError) :
    (fail e : Probe α).outcome = .error (.failed e) := rfl

/-- A probe that goes on with what another ends with ends as that one does, or else as what follows
does. -/
theorem outcome_bind {α β : Type} (p : Probe α) (f : α → Probe β) :
    (p >>= f).outcome = p.outcome >>= fun a => (f a).outcome := by
  show (ExceptT.bindCont f p.run.value).value = _
  unfold outcome
  cases p.run.value <;> rfl

/-- A traced value succeeds with that value. -/
@[simp] theorem outcome_lift {α : Type} (t : Traced α) :
    outcome (ExceptT.lift t : Probe α) = .ok t.value := rfl

/-- Nothing comes after an inspection error. -/
@[simp] theorem fail_bind {α β : Type} (e : InspectionError) (f : α → Probe β) :
    (fail e >>= f) = fail e := rfl

/-- Records an event. -/
def note (e : Event) : Probe Unit := ExceptT.lift ⟨(), [e]⟩

/-- Ends as an inspection step without a trace does. -/
def ofExcept {α : Type} : Except InspectionError α → Probe α
  | .ok a => pure a
  | .error e => fail e

/-- Runs a probe and hands on its inspection error as a value; a crash still ends the whole. -/
def attempt {α : Type} (p : Probe α) : Probe (Except InspectionError α) :=
  ExceptT.mk do
    match ← p.run with
    | .ok a => pure (.ok (.ok a))
    | .error (.failed e) => pure (.ok (.error e))
    | .error (.crashed c) => pure (.error (.crashed c))

/-- Attempting what fails hands the error on. -/
@[simp] theorem attempt_fail {α : Type} (e : InspectionError) :
    (fail e : Probe α).attempt = pure (.error e) := rfl

/-- The error that stands for a crash under guard. -/
def crashError (c : Crash) : InspectionError := .malformed ("formatter panicked: " ++ c.message)

/-- Runs a probe under guard: a crash becomes an inspection error. -/
def guarded {α : Type} (p : Probe α) : Probe α :=
  ExceptT.mk do
    match ← p.run with
    | .error (.crashed c) => pure (.error (.failed (crashError c)))
    | r => pure r

end Probe

/-- Exact arithmetic inside a probe: an overflow is a crash. -/
instance : MonadLift (Except Crash) Probe where
  monadLift
    | .ok a => pure a
    | .error c => Probe.crash c

end HeapScope
