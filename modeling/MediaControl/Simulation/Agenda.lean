/-!
# Agendas

What remains to be done in virtual time.  Tasks that are due are done in the order in which they
became due, those that became due together in the order in which they were entered; time moves only
when nothing is due.

A `Timed` state goes together with an agenda.  `Timed.await` lets time pass until something can be
had from the state or a moment has come, whichever is first.
-/

set_option autoImplicit false

namespace MediaControl

/-- What remains to be done, in the order in which it will be done, each task with the moment from
which it is due. -/
structure Agenda (τ : Type) where
  now : Nat := 0
  entries : List (Nat × τ) := []

namespace Agenda

variable {τ : Type}

/-- Enters a task behind every one that is due no later. -/
def enter (due : Nat) (task : τ) : List (Nat × τ) → List (Nat × τ)
  | [] => [(due, task)]
  | entry :: rest =>
    if entry.1 ≤ due then entry :: enter due task rest else (due, task) :: entry :: rest

/-- Enters a task that will be due in a while. -/
def after (a : Agenda τ) (delay : Nat) (task : τ) : Agenda τ :=
  { a with entries := enter (a.now + delay) task a.entries }

/-- Enters a task that is due now. -/
def add (a : Agenda τ) (task : τ) : Agenda τ := a.after 0 task

/-- Enters a task that is due now, unless one like it has been entered already. -/
def addOnce (a : Agenda τ) (task : τ) (isLike : τ → Bool) : Agenda τ :=
  if a.entries.any fun entry => isLike entry.2 then a else a.add task

/-- The first task, if it is due before the given moment, and the agenda at the moment when it is
done. -/
def next? (a : Agenda τ) (limit : Nat) : Option (τ × Agenda τ) :=
  match a.entries with
  | [] => none
  | (due, task) :: rest =>
    if due < limit then some (task, { now := max a.now due, entries := rest }) else none

/-- Nothing is due now. -/
def isIdle (a : Agenda τ) : Bool := (a.next? (a.now + 1)).isNone

end Agenda

/-- A state with an agenda. -/
structure Timed (σ τ : Type) where
  state : σ
  agenda : Agenda τ := {}

namespace Timed

variable {σ τ β : Type}

/-- How many tasks one wait does at most. -/
def patience : Nat := 1000000000

/-- Does what is due before `limit`, up to the first moment at which nothing more is due and something
can be had; if there is none, time moves to `limit`. -/
def awaitFrom (perform : τ → Timed σ τ → Timed σ τ) (take : σ → Option (β × σ)) (limit : Nat) :
    Nat → Timed σ τ → Option β × Timed σ τ
  | 0, t => (none, t)
  | fuel + 1, t =>
    match if t.agenda.isIdle then take t.state else none with
    | some (b, s) => (some b, { t with state := s })
    | none =>
      match t.agenda.next? limit with
      | some (task, agenda) =>
        awaitFrom perform take limit fuel (perform task { t with agenda })
      | none => (none, { t with agenda := { t.agenda with now := max t.agenda.now limit } })

/-- Waits for something to be had, for `delay` at most.  What can be had at once is had at once. -/
def await (perform : τ → Timed σ τ → Timed σ τ) (take : σ → Option (β × σ)) (delay : Nat)
    (t : Timed σ τ) : Option β × Timed σ τ :=
  match take t.state with
  | some (b, s) => (some b, { t with state := s })
  | none => awaitFrom perform take (t.agenda.now + delay) patience t

/-- Lets time pass. -/
def rest (perform : τ → Timed σ τ → Timed σ τ) (delay : Nat) (t : Timed σ τ) : Timed σ τ :=
  (awaitFrom perform (fun _ => (none : Option (Unit × σ))) (t.agenda.now + delay) patience t).2

end Timed

end MediaControl
