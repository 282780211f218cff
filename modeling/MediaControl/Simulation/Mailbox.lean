import MediaControl.Mailbox
import MediaControl.Simulation.Agenda

/-!
# Mailboxes in time (SPEC_FULL §4.5)

A mailbox into which values are put later on, and whoever waits at it meanwhile.
-/

set_option autoImplicit false

namespace MediaControl

/-- A mailbox with the values that will be put into it. -/
abbrev TimedMailbox (ε α : Type) := Timed (Mailbox ε α) α

namespace TimedMailbox

variable {ε α : Type}

/-- A value arrives. -/
def arrive (value : α) (t : TimedMailbox ε α) : TimedMailbox ε α :=
  { t with state := t.state.put value }

/-- A value will be put into the mailbox in a while. -/
def putLater (t : TimedMailbox ε α) (delay : Nat) (value : α) : TimedMailbox ε α :=
  { t with agenda := t.agenda.after delay value }

/-- Waits for an item, for `delay` at most. -/
def take (t : TimedMailbox ε α) (delay : Nat) : Option (Except ε α) × TimedMailbox ε α :=
  Timed.await arrive Mailbox.take? delay t

/-- Lets time pass. -/
def rest (t : TimedMailbox ε α) (delay : Nat) : TimedMailbox ε α := Timed.rest arrive delay t

end TimedMailbox

end MediaControl
