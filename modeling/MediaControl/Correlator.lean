import MediaControl.Error
import MediaControl.Mailbox
import MediaControl.Table

/-!
# Correlating answers with requests (SPEC_FULL §4.4)

A request that is sent is entered under its channel and its id, and whoever sent it holds a *slot*.
A response that completes the request goes into the slot and ends the matter; any other response
goes into the slot, and the event that completes the request follows it.  Whatever does not fit --
nobody asked, whoever asked went away, or it is not its turn -- is handed back as it came.
-/

set_option autoImplicit false

namespace MediaControl

/-- What a slot waits for. -/
inductive Awaited where
  | response
  /-- the event that completes the request -/
  | completion
  deriving DecidableEq, Repr, Inhabited

/-- A request that has not completed. -/
structure Outstanding where
  slot : Nat
  awaits : Awaited
  deriving DecidableEq, Repr, Inhabited

/-- The line in which the answers to one request wait. -/
abbrev Slot := Mailbox Error Message

/-- The outstanding requests of a connection, and the slots that somebody still holds. -/
structure Correlator where
  /-- the outstanding requests, by the key of their channel and their id -/
  entries : Table (String × Nat) Outstanding := {}
  /-- the slots that are still held, by number -/
  slots : Table Nat Slot := {}
  /-- the number of the next slot -/
  nextSlot : Nat := 0

namespace Correlator

/-- What an outstanding request makes of a message: whether the matter ends there, if the message is
for it. -/
def fits : Awaited → Message → Option Bool
  | .response, .response r => some r.state.isTerminal
  | .completion, .event e => if e.state.isTerminal then some true else none
  | _, _ => none

/-- Enters a request that is about to be sent, in the place of an older one with that id on the
channel.  The number of its slot comes with it. -/
def register (c : Correlator) (channel : String) (id : Nat) : Nat × Correlator :=
  (c.nextSlot,
    { entries := c.entries.insert (Text.trim channel, id) ⟨c.nextSlot, .response⟩
      slots := c.slots.insert c.nextSlot {}
      nextSlot := c.nextSlot + 1 })

/-- Strikes a request out without an answer. -/
def forget (c : Correlator) (channel : String) (id : Nat) : Correlator :=
  { c with entries := c.entries.erase (Text.trim channel, id) }

/-- The slot is let go: what comes for it from now on is handed back. -/
def drop (c : Correlator) (slot : Nat) : Correlator := { c with slots := c.slots.erase slot }

/-- Puts an item into a slot, if it is held. -/
def pushInto (slots : Table Nat Slot) (slot : Nat) (item : Except Error Message) :
    Table Nat Slot :=
  match slots.get? slot with
  | some line => slots.insert slot (line.push item)
  | none => slots

/-- Takes the oldest item out of a slot. -/
def take? (c : Correlator) (slot : Nat) : Option (Except Error Message × Correlator) :=
  match (c.slots.get? slot).bind Mailbox.take? with
  | some (item, line) => some (item, { c with slots := c.slots.insert slot line })
  | none => none

/-- How many items wait in a slot. -/
def queued (c : Correlator) (slot : Nat) : Nat := ((c.slots.get? slot).getD {}).size

/-- Hands a message to the request that waits for it, or back to the caller. -/
def handle (c : Correlator) (m : Message) : Correlator × Option Message :=
  match m.channelId with
  | .error _ => (c, some m)
  | .ok channel =>
    let key := (channel.key, m.id)
    match c.entries.get? key with
    | none => (c, some m)
    | some entry =>
      match c.slots.get? entry.slot with
      | none => ({ c with entries := c.entries.erase key }, some m)
      | some _ =>
        match fits entry.awaits m with
        | none => (c, some m)
        | some ends =>
          let entries :=
            if ends then c.entries.erase key
            else c.entries.insert key { entry with awaits := .completion }
          ({ c with entries, slots := pushInto c.slots entry.slot (.ok m) }, none)

/-- Ends the outstanding requests whose channel passes the test with a failure. -/
def failWhere (c : Correlator) (isFailing : String → Bool) (reason : Error) : Correlator :=
  let failing := c.entries.filterKeys fun key => isFailing key.1
  { c with
    entries := c.entries.filterKeys fun key => !isFailing key.1
    slots := failing.values.foldl
      (fun slots entry => pushInto slots entry.slot (.error (.closing reason))) c.slots }

/-- Ends every outstanding request on a channel with a failure. -/
def failChannel (c : Correlator) (channel : String) (reason : Error) : Correlator :=
  c.failWhere (fun key => key = Text.trim channel) reason

/-- Ends every outstanding request with a failure. -/
def failAll (c : Correlator) (reason : Error) : Correlator := c.failWhere (fun _ => true) reason

/-- How many requests are outstanding. -/
def pending (c : Correlator) : Nat := c.entries.size

/-- How many requests are outstanding on a channel. -/
def pendingOn (c : Correlator) (channel : String) : Nat :=
  (c.entries.filterKeys fun key => key.1 = Text.trim channel).size

end Correlator

end MediaControl
