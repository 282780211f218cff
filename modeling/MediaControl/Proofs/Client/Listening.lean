import MediaControl.Proofs.Client.Unsolicited

/-!
# Beginning to listen (SPEC_FULL §4.7)

Whoever begins to listen to a channel is told from then on of what comes, and what has been waiting is
taken and told item by item, up to the first failure.  Between these takes messages may come in, and the
channel may end.  What was waiting is told in its order or waits on in its order, except for the failure
that ends the taking, which is lost.

Main statements: `fst_splitValues_eq` (what is told of a line), `Sound.takes`, `Sound.delivers`,
`Sound.ends` and `Sound.run` (what every move keeps), `run_takes_start` (without interruption that is
`Session.listen`), and `listening_conserves`.
-/

set_option autoImplicit false

namespace MediaControl.Session

/-! ## The front of a line -/

/-- Values that stand in front of a line, up to a failure or the end, are those that are told. -/
theorem fst_splitValues_eq {line raised rest : List (Except Error Message)} {values : List Message}
    (h : line ++ raised = values.map .ok ++ rest) (hraised : ∀ m, .ok m ∉ raised)
    (hrest : ∀ m, rest.head? ≠ some (.ok m)) : values = (splitValues line).1 := by
  induction line generalizing values with
  | nil =>
      cases values with
      | nil => rfl
      | cons m values =>
          have hmem : .ok m ∈ raised := by
            rw [List.nil_append] at h
            rw [h]
            exact List.mem_cons_self ..
          exact absurd hmem (hraised m)
  | cons item line ih =>
      cases values with
      | nil =>
          cases item with
          | error e => rfl
          | ok m =>
              rw [List.map_nil, List.nil_append, List.cons_append] at h
              exact absurd (congrArg List.head? h).symm (hrest m)
      | cons m values =>
          obtain ⟨rfl, htail⟩ := List.cons.inj h
          exact congrArg (List.cons m) (ih htail)

/-- A message that comes in for a channel is told to its listener, if it answers no request. -/
theorem deliver_of_listener {s : Session} {number : Nat} {c : ClientChannel} {listener : String}
    (hc : s.channel? number = some c) (hlistener : c.listener? = some listener) (m : Message) :
    s.deliver number m = ({ s with correlator := (s.correlator.handle m).1 },
      (s.correlator.handle m).2.map fun left => ⟨listener, left⟩) := by
  have hfound : (({ s with correlator := (s.correlator.handle m).1 } : Session).channel? number).bind
      ClientChannel.listener? = some listener := by
    show (s.channel? number).bind _ = _
    rw [hc, Option.bind_some, hlistener]
  simp only [deliver]
  cases (s.correlator.handle m).2 with
  | none => rfl
  | some left =>
      simp only [notify, hfound]
      rfl

/-! ## Step by step -/

/-- What a listener is told: a message that has been waiting, or one as it comes in. -/
inductive Told where
  | waiting (m : Message)
  | arriving (m : Message)

namespace Told

/-- The message. -/
def message : Told → Message
  | waiting m => m
  | arriving m => m

/-- The message, if it has been waiting. -/
def waiting? : Told → Option Message
  | waiting m => some m
  | arriving _ => none

end Told

/-- A session in which somebody begins to listen to a channel. -/
structure Listening where
  session : Session
  /-- what the listener has been told, oldest first -/
  told : List Told := []
  /-- the failure that was taken from the line -/
  lost? : Option Error := none
  /-- nothing more will be taken from the line -/
  isDone : Bool := false

namespace Listening

/-- What happens next: an item is taken from the line, a message comes in for the channel, or nothing
comes for it any more. -/
inductive Move where
  | takes
  | delivers (m : Message)
  | ends (key : String) (reason : Error)

/-- The listener is there, and nothing has been taken yet. -/
def start (s : Session) (number : Nat) (listener : String) : Listening :=
  { session := s.modify number fun c => { c with listener? := some listener } }

/-- One move. -/
def step (number : Nat) (x : Listening) : Move → Listening
  | .takes =>
    if x.isDone then x
    else match x.session.takeEvent? number with
      | some (.ok m, session) => { x with session, told := x.told ++ [.waiting m] }
      | some (.error e, session) => { x with session, lost? := some e, isDone := true }
      | none => { x with isDone := true }
  | .delivers m =>
    let (session, heard) := x.session.deliver number m
    { x with session, told := x.told ++ heard.toList.map fun heard => .arriving heard.message }
  | .ends key reason => { x with session := x.session.endChannel number key reason }

/-- Moves, first to last. -/
def run (number : Nat) (x : Listening) (moves : List Move) : Listening := moves.foldl (step number) x

/-- The failure that joins the line. -/
def Move.failure? : Move → Option (Except Error Message)
  | .ends _ reason => some (.error (.closing reason))
  | _ => none

/-- The failures that join the line, oldest first. -/
def raised (moves : List Move) : List (Except Error Message) := moves.filterMap Move.failure?

/-- What had been waiting and was told. -/
def drained (x : Listening) : List Message := x.told.filterMap Told.waiting?

/-- The line, with the failures that joined it, is what was told of it, then what was lost, then what
waits on. -/
structure Sound (number : Nat) (listener : String) (line joined : List (Except Error Message))
    (x : Listening) : Prop where
  listens : ∃ c, x.session.channel? number = some c ∧ c.listener? = some listener
  conserved : line ++ joined = x.drained.map .ok ++ (x.lost?.toList.map .error ++
    x.session.waitingAt number)
  going : x.isDone = false → x.lost? = none
  done : x.isDone = true → x.drained = (splitValues line).1 ∧
    ((∃ e, .error e ∈ line) → x.lost?.isSome = true)

variable {number : Nat} {listener : String} {line joined : List (Except Error Message)}
  {x : Listening}

theorem sound_start {s : Session} {c : ClientChannel} (hc : s.channel? number = some c) :
    Sound number listener c.unsolicited.items (raised []) (start s number listener) := by
  have hstarted : (start s number listener).session.channel? number =
      some { c with listener? := some listener } := by
    rw [start, channel?_modify, if_pos rfl, hc]
    rfl
  refine ⟨⟨_, hstarted, rfl⟩, ?_, fun _ => rfl, ?_⟩
  · rw [waitingAt_of_channel? hstarted]
    exact List.append_nil _
  · intro hdone
    cases hdone

theorem listens_of_takeEvent {s s' : Session} {item : Except Error Message}
    (h : ∃ c, s.channel? number = some c ∧ c.listener? = some listener)
    (htaken : s.takeEvent? number = some (item, s')) :
    ∃ c, s'.channel? number = some c ∧ c.listener? = some listener := by
  obtain ⟨c, hc, hlistener⟩ := h
  obtain ⟨c', rest, hc', -, hleft⟩ := takeEvent?_eq_some htaken
  cases hc.symm.trans hc'
  exact ⟨_, hleft, hlistener⟩

theorem Sound.takes (hs : Sound number listener line joined x) (hjoined : ∀ m, .ok m ∉ joined) :
    Sound number listener line joined (x.step number .takes) := by
  rw [step]
  split
  · exact hs
  · rename_i hgoing
    have hlost := hs.going (Bool.eq_false_iff.mpr hgoing)
    have hconserved := hs.conserved
    rw [hlost] at hconserved
    split
    · rename_i m session htaken
      rw [waitingAt_of_takeEvent htaken] at hconserved
      refine ⟨listens_of_takeEvent hs.listens htaken, ?_, hs.going, fun hdone => absurd hdone hgoing⟩
      show line ++ joined = ((x.told ++ [Told.waiting m]).filterMap Told.waiting?).map .ok ++
        (x.lost?.toList.map .error ++ session.waitingAt number)
      rw [hconserved, List.filterMap_append, hlost, List.map_append, List.append_assoc]
      rfl
    · rename_i e session htaken
      rw [waitingAt_of_takeEvent htaken] at hconserved
      refine ⟨listens_of_takeEvent hs.listens htaken, hconserved, ?_, fun _ => ⟨?_, fun _ => rfl⟩⟩
      · intro hdone
        cases hdone
      · refine fst_splitValues_eq hconserved hjoined ?_
        intro m hhead
        cases hhead
    · rename_i hnone
      rw [takeEvent?_eq_none_iff.mp hnone] at hconserved
      refine ⟨hs.listens, hs.conserved, ?_, fun _ => ⟨?_, ?_⟩⟩
      · intro hdone
        cases hdone
      · refine fst_splitValues_eq hconserved hjoined ?_
        intro m hhead
        cases hhead
      · rintro ⟨e, hmem⟩
        have hvalue := List.mem_append_left joined hmem
        rw [hconserved] at hvalue
        simp at hvalue

theorem Sound.delivers (hs : Sound number listener line joined x) (m : Message) :
    Sound number listener line joined (x.step number (.delivers m)) := by
  obtain ⟨c, hc, hlistener⟩ := hs.listens
  have htold : (x.step number (.delivers m)).drained = x.drained := by
    simp only [step, drained, List.filterMap_append, deliver_of_listener hc hlistener]
    cases (x.session.correlator.handle m).2 with
    | none => exact List.append_nil _
    | some left => exact List.append_nil _
  have hsame : (x.step number (.delivers m)).session =
      { x.session with correlator := (x.session.correlator.handle m).1 } := by
    simp only [step, deliver_of_listener hc hlistener]
  refine ⟨⟨c, ?_, hlistener⟩, ?_, hs.going, ?_⟩
  · rw [hsame]
    exact hc
  · rw [htold, hsame]
    exact hs.conserved
  · rw [htold]
    exact hs.done

theorem Sound.ends (hs : Sound number listener line joined x) (key : String) (reason : Error) :
    Sound number listener line (joined ++ [.error (.closing reason)])
      (x.step number (.ends key reason)) := by
  obtain ⟨c, hc, hlistener⟩ := hs.listens
  have hended := channel?_endChannel hc key reason
  have hwaiting : (x.session.endChannel number key reason).waitingAt number =
      x.session.waitingAt number ++ [.error (.closing reason)] := by
    rw [waitingAt_of_channel? hended, waitingAt_of_channel? hc]
    rfl
  refine ⟨⟨_, hended, hlistener⟩, ?_, hs.going, hs.done⟩
  show _ = _ ++ (_ ++ (x.session.endChannel number key reason).waitingAt number)
  rw [hwaiting, ← List.append_assoc, hs.conserved, List.append_assoc, List.append_assoc]
  rfl

theorem ok_notMem_raised (moves : List Move) (m : Message) : .ok m ∉ raised moves := by
  intro hmem
  obtain ⟨move, -, hfailure⟩ := List.mem_filterMap.mp hmem
  cases move with
  | ends key reason => cases hfailure
  | takes => cases hfailure
  | delivers m => cases hfailure

/-- Whatever happens between the takes. -/
theorem Sound.run {before : List Move} (hs : Sound number listener line (raised before) x)
    (moves : List Move) :
    Sound number listener line (raised (before ++ moves)) (x.run number moves) := by
  induction moves generalizing x before with
  | nil =>
      rw [List.append_nil]
      exact hs
  | cons move moves ih =>
      have hstep : Sound number listener line (raised (before ++ [move]))
          (x.step number move) := by
        -- only the end of the channel puts anything in the line
        rw [raised, List.filterMap_append]
        cases move with
        | takes =>
            rw [show [Move.takes].filterMap Move.failure? = [] from rfl, List.append_nil]
            exact hs.takes (ok_notMem_raised before)
        | delivers m =>
            rw [show [Move.delivers m].filterMap Move.failure? = [] from rfl, List.append_nil]
            exact hs.delivers m
        | ends key reason => exact hs.ends key reason
      have hrest := ih hstep
      rw [List.append_assoc] at hrest
      exact hrest

/-! ## Who comes first -/

/-- While no message comes in, whatever is told has been waiting. -/
theorem told_of_no_delivery (htold : x.told = x.drained.map .waiting) {moves : List Move}
    (hmoves : ∀ m, .delivers m ∉ moves) :
    (x.run number moves).told = (x.run number moves).drained.map .waiting := by
  induction moves generalizing x with
  | nil => exact htold
  | cons move moves ih =>
      refine ih (x := x.step number move) ?_ fun m hmem => hmoves m (List.mem_cons_of_mem _ hmem)
      cases move with
      | delivers m => exact absurd (List.mem_cons_self ..) (hmoves m)
      | ends key reason => exact htold
      | takes =>
          rw [step]
          split
          · exact htold
          · split
            · rename_i m session _
              show x.told ++ [Told.waiting m] = ((x.told ++ [Told.waiting m]).filterMap _).map _
              rw [List.filterMap_append, List.map_append, ← drained, ← htold]
              rfl
            · exact htold
            · exact htold

/-- Once nothing more is taken from the line, whatever is told is told as it comes in. -/
theorem told_of_isDone (number : Nat) (hdone : x.isDone = true) (moves : List Move) :
    ∃ arrived : List Message, (x.run number moves).told = x.told ++ arrived.map .arriving := by
  induction moves generalizing x with
  | nil => exact ⟨[], (List.append_nil _).symm⟩
  | cons move moves ih =>
      cases move with
      | takes =>
          obtain ⟨arrived, hlater⟩ := ih hdone
          refine ⟨arrived, ?_⟩
          rw [run, List.foldl_cons, step, if_pos hdone]
          exact hlater
      | ends key reason => exact ih (x := x.step number (.ends key reason)) hdone
      | delivers m =>
          obtain ⟨arrived, hlater⟩ := ih (x := x.step number (.delivers m)) hdone
          refine ⟨(x.session.deliver number m).2.toList.map Heard.message ++ arrived, ?_⟩
          rw [List.map_append, ← List.append_assoc, List.map_map]
          exact hlater

/-! ## Without interruption -/

/-- A change of a channel comes down to what it makes of it. -/
theorem modify_congr {s : Session} {c : ClientChannel} {f g : ClientChannel → ClientChannel}
    (hc : s.channel? number = some c) (h : f c = g c) : s.modify number f = s.modify number g := by
  have hchannels : s.channels.modify number f = s.channels.modify number g := by
    refine List.ext_getElem? ?_
    intro other
    rw [List.getElem?_modify, List.getElem?_modify]
    by_cases hother : number = other
    · subst hother
      have hfound : s.channels[number]? = some c := hc
      simp only [hfound, if_true, Option.map_some, Option.map_eq_map, h]
    · simp only [hother, if_false]
  rw [modify, modify, hchannels]

theorem run_takes_of_isDone (hdone : x.isDone = true) (n : Nat) :
    x.run number (List.replicate n .takes) = x := by
  induction n with
  | zero => rfl
  | succ n ih =>
      rw [List.replicate_succ, run, List.foldl_cons, step, if_pos hdone]
      exact ih

/-- The session with the listener and this line at the channel. -/
def withLine (s : Session) (number : Nat) (listener : String) (line : List (Except Error Message)) :
    Session :=
  s.modify number fun c => { c with listener? := some listener, unsolicited := ⟨line⟩ }

theorem takeEvent?_withLine {s : Session} {c : ClientChannel} (hc : s.channel? number = some c) :
    (withLine s number listener line).takeEvent? number = match line with
      | [] => none
      | item :: rest => some (item, withLine s number listener rest) := by
  have hwaiting : (withLine s number listener line).waitingAt number = line := by
    have hline : (withLine s number listener line).channel? number =
        some { c with listener? := some listener, unsolicited := ⟨line⟩ } := by
      rw [withLine, channel?_modify, if_pos rfl, hc]
      rfl
    rw [waitingAt_of_channel? hline]
  rw [takeEvent?_eq, hwaiting]
  cases line with
  | nil => rfl
  | cons item rest =>
      simp only [withLine, modify, List.modify_modify_eq]
      rfl

/-- The takes go on up to the first failure. -/
theorem run_takes {s : Session} {c : ClientChannel} (hc : s.channel? number = some c)
    (hgoing : x.isDone = false) (hsession : x.session = withLine s number listener line) :
    (x.run number (List.replicate (line.length + 1) .takes)).session =
        withLine s number listener (splitValues line).2 ∧
      (x.run number (List.replicate (line.length + 1) .takes)).told =
        x.told ++ (splitValues line).1.map .waiting := by
  induction line generalizing x with
  | nil =>
      have hstep : x.step number .takes = { x with isDone := true } := by
        rw [step, hgoing, if_neg Bool.false_ne_true, hsession, takeEvent?_withLine hc]
      rw [List.length_nil, List.replicate_one, run, List.foldl_cons, hstep]
      exact ⟨hsession, (List.append_nil _).symm⟩
  | cons item line ih =>
      rw [List.replicate_succ, List.length_cons, run, List.foldl_cons]
      cases item with
      | ok m =>
          have hstep : x.step number .takes = { x with
              session := withLine s number listener line, told := x.told ++ [.waiting m] } := by
            rw [step, hgoing, if_neg Bool.false_ne_true, hsession, takeEvent?_withLine hc]
          obtain ⟨hlast, htold⟩ := ih (x := x.step number .takes) (by rw [hstep]; exact hgoing)
            (by rw [hstep])
          refine ⟨hlast, htold.trans ?_⟩
          rw [hstep, List.append_assoc]
          rfl
      | error e =>
          have hstep : x.step number .takes = { x with
              session := withLine s number listener line, lost? := some e, isDone := true } := by
            rw [step, hgoing, if_neg Bool.false_ne_true, hsession, takeEvent?_withLine hc]
          have hrest : (x.step number .takes).run number (List.replicate (line.length + 1) .takes) =
              x.step number .takes := run_takes_of_isDone (by rw [hstep]) _
          rw [run] at hrest
          rw [hrest, hstep]
          exact ⟨rfl, (List.append_nil _).symm⟩

/-- Without interruption all of it is `Session.listen`. -/
theorem run_takes_start {s : Session} {c : ClientChannel} (hc : s.channel? number = some c) :
    let x := (start s number listener).run number
      (List.replicate (c.unsolicited.items.length + 1) .takes)
    (x.session, x.told.map fun told => (⟨listener, told.message⟩ : Heard)) =
      s.listen number listener := by
  have hstart : (start s number listener).session =
      withLine s number listener c.unsolicited.items := modify_congr hc rfl
  obtain ⟨hlast, htold⟩ := run_takes hc (x := start s number listener) rfl hstart
  have hwaiting : ((s.channel? number).map fun c => c.unsolicited.items).getD [] =
      c.unsolicited.items := by
    rw [hc]
    rfl
  simp only [listen, hwaiting, hlast, htold]
  rw [start, List.nil_append, List.map_map]
  rfl

/-- When somebody begins to listen to a channel, whatever happens between the steps: the line, with the
failures that join it, is what the listener was told of it, in that order, then the failure that ended
the taking, and then what waits on when nobody listens any more.  Once the taking is over, the listener
was told the values up to the first failure, and if there was one, it is lost.  What comes in meanwhile
and answers no request is told at once; so what had been waiting is told first if nothing comes in before
the taking is over.  Without interruption all of it is `Session.listen`. -/
theorem listening_conserves (s : Session) {number : Nat} {c : ClientChannel}
    (hc : s.channel? number = some c) (listener : String) :
    let line := c.unsolicited.items
    let begun := start s number listener
    (∀ moves, let x := begun.run number moves
      line ++ raised moves = x.drained.map .ok ++ (x.lost?.toList.map .error ++
        (x.session.unlisten number).waitingAt number) ∧
      (x.isDone = true → x.drained = (splitValues line).1 ∧
        ((∃ e, .error e ∈ line) → x.lost?.isSome = true)) ∧
      ∀ m, (x.session.deliver number m).2 =
        (x.session.correlator.handle m).2.map fun left => ⟨listener, left⟩) ∧
    (∀ before later, (∀ m, .delivers m ∉ before) → (begun.run number before).isDone = true →
      ∃ arrived : List Message, (begun.run number (before ++ later)).told =
        (splitValues line).1.map .waiting ++ arrived.map .arriving) ∧
    let x := begun.run number (List.replicate (line.length + 1) .takes)
    (x.session, x.told.map fun told => (⟨listener, told.message⟩ : Heard)) =
      s.listen number listener := by
  intro line begun
  have hsound : ∀ moves, Sound number listener line (raised moves) (begun.run number moves) :=
    fun moves => (sound_start hc).run moves
  refine ⟨?_, ?_, run_takes_start hc⟩
  · intro moves x
    have hx : Sound number listener line (raised moves) x := hsound moves
    refine ⟨?_, hx.done, ?_⟩
    · have hunlisten : (x.session.unlisten number).waitingAt number = x.session.waitingAt number :=
        waitingAt_congr (x.session.eventsAt?_modify number
          (f := fun c => { c with listener? := none }) (fun _ => ⟨rfl, rfl⟩) number)
      rw [hunlisten]
      exact hx.conserved
    · intro m
      obtain ⟨c', hc', hlistener⟩ := hx.listens
      rw [deliver_of_listener hc' hlistener]
  · intro before later hbefore hdone
    obtain ⟨arrived, htold⟩ := told_of_isDone number hdone later
    refine ⟨arrived, ?_⟩
    have hfirst : (begun.run number before).told = (splitValues line).1.map .waiting := by
      rw [told_of_no_delivery rfl hbefore, ((hsound before).done hdone).1]
    rw [run, List.foldl_append, ← hfirst]
    exact htold

/-- The name of a channel. -/
def heardChannel : ChannelId := ⟨"h", .speechRecog, (by decide : ¬ Text.trim "h" = "")⟩

/-- An event that answers no request. -/
def heardEvent (id : Nat) : Message := .event (.new .startOfInput id .inProgress heardChannel)

/-- The failure that says that the channel is closed. -/
def heardFailure : Error := .closing (.ofCause (.channelIsClosed heardChannel))

/-- The channel, where a failure waits between two events. -/
def heardLine : ClientChannel :=
  { id := heardChannel, unsolicited := ⟨[.ok (heardEvent 1), .error heardFailure, .ok (heardEvent 2)]⟩ }

/-- A session with the channel. -/
def heardSession : Session :=
  { connection := { id := 0, peer := "server" }, channels := [heardLine] }

/-- The event before the failure is told, and one that comes in later; the other one waits on. -/
theorem listening_conserves_split :
    let x := (start heardSession 0 "l").run 0 [.takes, .takes, .delivers (heardEvent 3)]
    heardSession.channel? 0 = some heardLine ∧ x.isDone = true ∧ x.drained = [heardEvent 1] ∧
      x.lost?.isSome = true ∧ (x.session.unlisten 0).waitingAt 0 = [.ok (heardEvent 2)] := by
  intro x
  have hc : heardSession.channel? 0 = some heardLine := by rfl
  have hdone : x.isDone = true := by rfl
  obtain ⟨hmoves, -, -⟩ := listening_conserves heardSession hc "l"
  obtain ⟨-, htaken, -⟩ := hmoves [.takes, .takes, .delivers (heardEvent 3)]
  obtain ⟨hdrained, hlost⟩ := htaken hdone
  refine ⟨hc, hdone, hdrained, hlost ⟨heardFailure, ?_⟩, by rfl⟩
  exact List.mem_cons_of_mem _ (List.mem_cons_self ..)

/-- The failure that a closed channel holds is had by whoever asks, but not once somebody has listened
in between; an event behind a failure is not told; and one that comes in before the first take is told
before one that had been waiting. -/
theorem listening_loses_closing :
    let s := (History.run { session := { connection := { id := 0, peer := "server" } } }
      [.openChannel heardChannel, .closeChannel 0]).session
    (s.takeEvent? 0).map Prod.fst = some (.error heardFailure) ∧
      ((s.listen 0 "l").1.unlisten 0).takeEvent? 0 = none ∧ (s.listen 0 "l").2 = [] ∧
    (heardSession.listen 0 "l").2 = [⟨"l", heardEvent 1⟩] ∧
    ((start heardSession 0 "l").run 0 [.delivers (heardEvent 3), .takes, .takes]).told =
      [.arriving (heardEvent 3), .waiting (heardEvent 1)] := by
  refine ⟨by rfl, by rfl, by rfl, by rfl, by rfl⟩

end Listening

end MediaControl.Session
