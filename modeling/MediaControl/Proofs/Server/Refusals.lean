import MediaControl.Proofs.Connection.Writing
import MediaControl.Proofs.Server.Cases
import MediaControl.Proofs.Wire.Size

/-!
# Requests that a server refuses (SPEC_FULL §4.3)

A server answers a request that it refuses with the id of the request and the name of the channel,
which is the one that the request named or one with the same key.  So the answer is not much longer
than the request was; where the limit leaves room for the difference the connection writes it and
stays open, and no channel is closed.  Where the limit is as narrow as the request, the answer can be
beyond it.

Main statements: `otherLength_rejected_le` (how long an answer gets) and `rejection_keeps_open`.
-/

set_option autoImplicit false

namespace MediaControl.Server

open MediaControl.Text MediaControl.Wire

/-! ## Open channels -/

/-- Every channel is open under its own key. -/
def Keyed (s : Server) : Prop := ∀ key c, Table.get? s.channels key = some c → c.id.key = key

theorem ChannelsAgree.keyed {s : Server} {d : Docket} (ha : ChannelsAgree s d) : s.Keyed := by
  intro key c hget
  have hkey := ha key
  rw [hget] at hkey
  generalize d.opening? key = o? at hkey
  cases hkey with
  | some hsome => exact hsome.key

theorem keyed_run (ops : List Op) : (History.run {} ops).server.Keyed :=
  (mirrors_start.run ops).channels.keyed

variable {s : Server} {connection : Nat} {r : Request} {response : Response}

/-- The channel that a message is handed to has the key that the message names. -/
theorem key_of_route (hkeyed : s.Keyed) {m : Message} {c : ServerChannel}
    (h : ChannelTable.route s.channels m = .ok c) :
    ∃ named, m.channelId = .ok named ∧ c.id.key = named.key ∧
      Table.get? s.channels named.key = some c := by
  unfold ChannelTable.route at h
  split at h
  · split at h <;> cases h
  · rename_i named hnamed
    split at h
    · rename_i found hfound
      obtain rfl := Except.ok.inj h
      rw [ChannelTable.lookup, ChannelId.trim_key] at hfound
      exact ⟨named, hnamed, hkeyed _ _ hfound, hfound⟩
    · cases h

/-- A channel that nobody has opened is the one that the message names. -/
theorem channelId_of_route_unknown {m : Message} {named : ChannelId}
    (h : ChannelTable.route s.channels m = .error (.unknown named)) : m.channelId = .ok named := by
  unfold ChannelTable.route at h
  split at h
  · split at h <;> cases h
  · rename_i found hfound
    split at h
    · cases h
    · obtain rfl := Unrouted.unknown.inj (Except.error.inj h)
      exact hfound

/-- A message that comes in closes no channel, and opens none. -/
theorem isOpen_receive (hkeyed : s.Keyed) (connection : Nat) (m : Message) (id : String) :
    (s.receive connection m).1.isOpen id = s.isOpen id := by
  unfold receive
  cases hroute : ChannelTable.route s.channels m with
  | error reason => rfl
  | ok c =>
      obtain ⟨named, -, hkey, hget⟩ := key_of_route hkeyed hroute
      have hid : (c.receive connection m).1.id = c.id := by
        unfold ServerChannel.receive
        split
        · split <;> rfl
        · rfl
      simp only [isOpen, ChannelTable.lookup, ChannelTable.register, hid]
      rw [Table.get?_insert]
      split
      · rename_i hsame
        rw [hsame, hkey, hget]
        rfl
      · rfl

/-! ## What an answer is made of -/

/-- The channel that an answer names, in its header: as the request did, or as a channel with the key
that the request named; or none, if the request named none. -/
def NamesAlike (r : Request) (hs : Headers) : Prop :=
  hs = [] ∨ (∃ h ∈ r.headers, hs = [h]) ∨
    ∃ named channel : ChannelId, Headers.channelId r.headers = .ok named ∧
      channel.key = named.key ∧ hs = [channel.header]

/-- The statuses with which a server refuses by itself. -/
def refusals : List Status :=
  [.methodNotAllowed, .illegalHeaderValue, .resourceNotAllocated, .mandatoryHeaderMissing,
    .nonMonotonicSequence]

theorem code_le_of_mem_refusals : ∀ status ∈ refusals, status.code ≤ 999 := by
  decide

/-- A channel refuses a request under its own name. -/
theorem rejected_of_channel {c : ServerChannel}
    (h : (c.receive connection (.request r)).2 = .rejected response) :
    ∃ status ∈ refusals, response = .new r.id status .complete c.id := by
  rw [ServerChannel.receive] at h
  split at h
  · simp only [ServerChannel.judge] at h
    split at h
    · split at h
      · cases h
      · exact ⟨.methodNotAllowed, by decide, (Verdict.rejected.inj h).symm⟩
    · exact ⟨.resourceNotAllocated, by decide, (Verdict.rejected.inj h).symm⟩
  · exact ⟨.nonMonotonicSequence, by decide, (Verdict.rejected.inj h).symm⟩

/-- A server refuses a request under its id, with a status, the name of a channel or none, and no
body. -/
theorem rejected_cases (hkeyed : s.Keyed)
    (h : (s.receive connection (.request r)).2 = .rejected response) :
    ∃ status headers, response = { id := r.id, status, state := .complete, headers } ∧
      status ∈ refusals ∧ NamesAlike r headers := by
  unfold receive at h
  split at h
  · rename_i reason hroute
    obtain rfl := Verdict.rejected.inj h
    cases reason with
    | missing => exact ⟨_, _, rfl, by decide, Or.inl rfl⟩
    | invalid reason =>
        refine ⟨_, _, rfl, by decide, ?_⟩
        cases hget : Headers.get? r.headers Catalogue.channelIdentifier with
        | none => exact Or.inl rfl
        | some header => exact Or.inr (Or.inl ⟨header, Headers.mem_of_get? hget, rfl⟩)
    | unknown named =>
        refine ⟨_, _, rfl, by decide, Or.inr (Or.inr ⟨named, named, ?_, rfl, rfl⟩)⟩
        exact channelId_of_route_unknown hroute
  · rename_i c hroute
    obtain ⟨named, hnamed, hkey, -⟩ := key_of_route hkeyed hroute
    obtain ⟨status, hstatus, hresponse⟩ := rejected_of_channel h
    refine ⟨status, _, hresponse, hstatus, Or.inr (Or.inr ⟨named, c.id, hnamed, hkey, rfl⟩)⟩

/-! ## How long an answer gets -/

/-- The line that names a channel has room in a request that names a channel with the same key, but for
the longer form that its type of resource may have. -/
theorem size_header_le {named channel : ChannelId} {hs : Headers} (hplain : ∀ h ∈ hs, h.plain = h)
    (hnamed : Headers.channelId hs = .ok named) (hkey : channel.key = named.key) :
    size channel.header.line.toList + 1 ≤ Head.room hs + 3 := by
  rw [Headers.channelId_of_plain hplain] at hnamed
  split at hnamed
  · cases hnamed
  · rename_i h hget
    split at hnamed
    · rename_i found hfound
      obtain rfl := Except.ok.inj hnamed
      have hraw := ChannelId.size_wire_le_of_parse hfound
      have hname := h.size_name_le (by decide) (Headers.hasName_of_get? hget)
      have hroom := Head.size_line_le_room (Headers.mem_of_get? hget)
      have hlong := (ChannelId.size_resource_bounds channel.resource).2
      have hshort := (ChannelId.size_resource_bounds found.resource).1
      rw [ChannelId.size_wire, ← hkey] at hraw
      rw [Header.size_line] at hroom ⊢
      have hwire : size channel.header.raw.toList = _ := channel.size_wire
      have hheader : size channel.header.name.toList = size Catalogue.channelIdentifier.toList := rfl
      omega
    · cases hnamed

/-- The headers of an answer have room in those of the request, but for four bytes. -/
theorem NamesAlike.room_le {hs : Headers} (h : NamesAlike r hs)
    (hplain : ∀ h ∈ r.headers, h.plain = h) :
    Head.room hs + hs.length ≤ Head.room r.headers + 4 := by
  rcases h with rfl | ⟨header, hmem, rfl⟩ | ⟨named, channel, hnamed, hkey, rfl⟩
  · exact Nat.zero_le _
  · have hroom := Head.size_line_le_room hmem
    simp only [Head.room_cons, Head.room_nil, List.length_singleton]
    omega
  · have hroom := size_header_le hplain hnamed hkey
    simp only [Head.room_cons, Head.room_nil, List.length_singleton]
    omega

/-- Beside the digits of its length, the answer of the server itself has thirteen bytes at most more
than the request has in its shortest spelling. -/
theorem otherLength_rejected_le (hkeyed : s.Keyed) (hfrom : (Message.request r).FromWire)
    (h : (s.receive connection (.request r)).2 = .rejected response) :
    (Message.response response).otherLength ≤ (Message.request r).leastLength + 13 := by
  obtain ⟨status, headers, rfl, hstatus, hnames⟩ := rejected_cases hkeyed h
  have hroom := hnames.room_le fun header hheader => (hfrom.headers header hheader).2
  have hmethod : 4 ≤ size r.method.wire.toList := by
    cases r.method <;> decide
  have hcomplete : size RequestState.complete.wire.toList = 8 := by decide
  have hspace : size " ".toList = 1 := by decide
  -- nine bytes for a status and a state in the place of the shortest method, and four for the headers
  simp only [Message.otherLength_eq, Message.leastLength, Message.lineHeaders, Message.start,
    StartLine.tail, Message.headers, Message.content, Message.bodyHeaders, Message.contentRoom,
    bodyBytes, size_toList_append, StartLine.size_text,
    StartLine.size_status (code_le_of_mem_refusals status hstatus), hcomplete,
    hspace, List.append_nil, List.length_nil]
  omega

/-! ## What becomes of an answer -/

/-- Whatever happened to a server before: where the limit of an open connection has room for thirteen
bytes and for its own digits beside those that a request came in, the server's own answer to the
request keeps to the limit.  It is written behind what is queued, and the connection and every channel
stay open. -/
theorem rejection_keeps_open (ops : List Op) {c : Connection} (hclosed : c.closed = false)
    (hwriting : c.writing = true) (hfits : ∀ m ∈ c.outbound, c.Fits m) {ended : Bool}
    {buffer rest : Bytes}
    (htaken : takeFirst c.limit ended buffer = (.ok (some (.request r)), rest))
    (hroom : (buffer.dropWhile isLineEnd).length + 13 + digitCount c.limit ≤ c.limit + rest.length)
    (hrejected : ((History.run {} ops).server.receive c.id (.request r)).2 = .rejected response) :
    c.Fits (.response response) ∧
      (∃ queued, c.send (.response response) = .ok queued ∧
        queued.write =
          (c.outbound.flatMap Message.encode ++ (Message.response response).encode,
            { c with outbound := [] })) ∧
      ∀ id, ((History.run {} ops).server.receive c.id (.request r)).1.isOpen id =
        (History.run {} ops).server.isOpen id := by
  have hkeyed := keyed_run ops
  obtain ⟨hfrom, hleast⟩ := accepted_of_decode (decode_of_takeFirst htaken)
  have hother := otherLength_rejected_le hkeyed hfrom hrejected
  have hfit : c.Fits (.response response) := by
    apply Message.length_encode_le
    omega
  refine ⟨hfit, ?_, isOpen_receive hkeyed c.id (.request r)⟩
  have hqueue : ∀ m ∈ c.outbound ++ [.response response], c.Fits m := by
    intro m hm
    rcases List.mem_append.mp hm with hqueued | hlast
    · exact hfits m hqueued
    · rw [List.mem_singleton.mp hlast]
      exact hfit
  have hwrite := Connection.write_of_fits
    (c := { c with outbound := c.outbound ++ [.response response] }) hclosed hwriting hqueue
  rw [List.flatMap_append, List.flatMap_singleton] at hwrite
  exact ⟨_, Connection.send_of_open hclosed (.response response), hwrite⟩

/-- A synthesizer. -/
def synthesizer : ChannelId := ⟨"a", .speechSynth, by decide⟩

/-- The synthesizer is opened. -/
def opened : List Op := [.openChannel synthesizer { resource := .speechSynth }]

/-- A request that names a channel. -/
def asking (name : String) : Request :=
  { method := .stop, id := 1, headers := [.ofText Catalogue.channelIdentifier name] }

/-- The request in its shortest spelling. -/
def askingBytes (name : String) : Bytes :=
  Utf8.encode ("MRCP/2.0 1 STOP 1\nChannel-Identifier:" ++ name ++ "\n\n")

/-- The answer to a request that names the channel with the wrong type, or a channel that is not
open. -/
def answering (channel : ChannelId) : Response := .new 1 .resourceNotAllocated .complete channel

/-- A connection with a narrow limit. -/
def narrow (limit : Nat) : Connection := { id := 0, peer := "peer", limit }

/-- A limit of 64 bytes has just the room where a request of 49 bytes names the synthesizer as a
recorder: the answer has all of the thirteen bytes more, and the digits of its length. -/
theorem rejection_keeps_open_narrow :
    takeFirst 64 false (askingBytes "a@recorder") =
        (.ok (some (.request (asking "a@recorder"))), []) ∧
      ((History.run {} opened).server.receive 0 (.request (asking "a@recorder"))).2 =
        .rejected (answering synthesizer) ∧
      (askingBytes "a@recorder").length = 49 ∧
      (Message.response (answering synthesizer)).encode.length = 64 ∧
      ∃ queued, (narrow 64).send (.response (answering synthesizer)) = .ok queued ∧
        queued.write = ((Message.response (answering synthesizer)).encode, narrow 64) := by
  have htaken : takeFirst 64 false (askingBytes "a@recorder") =
      (.ok (some (.request (asking "a@recorder"))), []) := by
    with_unfolding_all rfl
  have hrejected : ((History.run {} opened).server.receive 0 (.request (asking "a@recorder"))).2 =
      .rejected (answering synthesizer) := by
    with_unfolding_all rfl
  obtain ⟨-, hwritten, -⟩ := rejection_keeps_open opened (c := narrow 64) rfl rfl
    (fun m hm => by cases hm) htaken (by decide +kernel) hrejected
  exact ⟨htaken, hrejected, by decide +kernel, by decide +kernel, hwritten⟩

/-- Under a limit of 60 bytes a request of 49 bytes is taken that names a channel which is not open.
The answer to it has 61 bytes, so nothing is written and the connection closes. -/
theorem rejection_closes_narrower :
    takeFirst 60 false (askingBytes "b@recorder") =
        (.ok (some (.request (asking "b@recorder"))), []) ∧
      ((History.run {} opened).server.receive 0 (.request (asking "b@recorder"))).2 =
        .rejected (answering ⟨"b", .recorder, by decide⟩) ∧
      ∃ queued, (narrow 60).send (.response (answering ⟨"b", .recorder, by decide⟩)) = .ok queued ∧
        queued.write = ([], { narrow 60 with closed := true, writing := false }) := by
  refine ⟨?_, ?_, _, rfl, ?_⟩
  · with_unfolding_all rfl
  · with_unfolding_all rfl
  · with_unfolding_all rfl

end MediaControl.Server
