import MediaControl.Proofs.Server.Refusals
import MediaControl.Proofs.Wire.RoundTrip
import MediaControl.Proofs.Wire.Taking

/-!
# Refusals cannot be split (SPEC_FULL §4.6)

What a server says of itself repeats texts that the other end has sent: the spelling of a header's
name, the text of a channel, whatever stands in them.  No line feed can stand in them, for it would
have ended the line in which they came, so the answer keeps its lines: it is read as the one answer
that it is, and what follows it on the wire is read as if it were not there.

Main statement: `refusal_unsplit`.
-/

set_option autoImplicit false

namespace MediaControl.Server

open MediaControl.Text MediaControl.Wire

variable {r : Request} {hs : Headers}

/-- The headers of an answer to a request that was read can go into lines. -/
theorem NamesAlike.wireSafe (h : NamesAlike r hs) (hfrom : (Message.request r).FromWire) :
    ∀ header ∈ hs, header.WireSafe := by
  rcases h with rfl | ⟨echoed, hmem, rfl⟩ | ⟨named, channel, hnamed, hkey, rfl⟩
  · simp
  · simpa using (hfrom.headers echoed hmem).1
  · -- the key of the channel stood in a line of the request
    have hplain : ∀ header ∈ r.headers, header.plain = header :=
      fun header hheader => (hfrom.headers header hheader).2
    have hfeed : '\n' ∉ channel.key.toList := by
      rw [hkey]
      rw [Headers.channelId_of_plain hplain] at hnamed
      split at hnamed
      · cases hnamed
      · rename_i line hget
        split at hnamed
        · rename_i found hfound
          obtain rfl := Except.ok.inj hnamed
          have hraw := (hfrom.headers line (Headers.mem_of_get? hget)).1.lineFeed_notMem_raw
          exact fun hc => hraw (ChannelId.mem_of_mem_key_of_parse hfound _ hc)
        · cases hnamed
    simpa using Headers.wireSafe_header hfeed

theorem NamesAlike.length_le (h : NamesAlike r hs) : hs.length ≤ 1 := by
  rcases h with rfl | ⟨echoed, -, rfl⟩ | ⟨named, channel, -, -, rfl⟩
  · exact Nat.zero_le _
  · exact Nat.le_refl _
  · exact Nat.le_refl _

/-- Whatever happened to a server before, and whatever bytes the other end sends: an answer of the
server itself to a request that comes out of them has the id of the request, one of the five statuses
of a refusal, one header at most and no body.  Whoever reads its bytes, under any limit that it keeps
to, reads that answer, with the same header line, and leaves what follows them on the wire untouched. -/
theorem refusal_unsplit (ops : List Op) {connection limit : Nat} {bytes : Bytes}
    {response : Response} (hread : Message.request r ∈ (drain limit false bytes).messages)
    (hrejected : ((History.run {} ops).server.receive connection (.request r)).2 =
      .rejected response) :
    (response.id = r.id ∧ response.status ∈ refusals ∧ response.state = .complete ∧
      response.headers.length ≤ 1 ∧ response.content = none) ∧
    ∀ reading ≤ Natural.max64, (Message.response response).encode.length ≤ reading →
      ∀ rest, decode reading ((Message.response response).encode ++ rest) =
        (.ok (some (.response { response with headers := response.headers.map Header.plain })),
          rest) := by
  have hfrom := fromWire_of_mem_drain _ hread
  obtain ⟨status, headers, rfl, hstatus, hnames⟩ := rejected_cases (keyed_run ops) hrejected
  have hsafe : (Message.response { id := r.id, status, state := .complete, headers }).WireSafe := by
    refine ⟨⟨code_le_of_mem_refusals status hstatus, hfrom.isBounded⟩, hnames.wireSafe hfrom,
      ?_, ?_, ?_⟩
    · intro c hc
      cases hc
    · intro c hc
      cases hc
    · intro c hc
      cases hc
  refine ⟨⟨rfl, hstatus, rfl, hnames.length_le, rfl⟩, ?_⟩
  intro reading hreading hfits rest
  have hgap : ∀ b ∈ ([] : Bytes), isLineEnd b = true := fun b hb => by cases hb
  have hdecode := decode_encode_append hsafe hgap (Nat.le_trans hfits hreading) reading rest
  rw [if_pos hfits] at hdecode
  exact hdecode

/-- The bytes of a request whose header for the channel names none, and has a carriage return and a
colon in its text. -/
def returningBytes : Bytes :=
  Utf8.encode "MRCP/2.0 1 STOP 7\nchannel-IDENTIFIER : x\rMRCP/2.0: y \n\n"

/-- The header that comes out of them. -/
def returning : Header := .ofText "channel-IDENTIFIER" "x\rMRCP/2.0: y"

/-- The carriage return is repeated in the answer, which is read as one answer with one header. -/
theorem refusal_unsplit_returning :
    (drain 100 false returningBytes).messages =
        [.request { method := .stop, id := 7, headers := [returning] }] ∧
      ((History.run {} opened).server.receive 0
          (.request { method := .stop, id := 7, headers := [returning] })).2 =
        .rejected { id := 7, status := ⟨404⟩, state := .complete, headers := [returning] } ∧
      ∀ rest, decode 100 ((Message.response
          { id := 7, status := ⟨404⟩, state := .complete, headers := [returning] }).encode ++ rest) =
        (.ok (some (.response
          { id := 7, status := ⟨404⟩, state := .complete, headers := [returning] })), rest) := by
  have htaken : takeFirst 100 false returningBytes =
      (.ok (some (.request { method := .stop, id := 7, headers := [returning] })), []) := by
    with_unfolding_all rfl
  have hread : (drain 100 false returningBytes).messages =
      [.request { method := .stop, id := 7, headers := [returning] }] := by
    rw [drain_of_message htaken, drain_of_waiting (show decode 100 [] = (.ok none, []) from rfl)]
    rfl
  have hrejected : ((History.run {} opened).server.receive 0
      (.request { method := .stop, id := 7, headers := [returning] })).2 =
        .rejected { id := 7, status := ⟨404⟩, state := .complete, headers := [returning] } := by
    with_unfolding_all rfl
  obtain ⟨-, hdecode⟩ := refusal_unsplit opened (hread ▸ List.mem_cons_self ..) hrejected
  exact ⟨hread, hrejected, hdecode 100 (by decide) (by decide +kernel)⟩

end MediaControl.Server
