import TerminalSignIn.Proofs.Service.Message
import TerminalSignIn.Proofs.Text.Utf8

/-!
# The verdict of a reply

The body of a reply is read chunk by chunk, and no further than the limit. What is read of it is told by the bytes that
arrive before the connection breaks, so the verdict is the same for every way to cut these bytes into chunks: within a
character, at the limit, or with empty chunks in between.
-/

namespace TerminalSignIn

namespace Utf8

theorem decodeLenient_encode (text : Text) : decodeLenient (encode text) = text := by
  unfold decodeLenient
  rw [read_encode, List.map_map]
  exact List.map_id text

end Utf8

namespace Reply

theorem cappedText_of_le {bytes : Bytes} (within : bytes.length ≤ bodyLimit) :
    cappedText bytes = Utf8.decodeLenient bytes := by
  unfold cappedText
  rw [if_neg (Nat.not_lt.mpr within)]

theorem cappedText_of_lt {bytes : Bytes} (exceeds : bodyLimit < bytes.length) :
    cappedText bytes = Utf8.decodeLenient (bytes.take bodyLimit) ++ truncationMark := by
  unfold cappedText
  rw [if_pos exceeds]

/-- What is beyond the limit does not matter, but that there is something does. -/
theorem cappedText_append {bytes : Bytes} (exceeds : bodyLimit < bytes.length) (more : Bytes) :
    cappedText (bytes ++ more) = cappedText bytes := by
  have longer : bodyLimit < (bytes ++ more).length := by
    rw [List.length_append]
    omega
  rw [cappedText_of_lt exceeds, cappedText_of_lt longer, List.take_append_of_le_length (Nat.le_of_lt exceeds)]

theorem readBody_eq {collected : Bytes} (within : collected.length ≤ bodyLimit) (chunks : List Chunk) :
    readBody collected chunks = cappedText (collected ++ arrived chunks) := by
  induction chunks generalizing collected with
  | nil => rw [arrived, List.append_nil, cappedText_of_le within, readBody]
  | cons chunk chunks ih =>
    cases chunk with
    | broken => rw [arrived, List.append_nil, cappedText_of_le within, readBody]
    | data bytes =>
      rw [readBody, arrived, ← List.append_assoc]
      by_cases exceeds : bodyLimit < (collected ++ bytes).length
      · rw [cappedText_append exceeds, cappedText_of_lt exceeds]
        exact if_pos exceeds
      · rw [← ih (Nat.not_lt.mp exceeds)]
        exact if_neg exceeds

theorem bodyText_eq (reply : Reply) : reply.bodyText = cappedText (arrived reply.chunks) :=
  readBody_eq (Nat.zero_le _) reply.chunks

/-- A body whose chunks are these pieces. It comes to its end, or breaks off in front of further chunks. -/
def chunksOf (pieces : List Bytes) (unread : Option (List Chunk)) : List Chunk :=
  pieces.map .data ++ unread.elim [] (.broken :: ·)

theorem arrived_chunksOf (pieces : List Bytes) (unread : Option (List Chunk)) :
    arrived (chunksOf pieces unread) = pieces.flatten := by
  unfold chunksOf
  induction pieces with
  | nil => cases unread <;> rfl
  | cons piece pieces ih => rw [List.map_cons, List.cons_append, arrived, ih, List.flatten_cons]

theorem statusMessage_visible (status : Status) : (statusMessage status).trim ≠ [] := by
  intro blank
  have first : 'S' ∈ statusMessage status := by
    unfold statusMessage
    simp
  exact absurd (Text.trim_eq_nil_iff.mp blank 'S' first) (by decide)

/-- What a rejection says is never blank, so the default message is not needed. -/
theorem spoken_visible (body : Text) (status : Status) :
    ((RejectionBody.message? body).getD (statusMessage status)).trim ≠ [] := by
  cases found : RejectionBody.message? body with
  | none => exact statusMessage_visible status
  | some message =>
    obtain ⟨filled, trimmed⟩ := RejectionBody.message?_eq_some found
    rw [Option.getD_some, trimmed]
    exact filled

end Reply

theorem Rejection.text_ofMessage {message : Text} (visible : message.trim ≠ []) :
    (ofMessage message).message.text = message := by
  simp [ofMessage, NonBlank.ofText?, visible]

namespace Reply

theorem answer_of_failure (reply : Reply) (failure : reply.status.isSuccess = false) :
    ∃ rejection, reply.answer = .rejected rejection ∧ rejection.message.text =
      (RejectionBody.message? (cappedText (arrived reply.chunks))).getD (statusMessage reply.status) := by
  refine ⟨_, if_neg (by simp [failure]), ?_⟩
  rw [bodyText_eq]
  exact Rejection.text_ofMessage (spoken_visible _ _)

theorem answer_eq_accepted_iff (reply : Reply) : reply.answer = .accepted ↔ reply.status.isSuccess = true := by
  cases success : reply.status.isSuccess with
  | true => exact ⟨fun _ => rfl, fun _ => if_pos success⟩
  | false =>
    obtain ⟨_, rejected, _⟩ := answer_of_failure reply success
    simp [rejected]

end Reply

/-- A reply accepts the attempt if and only if its status is one of success. Any other reply rejects it with a message
that hangs on the status and on the bytes that arrive in front of a break, whatever chunks they come in. These bytes
are read as lenient UTF-8, and no more than 32768 of them; when there are more, the text says so. The message is the
one of that text, or tells the status, and is never blank. A text that is sent whole is read as it was written. -/
theorem verdict_of_bytes (endpoint : Endpoint) (status : Status) (pieces : List Bytes) (unread : Option (List Chunk)) :
    let bytes := pieces.flatten
    let body : Text :=
      if bytes.length ≤ 32768 then Utf8.decodeLenient bytes
      else Utf8.decodeLenient (bytes.take 32768) ++ "...(truncated)".toList
    let message : Text := (RejectionBody.message? body).getD ("Sign in failed (".toList ++ status.toText ++ ")".toList)
    let answer := endpoint.answer (.reply ⟨status, Reply.chunksOf pieces unread⟩)
    (answer = .accepted ↔ 200 ≤ status.code ∧ status.code ≤ 299) ∧
    (¬ (200 ≤ status.code ∧ status.code ≤ 299) →
      ∃ rejection, answer = .rejected rejection ∧ rejection.message.text = message) ∧
    message.trim ≠ [] ∧
    ∀ text : Text, bytes = Utf8.encode text → bytes.length ≤ 32768 → body = text := by
  intro bytes body message answer
  have success : status.isSuccess = true ↔ 200 ≤ status.code ∧ status.code ≤ 299 := by
    unfold Status.isSuccess
    rw [Bool.and_eq_true, decide_eq_true_eq, decide_eq_true_eq]
    omega
  have read : Reply.cappedText (Reply.arrived (Reply.chunksOf pieces unread)) = body := by
    rw [Reply.arrived_chunksOf]
    by_cases within : bytes.length ≤ 32768
    · rw [Reply.cappedText_of_le within]
      exact (if_pos within).symm
    · rw [Reply.cappedText_of_lt (Nat.not_le.mp within)]
      exact (if_neg within).symm
  refine ⟨?_, ?_, Reply.spoken_visible body status, ?_⟩
  · rw [← success]
    exact Reply.answer_eq_accepted_iff ⟨status, Reply.chunksOf pieces unread⟩
  · intro failure
    rw [← success, Bool.not_eq_true] at failure
    have rejected := Reply.answer_of_failure ⟨status, Reply.chunksOf pieces unread⟩ failure
    dsimp only at rejected
    rw [read] at rejected
    exact rejected
  · intro text encoded within
    have whole : body = Utf8.decodeLenient bytes := if_pos within
    rw [whole, encoded, Utf8.decodeLenient_encode]

/-- A character that is cut between chunks is read whole, though the connection breaks behind it. -/
theorem verdict_of_bytes_across_chunks :
    let server : Authority := ⟨.none, .domain "console.local".toList, none⟩
    let endpoint : Endpoint := ⟨⟨"https".toList, some server, .segments [], none, none⟩⟩
    let pieces : List Bytes := [[0x20, 0x55, 0x6E, 0x67], [], [0xC3], [0xBC, 0x6C, 0x74, 0x69, 0x67]]
    let reply : Reply := ⟨⟨403⟩, Reply.chunksOf pieces (some [.data [0x21]])⟩
    pieces.flatten = Utf8.encode " Ungültig".toList ∧ pieces.flatten.length ≤ 32768 ∧
    ∃ rejection, endpoint.answer (.reply reply) = .rejected rejection ∧
      rejection.message.text = "Ungültig".toList := by
  intro server endpoint pieces reply
  have encoded : pieces.flatten = Utf8.encode " Ungültig".toList := by decide
  have within : pieces.flatten.length ≤ 32768 := by decide
  obtain ⟨_, rejects, _, whole⟩ := verdict_of_bytes endpoint ⟨403⟩ pieces (some [.data [0x21]])
  obtain ⟨rejection, rejected, said⟩ := rejects (by decide)
  rw [whole _ encoded within] at said
  exact ⟨encoded, within, rejection, rejected, said⟩

end TerminalSignIn
