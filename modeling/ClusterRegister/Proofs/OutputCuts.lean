import ClusterRegister.Proofs.Dialogues

/-!
# Cuts of the output

What a command comes to where its output is cut off. The command has then left the contents that it leaves on a
sink without limits, since it commits its change before it writes; it has written a beginning of its output, and it
fails only where bytes are missing.

The main statement is `outcome_of_cut_output`.
-/

namespace ClusterRegister.Console

open ClusterRegister.Line ClusterRegister.Register

/-- A reply ends with a flow, unless the numbers that order the clusters are used up. No reply fails on its own for a
reason that a sink has. -/
def Reply.Ends (r : Reply) : Prop := (∃ flow, r.result = .ok flow) ∨ r.result = .error .orderExhausted

private theorem additionReply_ends (t : Tables) (a : Addition) : (additionReply t a).Ends := by
  rcases result_additionReply t a with exhausted | goes_on
  · exact .inr exhausted
  · exact .inl ⟨_, goes_on⟩

private theorem requestReply_ends (env : Surroundings) (t : Tables) (request : Request) :
    (requestReply env t request).Ends := by
  rw [requestReply]
  cases addition? env request with
  | some a => exact additionReply_ends t a
  | none => exact .inl ⟨_, rfl⟩

private theorem reply_ends (env : Surroundings) (t : Tables) (p : Parsed) : (reply env t p).Ends := by
  rcases result_reply env t p with exhausted | flows
  · exact .inr exhausted
  · exact .inl ⟨_, flows⟩

theorem Reply.Ends.not_stream {r : Reply} (ends : r.Ends) (failure : StreamFailure) :
    r.result ≠ .error (.stream failure) := by
  intro failed
  rcases ends with ⟨flow, flows⟩ | exhausted
  · rw [flows] at failed
    cases failed
  · rw [exhausted] at failed
    cases failed

/-- The outcome `cut` of an action on a sink with room for `n` bytes, against its outcome `whole` on a sink without
limits. -/
structure CutAfter (n : Nat) (cut whole : Except Halt Flow × Desk) : Prop where
  tables : cut.2.tables = whole.2.tables
  written : cut.2.sink.written.toList = whole.2.sink.written.toList.take n
  fails : (∃ failure, cut.1 = .error (.stream failure)) ↔ n < whole.2.sink.written.toList.length
  fits : whole.2.sink.written.toList.length ≤ n → cut.1 = whole.1
  ends : (∃ flow, whole.1 = .ok flow) ∨ whole.1 = .error .orderExhausted

theorem Replies.cutAfter {act : Shell Flow} {t : Tables} {r : Reply} (replies : Replies act t r) (ends : r.Ends)
    (n : Nat) : CutAfter n (act.on ⟨t, .limited (some n) true⟩) (act.on ⟨t, .unlimited⟩) := by
  have cut := Does.on_limited replies n
  rw [reached_events, writtenBy_events] at cut
  rw [cut, replies.on_unlimited]
  constructor
  case tables => rfl
  case written => rfl
  case fails =>
    constructor
    · rintro ⟨failure, failed⟩
      rcases Nat.lt_or_ge n (Utf8.bytes (linesText r.lines)).length with short | enough
      · exact short
      · rw [if_pos enough] at failed
        exact absurd failed (ends.not_stream failure)
    · intro short
      exact ⟨.pipeClosed, if_neg (Nat.not_le_of_lt short)⟩
  case fits => exact fun enough => if_pos enough
  case ends => exact ends

/-- Where the output of a parsed line or of a checked command is cut off after `n` bytes, the contents are those that
the command leaves when it writes all of it, the bytes written are the first `n` of these, the command fails exactly
if there are more, and it ends the same way if there are not. -/
theorem outcome_of_cut_output (env : Surroundings) (t : Tables) (n : Nat) :
    (∀ p : Parsed,
        CutAfter n ((execute env p).on ⟨t, .limited (some n) true⟩) ((execute env p).on ⟨t, .unlimited⟩)) ∧
      ∀ request : Request,
        CutAfter n ((run env request).on ⟨t, .limited (some n) true⟩) ((run env request).on ⟨t, .unlimited⟩) := by
  constructor
  · intro p
    exact (execute_replies env t p).cutAfter (reply_ends env t p) n
  · intro request
    exact (run_replies env t request).cutAfter (requestReply_ends env t request) n

end ClusterRegister.Console
