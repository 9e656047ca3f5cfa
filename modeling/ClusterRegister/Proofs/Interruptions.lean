import ClusterRegister.Proofs.Dialogues

/-!
# Interruptions

What is left of a session whose sink or whose input fails. It has executed the lines that it came to prompt for,
each with all of its changes, and no other line; what was written is a beginning of what it would have written.
-/

namespace ClusterRegister.Console

open ClusterRegister.Line ClusterRegister.Register

section Interruptions

variable (env : Nat → Surroundings) (prompt : String)

/-- What a session writes up to and including the prompt for a line of it, counted from 0. -/
def upToPrompt (t : Tables) (lines : List String) (i : Nat) : Bytes :=
  Utf8.bytes (linesText banner) ++ dialogue env prompt t (lines.take i) ++ Utf8.bytes prompt

/-- The lines that a session with room for `n` bytes has executed: those whose prompts still fit. -/
def ExecutedWithin (n : Nat) (t : Tables) (lines : List String) (tables : Tables) : Prop :=
  ∃ m ≤ lines.length, (∀ i < lines.length, i < m ↔ (upToPrompt env prompt t lines i).length ≤ n) ∧
    tables = afterShots env t (lines.take m)

/-- The outcome of a session on a sink with room for `n` bytes, which would write `whole`. -/
structure CutShort (n : Nat) (t : Tables) (lines : List String) (whole : Bytes)
    (outcome : Except Halt Unit × Desk) : Prop where
  written : outcome.2.sink.written.toList = whole.take n
  result : outcome.1 = if n < whole.length then .error (.stream .pipeClosed) else .ok ()
  executed : ExecutedWithin env prompt n t lines outcome.2.tables

/-- The outcome of a session on a sink that cannot be flushed. -/
structure Unflushed (t : Tables) (outcome : Except Halt Unit × Desk) : Prop where
  written : outcome.2.sink.written.toList = Utf8.bytes (linesText banner) ++ Utf8.bytes prompt
  result : outcome.1 = .error (.stream .flushFailed)
  untouched : outcome.2.tables = t

/-- The outcome of a session on an input that breaks off after some lines. -/
structure BrokenOff (t : Tables) (lines : List String) (outcome : Except Halt Unit × Desk) : Prop where
  written : outcome.2.sink.written.toList =
    Utf8.bytes (linesText banner) ++ dialogue env prompt t lines ++
      Utf8.bytes (if lines.any leaves then "  bye\n" else prompt)
  result : outcome.1 = if lines.any leaves then .ok () else .error (.stream .readFailed)
  executed : outcome.2.tables = afterShots env t lines

variable {env prompt}

variable (env prompt) in
/-- While lines are prompted for and answered, those are executed whose prompts fit. -/
theorem reached_talk (n : Nat) (t : Tables) (lines : List String) :
    ∃ m ≤ lines.length,
      (∀ i < lines.length, i < m ↔ (dialogue env prompt t (lines.take i) ++ Utf8.bytes prompt).length ≤ n) ∧
        reached n t (talk prompt env t lines) = afterShots env t (lines.take m) := by
  induction lines generalizing env n t with
  | nil => exact ⟨0, Nat.le_refl 0, fun i inside => absurd inside (Nat.not_lt_zero i), rfl⟩
  | cons line lines ih =>
    have ask_length : (writtenBy (askEvents prompt)).length = (Utf8.bytes prompt).length := by
      rw [writtenBy_askEvents]
    rw [talk, reached_append, ask_length, still_askEvents.contentsAfter, still_askEvents.reached]
    have shown (i : Nat) : (dialogue env prompt t ((line :: lines).take (i + 1)) ++ Utf8.bytes prompt).length =
        (Utf8.bytes prompt).length + (writtenBy (lineReply (env 0) t line).events).length +
          (dialogue (afterFirst env) prompt (lineReply (env 0) t line).tables (lines.take i) ++
            Utf8.bytes prompt).length := by
      rw [List.take_succ_cons, dialogue, written_shot, tables_shot, writtenBy_events]
      simp only [List.length_append]
      omega
    -- The room is used up by the prompt, by the answer, or later; the answer changes the contents before it writes.
    by_cases prompted : (Utf8.bytes prompt).length ≤ n
    · rw [if_pos prompted, reached_append, reached_events, contentsAfter_events]
      by_cases told : (writtenBy (lineReply (env 0) t line).events).length ≤ n - (Utf8.bytes prompt).length
      · obtain ⟨m, within, fit, tables⟩ := ih (afterFirst env) (n - (Utf8.bytes prompt).length -
          (writtenBy (lineReply (env 0) t line).events).length) (lineReply (env 0) t line).tables
        rw [if_pos told, tables]
        refine ⟨m + 1, Nat.succ_le_succ within, ?_, ?_⟩
        · intro i inside
          cases i with
          | zero => exact ⟨fun _ => prompted, fun _ => Nat.succ_pos m⟩
          | succ i =>
            have fit_here := fit i (Nat.lt_of_succ_lt_succ inside)
            rw [shown]
            omega
        · rw [List.take_succ_cons, afterShots, tables_shot]
      · rw [if_neg told]
        refine ⟨1, Nat.succ_le_succ (Nat.zero_le _), ?_, ?_⟩
        · intro i inside
          cases i with
          | zero => exact ⟨fun _ => prompted, fun _ => Nat.one_pos⟩
          | succ i =>
            rw [shown]
            omega
        · exact (tables_shot t line).symm
    · rw [if_neg prompted]
      refine ⟨0, Nat.zero_le _, ?_, rfl⟩
      intro i inside
      rw [List.length_append]
      omega

private theorem reached_session (n : Nat) (finish : InputEnd) (t : Tables) (lines : List String) :
    ExecutedWithin env prompt n t lines (reached n t (sessionEvents env prompt finish t lines)) := by
  have greeted : (writtenBy (lineEvents banner)).length = (Utf8.bytes (linesText banner)).length := by
    rw [writtenBy_lineEvents]
  have length (i : Nat) : (upToPrompt env prompt t lines i).length = (Utf8.bytes (linesText banner)).length +
      (dialogue env prompt t (lines.take i) ++ Utf8.bytes prompt).length := by
    rw [upToPrompt, List.append_assoc, List.length_append]
  rw [sessionEvents, reached_append, reached_append_still (still_flushAfter _), reached_append_still (still_parting _ _),
    (still_lineEvents banner).contentsAfter, (still_lineEvents banner).reached, greeted]
  by_cases greets : (Utf8.bytes (linesText banner)).length ≤ n
  · obtain ⟨m, within, fit, tables⟩ := reached_talk env prompt
      (n - (Utf8.bytes (linesText banner)).length) t lines
    rw [if_pos greets]
    refine ⟨m, within, ?_, tables⟩
    intro i inside
    have fit_here := fit i inside
    rw [length]
    omega
  · rw [if_neg greets]
    refine ⟨0, Nat.zero_le _, ?_, rfl⟩
    intro i inside
    rw [length]
    omega

private theorem cutShort (n : Nat) (t : Tables) {bs : Bytes} {lines : List String}
    (read : upToLeave ((Input.lines ⟨bs, .closed⟩).map lineText) = lines) (suffice : NumbersSuffice env t lines) :
    CutShort env prompt n t lines (transcript env prompt .closed t lines)
      ((interactive env prompt ⟨bs, .closed⟩).on ⟨t, .limited (some n) true⟩) := by
  have outcome := (interactive_does prompt t read suffice).on_limited n
  rw [writtenBy_sessionEvents] at outcome
  rw [outcome]
  constructor
  case written => rfl
  case executed => exact reached_session n .closed t lines
  case result =>
    have good : ending .closed (lines.any leaves) = .ok () := by
      cases lines.any leaves with
      | true => rfl
      | false => rfl
    rw [good]
    by_cases fits : (transcript env prompt .closed t lines).length ≤ n
    · rw [if_pos fits, if_neg (by omega)]
    · rw [if_neg fits, if_pos (by omega)]

/-- What every session does before it is flushed first. -/
def opening (prompt : String) : List Event := lineEvents banner ++ [.write (Utf8.bytes prompt)]

variable (env prompt) in
private theorem sessionEvents_opening (finish : InputEnd) (t : Tables) (lines : List String) :
    ∃ rest, sessionEvents env prompt finish t lines = opening prompt ++ .flush :: rest := by
  cases lines with
  | nil =>
    cases finish with
    | closed => exact ⟨_, rfl⟩
    | broken => exact ⟨_, rfl⟩
  | cons line lines => exact ⟨_, rfl⟩

private theorem writtenBy_opening :
    writtenBy (opening prompt) = Utf8.bytes (linesText banner) ++ Utf8.bytes prompt := by
  rw [opening, writtenBy_append, writtenBy_lineEvents]
  exact congrArg _ (List.append_nil _)

private theorem still_opening : Still (opening prompt) := by
  apply (still_lineEvents banner).append
  intro t member
  simp at member

private theorem flush_not_mem_opening : .flush ∉ opening prompt := by
  intro member
  rcases List.mem_append.1 member with greeting | asking
  · obtain ⟨line, _, same⟩ := List.mem_map.1 greeting
    cases same
  · simp at asking

theorem unflushed (t : Tables) {input : Input} {lines : List String}
    (read : upToLeave (input.lines.map lineText) = lines) (suffice : NumbersSuffice env t lines) {room : Option Nat}
    (enough : ∀ n, room = some n → (upToPrompt env prompt t lines 0).length ≤ n) :
    Unflushed prompt t ((interactive env prompt input).on ⟨t, .limited room false⟩) := by
  have does := interactive_does prompt t read suffice
  obtain ⟨rest, events⟩ := sessionEvents_opening env prompt input.ending t lines
  rw [events] at does
  have outcome := does.on_unflushable flush_not_mem_opening room (by
    intro n same
    have fits := enough n same
    rw [upToPrompt, List.take_zero, dialogue, List.append_nil] at fits
    rw [writtenBy_opening]
    exact fits)
  rw [writtenBy_opening, still_opening.contentsAfter] at outcome
  rw [outcome]
  exact ⟨rfl, rfl, rfl⟩

private theorem brokenOff (t : Tables) {bs : Bytes} {lines : List String}
    (read : upToLeave ((Input.lines ⟨bs, .broken⟩).map lineText) = lines) (suffice : NumbersSuffice env t lines) :
    BrokenOff env prompt t lines ((interactive env prompt ⟨bs, .broken⟩).on ⟨t, .unlimited⟩) := by
  rw [interactive_on_unlimited prompt t read suffice]
  constructor
  case written =>
    rw [transcript]
    cases lines.any leaves with
    | true => rfl
    | false => rfl
  case result =>
    cases lines.any leaves with
    | true => rfl
    | false => rfl
  case executed => rfl

/-- Where the numbers suffice for all lines that bytes are cut into, they suffice for those that are ended. -/
theorem suffice_of_ended {t : Tables} {bs : Bytes} {ps : List Bytes} (cut : CutAtFeeds bs ps)
    (suffice : NumbersSuffice env t (upToLeave (ps.map lineText))) :
    NumbersSuffice env t (upToLeave ((endedPieces ps).map lineText)) := by
  obtain ⟨rest, split⟩ := cut.ended_first
  rw [split, List.map_append, upToLeave_append] at suffice
  by_cases left : ((endedPieces ps).map lineText).any leaves = true
  · rwa [if_pos left] at suffice
  · rw [if_neg left] at suffice
    exact suffice.left

end Interruptions

/-- A session whose sink has room for `n` bytes writes the first `n` of those that it would write, fails exactly if
these are too few, and has executed the lines whose prompts fit. If the sink cannot be flushed, it prompts once and
executes nothing; if the input breaks off, it executes the lines that are ended. -/
theorem interrupted_session (env : Nat → Surroundings) (prompt : String) (t : Tables) {bs : Bytes} {ps : List Bytes}
    (cut : CutAtFeeds bs ps) (suffice : NumbersSuffice env t (upToLeave (ps.map lineText))) :
    let session (finish : InputEnd) (sink : Sink) := (interactive env prompt ⟨bs, finish⟩).on ⟨t, sink⟩
    let lines := upToLeave (ps.map lineText)
    (∀ n, CutShort env prompt n t lines (session .closed .unlimited).2.sink.written.toList
        (session .closed (.limited (some n) true))) ∧
      (∀ room, (∀ n, room = some n → (upToPrompt env prompt t lines 0).length ≤ n) →
        Unflushed prompt t (session .closed (.limited room false))) ∧
      BrokenOff env prompt t (upToLeave ((endedPieces ps).map lineText)) (session .broken .unlimited) := by
  intro session lines
  have read : upToLeave ((Input.lines ⟨bs, .closed⟩).map lineText) = lines := by
    rw [lines_closed, ← cut.eq_pieces]
  have read_ended : upToLeave ((Input.lines ⟨bs, .broken⟩).map lineText) =
      upToLeave ((endedPieces ps).map lineText) := by
    rw [lines_broken, ← cut.eq_pieces]
  refine ⟨?short, ?unflushed, ?broken⟩
  case short =>
    intro n
    have whole : (session .closed .unlimited).2.sink.written.toList = transcript env prompt .closed t lines := by
      have outcome : session .closed .unlimited = _ := interactive_on_unlimited prompt t read suffice
      rw [outcome]
    rw [whole]
    exact cutShort n t read suffice
  case unflushed =>
    intro room enough
    exact unflushed t read suffice enough
  case broken => exact brokenOff t read_ended (suffice_of_ended cut suffice)

/-- A session that adds a cluster and leaves without a line feed: without room it writes nothing, without flushes it
adds nothing, and if the input breaks off it adds the cluster and does not take leave. -/
theorem interrupted_addition :
    let env (_ : Nat) : Surroundings := ⟨"w", "root", 22, .epoch⟩
    let input := Utf8.bytes "cluster add --id=a\nquit"
    let session (finish : InputEnd) (sink : Sink) := (interactive env "> " ⟨input, finish⟩).on ⟨.empty, sink⟩
    (session .closed (.limited (some 0) true)).2.sink.written.toList = [] ∧
      (session .closed (.limited none false)).2.tables = .empty ∧
      (session .broken .unlimited).1 = .error (.stream .readFailed) ∧
      (session .broken .unlimited).2.tables.clusters.keys = ["a"] := by
  intro env input session
  have suffice : NumbersSuffice env .empty (upToLeave ((pieces input).map lineText)) := by decide +kernel
  obtain ⟨short, unflushed, broken⟩ := interrupted_session env "> " .empty (cutAtFeeds_pieces input) suffice
  have stays : (upToLeave ((endedPieces (pieces input)).map lineText)).any leaves = false := by decide +kernel
  have added : (afterShots env .empty (upToLeave ((endedPieces (pieces input)).map lineText))).clusters.keys = ["a"] := by
    decide +kernel
  have failed := broken.result
  rw [stays] at failed
  refine ⟨(short 0).written.trans List.take_zero, (unflushed none nofun).untouched, failed, ?_⟩
  rw [broken.executed]
  exact added

end ClusterRegister.Console
