import ClusterRegister.Proofs.InputLines
import ClusterRegister.Proofs.Requests

/-!
# Dialogues

A session is the sequence of its lines, each executed on its own from the words of a command: it prompts for
each, shows what the line shows alone, and leaves what the line leaves alone. Only a line that leaves ends it
before its input ends.
-/

namespace ClusterRegister.Console

open ClusterRegister.Calendar ClusterRegister.Line ClusterRegister.Register

private theorem flow_of_ofParsed {env : Surroundings} {p : Parsed} {request : Request}
    (ok : Request.ofParsed p = .ok request) (adds_nothing : addition? env request = none) :
    flowAfter request = if p.shape = .exit then .leave else .goOn := by
  have no_addition (found : ∃ a, addition? env request = some a ∧ Asked env p a) : False := by
    obtain ⟨a, adds, _⟩ := found
    rw [adds_nothing] at adds
    cases adds
  rw [Request.ofParsed] at ok
  cases shape : p.shape with
  | clusterAdd =>
    rw [shape] at ok
    exact absurd (asked_of_checkClusterAdd shape (eq_ok_of_rejecting ok)) no_addition
  | hostAdd =>
    rw [shape] at ok
    exact absurd (asked_of_checkHostAdd shape (eq_ok_of_rejecting ok)) no_addition
  | instanceAdd =>
    rw [shape] at ok
    exact absurd (asked_of_checkInstanceAdd shape (eq_ok_of_rejecting ok)) no_addition
  | _ =>
    rw [shape] at ok
    cases ok
    rfl

theorem Asked.stays {env : Surroundings} {p : Parsed} {a : Addition} (asked : Asked env p a) : p.shape ≠ .exit := by
  cases a with
  | cluster c =>
    rw [asked.shape]
    decide
  | host cluster h =>
    rw [asked.2.shape]
    decide
  | inst cluster i =>
    rw [asked.2.shape]
    decide

theorem result_additionReply (t : Tables) (a : Addition) :
    (additionReply t a).result = .error .orderExhausted ∨ (additionReply t a).result = .ok .goOn := by
  rw [additionReply]
  cases t.add a with
  | ok added => exact .inr rfl
  | error failure =>
    cases failure with
    | refused e => exact .inr rfl
    | orderExhausted => exact .inl rfl

private theorem result_checkedReply (env : Surroundings) (t : Tables) (p : Parsed) :
    (checkedReply env t p).result = .error .orderExhausted ∨
      (checkedReply env t p).result = .ok (if p.shape = .exit then .leave else .goOn) := by
  rw [checkedReply]
  cases checked : Request.ofParsed p with
  | error rejection =>
    have stays : p.shape ≠ .exit := by
      intro exit
      rw [Request.ofParsed, exit] at checked
      cases checked
    rw [if_neg stays]
    exact .inr rfl
  | ok request =>
    have replied : (requestReply env t request).result = .error .orderExhausted ∨
        (requestReply env t request).result = .ok (if p.shape = .exit then .leave else .goOn) := by
      rw [requestReply]
      cases adds : addition? env request with
      | some a =>
        rw [if_neg (asked_of_ofParsed checked adds).stays]
        exact result_additionReply t a
      | none =>
        rw [← flow_of_ofParsed checked adds]
        exact .inr rfl
    exact replied

/-- A reply ends the session exactly if its line is one that leaves; nothing but the numbers of the clusters,
once they are used up, stops it otherwise. -/
theorem result_reply (env : Surroundings) (t : Tables) (p : Parsed) :
    (reply env t p).result = .error .orderExhausted ∨
      (reply env t p).result = .ok (if p.shape = .exit then .leave else .goOn) := by
  rw [reply]
  cases action : addAction? p.shape with
  | none => exact result_checkedReply env t p
  | some name =>
    have stays : p.shape ≠ .exit := by
      intro exit
      rw [exit] at action
      cases action
    cases t.clusterExists p.clusterId with
    | error e =>
      rw [if_neg stays]
      exact .inr rfl
    | ok there =>
      cases there with
      | true => exact result_checkedReply env t p
      | false =>
        rw [if_neg stays]
        exact .inr rfl

section Shots

variable (env : Surroundings)

/-- The reply to a line as it is read or given. -/
def lineReply (t : Tables) (line : String) : Reply := reply env t (.ofLine line)

/-- What a line comes to that is executed on its own. -/
def shot (t : Tables) (line : String) : Except Halt Unit × Desk := (oneShot env [line]).on ⟨t, .unlimited⟩

/-- The contents after lines that are executed on their own, one after the other, each in its surroundings. -/
def afterShots (env : Nat → Surroundings) (t : Tables) : List String → Tables
  | [] => t
  | line :: lines => afterShots (afterFirst env) (shot (env 0) t line).2.tables lines

/-- Each line's prompt and what the line shows on its own. -/
def dialogue (env : Nat → Surroundings) (prompt : String) (t : Tables) : List String → Bytes
  | [] => []
  | line :: lines =>
    Utf8.bytes prompt ++ (shot (env 0) t line).2.sink.written.toList ++
      dialogue (afterFirst env) prompt (shot (env 0) t line).2.tables lines

/-- None of the lines uses up the numbers that order the clusters. -/
def NumbersSuffice (env : Nat → Surroundings) (t : Tables) : List String → Prop
  | [] => True
  | line :: lines =>
    (shot (env 0) t line).1 ≠ .error .orderExhausted ∧
      NumbersSuffice (afterFirst env) (shot (env 0) t line).2.tables lines

instance (result : Except Halt Unit) : Decidable (result = .error .orderExhausted) :=
  match result with
  | .ok _ => isFalse nofun
  | .error halt => decidable_of_iff (halt = .orderExhausted) ⟨congrArg _, Except.error.inj⟩

instance decidableNumbersSuffice : (env : Nat → Surroundings) → (t : Tables) → (lines : List String) →
    Decidable (NumbersSuffice env t lines)
  | _, _, [] => isTrue trivial
  | env, t, line :: lines =>
    have := decidableNumbersSuffice (afterFirst env) (shot (env 0) t line).2.tables lines
    inferInstanceAs (Decidable (_ ∧ _))

theorem NumbersSuffice.left {env : Nat → Surroundings} {t : Tables} {lines more : List String}
    (suffice : NumbersSuffice env t (lines ++ more)) : NumbersSuffice env t lines := by
  induction lines generalizing env t with
  | nil => trivial
  | cons line lines ih => exact ⟨suffice.1, ih suffice.2⟩

variable {env}

/-- A line executed on its own comes to the reply to it. -/
theorem shot_eq (t : Tables) (line : String) :
    shot env t line =
      ((lineReply env t line).result.map fun _ => (),
        ⟨(lineReply env t line).tables,
          ⟨(Utf8.bytes (linesText (lineReply env t line).lines)).toArray, none, none⟩⟩) := by
  have words : Parsed.ofWords [line] = .ofLine line := rfl
  have replied : Replies (execute env (.ofWords [line])) t (lineReply env t line) := by
    rw [words]
    exact execute_replies env t (.ofLine line)
  have executed : Does (oneShot env [line]) t _ _ := replied.thenFlush
  rw [shot, executed.on_unlimited, contentsAfter_append, contentsAfter_events, (still_flushAfter _).contentsAfter,
    writtenBy_append, writtenBy_events, writtenBy_flushAfter, List.append_nil]

theorem tables_shot (t : Tables) (line : String) :
    (shot env t line).2.tables = (lineReply env t line).tables := by rw [shot_eq]

theorem written_shot (t : Tables) (line : String) :
    (shot env t line).2.sink.written.toList = Utf8.bytes (linesText (lineReply env t line).lines) := by
  rw [shot_eq]

private theorem result_of_suffice {t : Tables} {line : String} (enough : (shot env t line).1 ≠ .error .orderExhausted) :
    (lineReply env t line).result = .ok (if leaves line then .leave else .goOn) := by
  have flow : (if (Parsed.ofLine line).shape = .exit then Flow.leave else .goOn) =
      if leaves line then .leave else .goOn := by simp only [shape_exit_iff]
  rcases result_reply env t (.ofLine line) with exhausted | replied
  · rw [shot_eq, lineReply, exhausted] at enough
    exact absurd rfl enough
  · rw [lineReply, replied, flow]

end Shots

section Sessions

variable (env : Nat → Surroundings) (prompt : String)

def askEvents : List Event := [.write (Utf8.bytes prompt), .flush]

/-- The events of prompting for lines and answering them. -/
def talk (env : Nat → Surroundings) (t : Tables) : List String → List Event
  | [] => []
  | line :: lines =>
    askEvents prompt ++
      ((lineReply (env 0) t line).events ++ talk (afterFirst env) (lineReply (env 0) t line).tables lines)

/-- The events after the last line: `left` says whether it left the session. -/
def parting : InputEnd → Bool → List Event
  | _, true => lineEvents ["  bye"]
  | .closed, false => askEvents prompt ++ lineEvents [""]
  | .broken, false => askEvents prompt

/-- What is written after the last line. -/
def lastWords : InputEnd → Bool → String
  | _, true => "  bye\n"
  | .closed, false => prompt ++ "\n"
  | .broken, false => prompt

/-- How a session ends: reading fails if it goes on past an input that breaks off. -/
def ending : InputEnd → Bool → Except Halt Unit
  | .broken, false => .error (.stream .readFailed)
  | _, _ => .ok ()

/-- The events of a session. -/
def sessionEvents (finish : InputEnd) (t : Tables) (lines : List String) : List Event :=
  lineEvents banner ++ (talk prompt env t lines ++ parting prompt finish (lines.any leaves) ++
    flushAfter (ending finish (lines.any leaves)))

variable {env prompt}

private theorem contentsAfter_talk (t : Tables) (lines : List String) :
    contentsAfter t (talk prompt env t lines) = afterShots env t lines := by
  induction lines generalizing env t with
  | nil => rfl
  | cons line lines ih =>
    rw [talk, contentsAfter_append, contentsAfter_append, contentsAfter_events, ih, afterShots, tables_shot]

theorem writtenBy_askEvents : writtenBy (askEvents prompt) = Utf8.bytes prompt := List.append_nil _

private theorem writtenBy_talk (t : Tables) (lines : List String) :
    writtenBy (talk prompt env t lines) = dialogue env prompt t lines := by
  induction lines generalizing env t with
  | nil => rfl
  | cons line lines ih =>
    rw [talk, writtenBy_append, writtenBy_append, writtenBy_askEvents, writtenBy_events, ih, dialogue, tables_shot,
      written_shot, List.append_assoc]

theorem still_askEvents : Still (askEvents prompt) := by
  intro t member
  simp [askEvents] at member

theorem still_parting (finish : InputEnd) (left : Bool) : Still (parting prompt finish left) := by
  cases left with
  | true =>
    cases finish with
    | closed => exact still_lineEvents _
    | broken => exact still_lineEvents _
  | false =>
    cases finish with
    | closed => exact still_askEvents.append (still_lineEvents _)
    | broken => exact still_askEvents

private theorem writtenBy_parting (finish : InputEnd) (left : Bool) :
    writtenBy (parting prompt finish left) = Utf8.bytes (lastWords prompt finish left) := by
  have bye : writtenBy (lineEvents ["  bye"]) = Utf8.bytes "  bye\n" := by decide
  cases left with
  | true =>
    cases finish with
    | closed => exact bye
    | broken => exact bye
  | false =>
    cases finish with
    | closed =>
      have newline : writtenBy (lineEvents [""]) = Utf8.bytes "\n" := rfl
      rw [parting, writtenBy_append, writtenBy_askEvents, newline, lastWords, Utf8.bytes_append]
    | broken => exact writtenBy_askEvents

theorem Does.ask (prompt : String) (t : Tables) : Does (ask prompt) t (askEvents prompt) (.ok ()) :=
  .bind (.say prompt t) (.flush t)

private theorem answer_does (env : Surroundings) {t : Tables} {line : Bytes}
    (enough : (shot env t (lineText line)).1 ≠ .error .orderExhausted) :
    Does (answer env line) t
      ((lineReply env t (lineText line)).events ++
        if leaves (lineText line) then lineEvents ["  bye"] else [])
      (.ok (if leaves (lineText line) then .leave else .goOn)) := by
  have replied : Does (executeLine env (lineText line)) t (lineReply env t (lineText line)).events
      (.ok (if leaves (lineText line) then .leave else .goOn)) := by
    rw [← result_of_suffice enough]
    exact execute_replies env t (.ofLine (lineText line))
  refine .bind replied ?_
  cases leaves (lineText line) with
  | true =>
    have bye := Does.sayLine "  bye" (contentsAfter t (lineReply env t (lineText line)).events)
    exact .discard bye Flow.leave
  | false => exact .pure Flow.goOn _

variable (prompt) in
/-- Reading lines prompts for each and answers it, up to the first that leaves. -/
theorem readLoop_does (finish : InputEnd) (ps : List Bytes) (t : Tables)
    (suffice : NumbersSuffice env t (upToLeave (ps.map lineText))) :
    Does (readLoop env prompt finish ps) t
      (talk prompt env t (upToLeave (ps.map lineText)) ++ parting prompt finish ((ps.map lineText).any leaves))
      (ending finish ((ps.map lineText).any leaves)) := by
  induction ps generalizing env t with
  | nil =>
    have asked := Does.ask prompt t
    cases finish with
    | closed =>
      have ended : Does (readLoop env prompt .closed []) t (askEvents prompt ++ lineEvents [""]) (.ok ()) :=
        .bind asked (.sayLine "" t)
      exact ended
    | broken =>
      have failed : Does (readLoop env prompt .broken []) t (askEvents prompt ++ [])
          (.error (.stream .readFailed)) := .bind asked (.stop (.stream .readFailed) t)
      rwa [List.append_nil] at failed
  | cons piece ps ih =>
    -- One prompt and one answer; where the loop goes on, it starts from the contents that the answer has left.
    rw [List.map_cons, upToLeave] at suffice
    rw [List.map_cons, upToLeave, List.any_cons]
    cases left : leaves (lineText piece) with
    | true =>
      rw [left, if_pos rfl] at suffice
      have answered := answer_does (env 0) suffice.1
      rw [left, if_pos rfl, if_pos rfl] at answered
      have whole : Does (readLoop env prompt finish (piece :: ps)) t _ (.ok ()) :=
        .bind (.ask prompt t) (.bind answered (.pure () _))
      simp only [if_true, Bool.true_or, talk, parting, ending, List.append_nil, List.append_assoc] at whole ⊢
      exact whole
    | false =>
      rw [left, if_neg Bool.false_ne_true] at suffice
      have answered := answer_does (env 0) suffice.1
      rw [left, if_neg Bool.false_ne_true, if_neg Bool.false_ne_true, List.append_nil] at answered
      have rest := ih _ suffice.2
      rw [tables_shot, ← contentsAfter_events t] at rest
      have whole : Does (readLoop env prompt finish (piece :: ps)) t _ _ :=
        .bind (.ask prompt t) (.bind answered rest)
      simp only [Bool.false_eq_true, if_false, Bool.false_or, talk, List.append_assoc]
      rw [contentsAfter_events] at whole
      exact whole

private theorem map_unit (result : Except Halt Unit) : result.map (fun _ => ()) = result := by
  cases result with
  | ok done => rfl
  | error halt => rfl

variable (prompt) in
/-- A session that reads some lines comes to their events, and ends as its input lets it. -/
theorem interactive_does (t : Tables) {input : Input} {lines : List String}
    (read : upToLeave (input.lines.map lineText) = lines) (suffice : NumbersSuffice env t lines) :
    Does (interactive env prompt input) t (sessionEvents env prompt input.ending t lines)
      (ending input.ending (lines.any leaves)) := by
  subst read
  have loop := readLoop_does prompt input.ending input.lines t suffice
  rw [← any_leaves_upToLeave] at loop
  refine .bind (.sayLines banner t) ?_
  rw [(still_lineEvents banner).contentsAfter]
  have whole := loop.thenFlush
  rwa [map_unit] at whole

/-! A session that lacks a number stops at the line that asks for it. -/

private theorem answer_exhausts (env : Surroundings) {t : Tables} {line : Bytes}
    (short : (shot env t (lineText line)).1 = .error .orderExhausted) :
    Does (answer env line) t (lineReply env t (lineText line)).events (.error .orderExhausted) := by
  have replied : Does (executeLine env (lineText line)) t (lineReply env t (lineText line)).events
      (lineReply env t (lineText line)).result := execute_replies env t (.ofLine (lineText line))
  have stopped : (lineReply env t (lineText line)).result = .error .orderExhausted := by
    rw [shot_eq] at short
    rcases result_reply env t (.ofLine (lineText line)) with exhausted | goes_on
    · exact exhausted
    · rw [lineReply, goes_on] at short
      cases short
  rw [stopped] at replied
  exact .halted replied

variable (prompt) in
private theorem readLoop_exhausts (finish : InputEnd) (ps : List Bytes) (t : Tables)
    (short : ¬ NumbersSuffice env t (upToLeave (ps.map lineText))) :
    ∃ es, Does (readLoop env prompt finish ps) t es (.error .orderExhausted) := by
  induction ps generalizing env t with
  | nil => exact absurd trivial short
  | cons piece ps ih =>
    have asked := Does.ask prompt t
    by_cases stops : (shot (env 0) t (lineText piece)).1 = .error .orderExhausted
    · have answered := answer_exhausts (env 0) stops
      exact ⟨_, .bind asked (.halted answered)⟩
    · -- The line has its number, so the session goes on past it, and a later line lacks one.
      have answered := answer_does (env 0) stops
      rw [List.map_cons, upToLeave] at short
      cases left : leaves (lineText piece) with
      | true =>
        rw [left, if_pos rfl] at short
        exact absurd ⟨stops, trivial⟩ short
      | false =>
        rw [left, if_neg Bool.false_ne_true] at short
        rw [left, if_neg Bool.false_ne_true, if_neg Bool.false_ne_true, List.append_nil] at answered
        obtain ⟨es, rest⟩ := ih (shot (env 0) t (lineText piece)).2.tables fun suffice => short ⟨stops, suffice⟩
        rw [tables_shot, ← contentsAfter_events t] at rest
        exact ⟨_, .bind asked (.bind answered rest)⟩

variable (prompt) in
/-- Where the numbers do not suffice for the lines that are read, the session says so. -/
theorem interactive_exhausts (t : Tables) {input : Input}
    (short : ¬ NumbersSuffice env t (upToLeave (input.lines.map lineText))) :
    ((interactive env prompt input).on ⟨t, .unlimited⟩).1 = .error .orderExhausted := by
  obtain ⟨es, stopped⟩ := readLoop_exhausts prompt input.ending input.lines t short
  have whole : Does (interactive env prompt input) t (lineEvents banner ++ es) (.error .orderExhausted) := by
    refine .bind (.sayLines banner t) (.halted ?_)
    rw [(still_lineEvents banner).contentsAfter]
    exact stopped
  rw [whole.on_unlimited]

private theorem contentsAfter_sessionEvents (finish : InputEnd) (t : Tables) (lines : List String) :
    contentsAfter t (sessionEvents env prompt finish t lines) = afterShots env t lines := by
  rw [sessionEvents, contentsAfter_append, contentsAfter_append, contentsAfter_append,
    (still_lineEvents banner).contentsAfter, contentsAfter_talk, (still_parting _ _).contentsAfter,
    (still_flushAfter _).contentsAfter]

/-- What a session writes. -/
def transcript (env : Nat → Surroundings) (prompt : String) (finish : InputEnd) (t : Tables) (lines : List String) :
    Bytes :=
  Utf8.bytes (linesText banner) ++ dialogue env prompt t lines ++
    Utf8.bytes (lastWords prompt finish (lines.any leaves))

theorem writtenBy_sessionEvents (finish : InputEnd) (t : Tables) (lines : List String) :
    writtenBy (sessionEvents env prompt finish t lines) = transcript env prompt finish t lines := by
  rw [sessionEvents, writtenBy_append, writtenBy_append, writtenBy_append, writtenBy_lineEvents, writtenBy_talk,
    writtenBy_parting, writtenBy_flushAfter, List.append_nil, transcript, List.append_assoc]

variable (prompt) in
/-- On a sink that never fails, a session leaves what its lines leave on their own, and writes what they show. -/
theorem interactive_on_unlimited (t : Tables) {input : Input} {lines : List String}
    (read : upToLeave (input.lines.map lineText) = lines) (suffice : NumbersSuffice env t lines) :
    (interactive env prompt input).on ⟨t, .unlimited⟩ =
      (ending input.ending (lines.any leaves),
        ⟨afterShots env t lines, ⟨(transcript env prompt input.ending t lines).toArray, none, none⟩⟩) := by
  rw [(interactive_does prompt t read suffice).on_unlimited, contentsAfter_sessionEvents, writtenBy_sessionEvents]

end Sessions

/-- A session on an input that is closed and a sink that never fails goes well; it leaves what its lines leave when
each is executed on its own, in the surroundings that it has in the session, and it shows the banner, the prompt and the
output of each line, and a farewell. What comes after a line that leaves makes no difference. -/
theorem session_eq_shots (env : Nat → Surroundings) (prompt : String) (t : Tables) {bs : Bytes} {ps : List Bytes}
    (cut : CutAtFeeds bs ps) (suffice : NumbersSuffice env t (upToLeave (ps.map lineText))) :
    let lines := upToLeave (ps.map lineText)
    (interactive env prompt ⟨bs, .closed⟩).on ⟨t, .unlimited⟩ =
        (.ok (), ⟨afterShots env t lines,
          ⟨(Utf8.bytes (linesText banner) ++ dialogue env prompt t lines ++
            Utf8.bytes (if lines.any leaves then "  bye\n" else prompt ++ "\n")).toArray, none, none⟩⟩) ∧
      (lines.any leaves → bs.getLast? = some 0x0A → ∀ more,
        (interactive env prompt ⟨bs ++ more, .closed⟩).on ⟨t, .unlimited⟩ =
          (interactive env prompt ⟨bs, .closed⟩).on ⟨t, .unlimited⟩) := by
  intro lines
  have read : upToLeave ((Input.lines ⟨bs, .closed⟩).map lineText) = lines := by
    rw [lines_closed, ← cut.eq_pieces]
  have session := interactive_on_unlimited prompt t read suffice
  constructor
  · rw [session, transcript]
    cases lines.any leaves with
    | true => rfl
    | false => rfl
  · intro left ended more
    have whole := (cut.append ended (cutAtFeeds_pieces more)).eq_pieces
    have read_more : upToLeave ((Input.lines ⟨bs ++ more, .closed⟩).map lineText) = lines := by
      rw [any_leaves_upToLeave] at left
      rw [lines_closed, ← whole, List.map_append, upToLeave_append, if_pos left]
    rw [session, interactive_on_unlimited prompt t read_more suffice]

/-- A line that is refused, two that add clusters, each at its own time, and one that leaves; the last line is not
executed. -/
theorem session_with_refusal :
    let env (n : Nat) : Surroundings := ⟨"w", "root", 22, (Instant.ofParts? n 0).getD .epoch⟩
    let input := Utf8.bytes "cluster a host add\ncluster add --id=a\ncluster add --id=b\nQuit\nhelp\n"
    let outcome := (interactive env "> " ⟨input, .closed⟩).on ⟨.empty, .unlimited⟩
    upToLeave ((pieces input).map lineText) =
        ["cluster a host add\n", "cluster add --id=a\n", "cluster add --id=b\n", "Quit\n"] ∧
      outcome.1 = .ok () ∧
      outcome.2.tables.listClusters.toOption.map (·.map fun c => (c.id, c.createdAt.seconds)) =
        some [("a", 1), ("b", 2)] := by
  intro env input outcome
  have lines : upToLeave ((pieces input).map lineText) =
      ["cluster a host add\n", "cluster add --id=a\n", "cluster add --id=b\n", "Quit\n"] := by decide +kernel
  have suffice : NumbersSuffice env .empty (upToLeave ((pieces input).map lineText)) := by decide +kernel
  obtain ⟨session, _⟩ := session_eq_shots env "> " .empty (cutAtFeeds_pieces input) suffice
  have kept : (afterShots env .empty (upToLeave ((pieces input).map lineText))).listClusters.toOption.map
      (·.map fun c => (c.id, c.createdAt.seconds)) = some [("a", 1), ("b", 2)] := by decide +kernel
  have desk : outcome.2 = _ := congrArg Prod.snd session
  refine ⟨lines, congrArg Prod.fst session, ?_⟩
  rw [desk]
  exact kept

end ClusterRegister.Console
