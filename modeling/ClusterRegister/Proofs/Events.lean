import ClusterRegister.Console.Execute

/-!
# Events

What an action does to a desk, one event after the other: it commits contents, it writes, and it flushes. On
a sink that fails, an action does the same events up to the one at which the sink fails. So what an action
comes to on any sink follows from its events, and these follow from how the action is built.
-/

namespace ClusterRegister.Console

open ClusterRegister.Register

/-- One thing that an action does to a desk. -/
inductive Event
  | commit (tables : Tables)
  | write (bs : Bytes)
  | flush

/-- Does an event: why the sink fails, if it does, and the desk after it. -/
def Event.perform : Event → Desk → Option StreamFailure × Desk
  | .commit tables, desk => (none, { desk with tables })
  | .write bs, desk =>
    let (took, sink) := desk.sink.write bs
    (if took then none else some .pipeClosed, { desk with sink })
  | .flush, desk =>
    let (flushed, sink) := desk.sink.flush
    (if flushed then none else some .flushFailed, { desk with sink })

/-- Does events one after the other until the sink fails. -/
def play : List Event → Desk → Option StreamFailure × Desk
  | [], desk => (none, desk)
  | e :: es, desk =>
    match e.perform desk with
    | (none, desk) => play es desk
    | (some failure, desk) => (some failure, desk)

/-- The contents after all of the events. -/
def contentsAfter (t : Tables) : List Event → Tables
  | [] => t
  | .commit t' :: es => contentsAfter t' es
  | .write _ :: es => contentsAfter t es
  | .flush :: es => contentsAfter t es

/-- The bytes that events write. -/
def writtenBy : List Event → Bytes
  | [] => []
  | .commit _ :: es => writtenBy es
  | .write bs :: es => bs ++ writtenBy es
  | .flush :: es => writtenBy es

/-- The contents after the events that come before the write for which `n` bytes of room are too few. -/
def reached (n : Nat) (t : Tables) : List Event → Tables
  | [] => t
  | .commit t' :: es => reached n t' es
  | .write bs :: es => if bs.length ≤ n then reached (n - bs.length) t es else t
  | .flush :: es => reached n t es

/-- What it means that events commit nothing. -/
def Still (es : List Event) : Prop := ∀ t, .commit t ∉ es

private theorem play_append (es fs : List Event) (desk : Desk) :
    play (es ++ fs) desk =
      match play es desk with
      | (none, desk) => play fs desk
      | (some failure, desk) => (some failure, desk) := by
  induction es generalizing desk with
  | nil => rfl
  | cons e es ih =>
    rw [List.cons_append, play, play]
    obtain ⟨failed, desk'⟩ := e.perform desk
    cases failed with
    | none => exact ih desk'
    | some failure => rfl

theorem contentsAfter_append (t : Tables) (es fs : List Event) :
    contentsAfter t (es ++ fs) = contentsAfter (contentsAfter t es) fs := by
  induction es generalizing t with
  | nil => rfl
  | cons e es ih =>
    cases e with
    | commit t' => exact ih t'
    | write bs => exact ih t
    | flush => exact ih t

theorem writtenBy_append (es fs : List Event) : writtenBy (es ++ fs) = writtenBy es ++ writtenBy fs := by
  induction es with
  | nil => rfl
  | cons e es ih =>
    cases e with
    | commit t' => exact ih
    | write bs => simp only [List.cons_append, writtenBy, ih, List.append_assoc]
    | flush => exact ih

theorem reached_append (n : Nat) (t : Tables) (es fs : List Event) :
    reached n t (es ++ fs) =
      if (writtenBy es).length ≤ n then reached (n - (writtenBy es).length) (contentsAfter t es) fs
      else reached n t es := by
  induction es generalizing n t with
  | nil => simp [writtenBy, contentsAfter]
  | cons e es ih =>
    cases e with
    | commit t' => exact ih n t'
    | flush => exact ih n t
    | write bs =>
      simp only [List.cons_append, reached, writtenBy, contentsAfter, List.length_append]
      by_cases fits : bs.length ≤ n
      · rw [if_pos fits, if_pos fits, ih]
        by_cases more : (writtenBy es).length ≤ n - bs.length
        · rw [if_pos more, if_pos (by omega), Nat.sub_sub]
        · rw [if_neg more, if_neg (by omega)]
      · rw [if_neg fits, if_neg fits, if_neg (by omega)]

/-- Where all that events write fits, all of their changes are reached. -/
theorem reached_of_fits {n : Nat} {es : List Event} (fits : (writtenBy es).length ≤ n) (t : Tables) :
    reached n t es = contentsAfter t es := by
  have whole := reached_append n t es []
  rwa [List.append_nil, if_pos fits] at whole

theorem Still.append {es fs : List Event} (first : Still es) (later : Still fs) : Still (es ++ fs) := by
  intro t member
  rcases List.mem_append.1 member with here | there
  · exact first t here
  · exact later t there

theorem Still.contentsAfter {es : List Event} (still : Still es) (t : Tables) : contentsAfter t es = t := by
  induction es with
  | nil => rfl
  | cons e es ih =>
    have rest : Still es := fun t' member => still t' (.tail _ member)
    cases e with
    | commit t' => exact absurd (.head _) (still t')
    | write bs => exact ih rest
    | flush => exact ih rest

theorem Still.reached {es : List Event} (still : Still es) (n : Nat) (t : Tables) : reached n t es = t := by
  induction es generalizing n with
  | nil => rfl
  | cons e es ih =>
    have rest : Still es := fun t' member => still t' (.tail _ member)
    cases e with
    | commit t' => exact absurd (.head _) (still t')
    | write bs => rw [Console.reached, ih rest, ite_self]
    | flush => exact ih rest n

/-- Events that commit nothing add nothing to what is reached. -/
theorem reached_append_still {es fs : List Event} (still : Still fs) (n : Nat) (t : Tables) :
    reached n t (es ++ fs) = reached n t es := by
  rw [reached_append, still.reached]
  by_cases fits : (writtenBy es).length ≤ n
  · rw [if_pos fits, reached_of_fits fits]
  · rw [if_neg fits]

/-- Whoever does all of the events ends with the contents after them. -/
theorem tables_of_play {es : List Event} {desk : Desk} (done : (play es desk).1 = none) :
    (play es desk).2.tables = contentsAfter desk.tables es := by
  induction es generalizing desk with
  | nil => rfl
  | cons e es ih =>
    rw [play] at done ⊢
    cases outcome : e.perform desk with
    | mk failed desk' =>
      rw [outcome] at done
      cases failed with
      | some failure => cases done
      | none =>
        have rest := ih done
        cases e with
        | commit t' =>
          cases outcome
          exact rest
        | write bs =>
          have same : desk'.tables = desk.tables := by
            rw [Event.perform] at outcome
            rw [← (Prod.mk.inj outcome).2]
          rw [contentsAfter, ← same]
          exact rest
        | flush =>
          have same : desk'.tables = desk.tables := by
            rw [Event.perform] at outcome
            rw [← (Prod.mk.inj outcome).2]
          rw [contentsAfter, ← same]
          exact rest

private theorem append_bytes (written : Array UInt8) (bs cs : Bytes) :
    written ++ (bs ++ cs) = written ++ bs ++ cs := by
  apply Array.toList_inj.1
  simp only [Array.toList_appendList, List.append_assoc]

/-- A sink that never fails takes all that events write. -/
theorem play_unlimited (es : List Event) (t : Tables) (written : Array UInt8) :
    play es ⟨t, ⟨written, none, none⟩⟩ = (none, ⟨contentsAfter t es, ⟨written ++ writtenBy es, none, none⟩⟩) := by
  induction es generalizing t written with
  | nil => simp [play, contentsAfter, writtenBy]
  | cons e es ih =>
    cases e with
    | commit t' => exact ih t' written
    | write bs =>
      have rest := ih t (written ++ bs)
      rw [← append_bytes] at rest
      exact rest
    | flush => exact ih t written

/-- A sink with room for `n` bytes takes the first `n` of those that events write, and fails exactly if they
are more. -/
theorem play_limited (es : List Event) (t : Tables) (written : Array UInt8) (n : Nat) :
    play es ⟨t, ⟨written, some n, none⟩⟩ =
      (if (writtenBy es).length ≤ n then none else some .pipeClosed,
        ⟨reached n t es,
          ⟨written ++ (writtenBy es).take n, some (n - (writtenBy es).length), none⟩⟩) := by
  induction es generalizing t written n with
  | nil => simp [play, reached, writtenBy]
  | cons e es ih =>
    cases e with
    | commit t' => exact ih t' written n
    | flush => exact ih t written n
    | write bs =>
      by_cases fits : bs.length ≤ n
      · have took : (Event.write bs).perform ⟨t, ⟨written, some n, none⟩⟩ =
            (none, ⟨t, ⟨written ++ bs, some (n - bs.length), none⟩⟩) := by
          simp only [Event.perform, Sink.write, if_pos fits]
          rfl
        have text : written ++ (bs ++ writtenBy es).take n =
            written ++ bs ++ (writtenBy es).take (n - bs.length) := by
          rw [List.take_append, List.take_of_length_le fits, append_bytes]
        have length : bs.length + (writtenBy es).length ≤ n ↔ (writtenBy es).length ≤ n - bs.length := by omega
        simp only [play, took, ih, writtenBy, reached, if_pos fits, text, List.length_append, length, Nat.sub_sub]
      · have full : (Event.write bs).perform ⟨t, ⟨written, some n, none⟩⟩ =
            (some .pipeClosed, ⟨t, ⟨written ++ bs.take n, some 0, none⟩⟩) := by
          simp only [Event.perform, Sink.write, if_neg fits]
          rfl
        have text : (bs ++ writtenBy es).take n = bs.take n := List.take_append_of_le_length (by omega)
        have left : n - (bs.length + (writtenBy es).length) = 0 := by omega
        have more : ¬ bs.length + (writtenBy es).length ≤ n := by omega
        simp only [play, full, writtenBy, reached, if_neg fits, text, List.length_append, left, if_neg more]

/-- On a sink that can never be flushed but has room enough, the first flush fails. -/
theorem play_unflushable {es : List Event} (unflushed : .flush ∉ es) (rest : List Event) (t : Tables)
    (written : Array UInt8) (room : Option Nat) (enough : ∀ n, room = some n → (writtenBy es).length ≤ n) :
    play (es ++ .flush :: rest) ⟨t, ⟨written, room, some 0⟩⟩ =
      (some .flushFailed,
        ⟨contentsAfter t es,
          ⟨written ++ writtenBy es, room.map (· - (writtenBy es).length), some 0⟩⟩) := by
  induction es generalizing t written room with
  | nil =>
    cases room with
    | none => simp [play, Event.perform, Sink.flush, contentsAfter, writtenBy]
    | some n => simp [play, Event.perform, Sink.flush, contentsAfter, writtenBy]
  | cons e es ih =>
    have later : .flush ∉ es := fun member => unflushed (.tail _ member)
    cases e with
    | flush => exact absurd (.head _) unflushed
    | commit t' => exact ih later t' written room enough
    | write bs =>
      cases room with
      | none =>
        have next := ih later t (written ++ bs) none (fun _ some => by cases some)
        rw [← append_bytes] at next
        exact next
      | some n =>
        have fits := enough n rfl
        rw [writtenBy, List.length_append] at fits
        have took : (Event.write bs).perform ⟨t, ⟨written, some n, some 0⟩⟩ =
            (none, ⟨t, ⟨written ++ bs, some (n - bs.length), some 0⟩⟩) := by
          simp only [Event.perform, Sink.write, if_pos (show bs.length ≤ n by omega)]
          rfl
        have next := ih later t (written ++ bs) (some (n - bs.length)) (by
          intro m same
          cases same
          omega)
        rw [List.cons_append, play, took]
        simp only [next, writtenBy, contentsAfter, append_bytes, List.length_append, Option.map_some, Nat.sub_sub]

variable {α β : Type}

theorem on_bind (act : Shell α) (next : α → Shell β) (desk : Desk) :
    (act >>= next).on desk =
      match act.on desk with
      | (.ok a, desk) => (next a).on desk
      | (.error halt, desk) => (.error halt, desk) := by
  have split : (act >>= next).on desk = (ExceptT.bindCont next (act.on desk).1).run (act.on desk).2 := rfl
  rw [split]
  obtain ⟨result, desk'⟩ := act.on desk
  cases result <;> rfl

/-- A chain of actions that goes well went well in its first part. -/
theorem on_bind_ok {act : Shell α} {next : α → Shell β} {desk desk'' : Desk} {b : β}
    (went : (act >>= next).on desk = (.ok b, desk'')) :
    ∃ a desk', act.on desk = (.ok a, desk') ∧ (next a).on desk' = (.ok b, desk'') := by
  rw [on_bind] at went
  cases first : act.on desk with
  | mk result desk' =>
    rw [first] at went
    cases result with
    | ok a => exact ⟨a, desk', rfl, went⟩
    | error halt => cases went

/-- An action that on contents `t` does events and then comes to a result, unless the sink fails before. -/
def Does (act : Shell α) (t : Tables) (es : List Event) (result : Except Halt α) : Prop :=
  ∀ sink, act.on ⟨t, sink⟩ =
    match play es ⟨t, sink⟩ with
    | (none, desk) => (result, desk)
    | (some failure, desk) => (.error (.stream failure), desk)

/-- The last flush, which there is only if what came before succeeded. -/
def flushAfter : Except Halt α → List Event
  | .ok _ => [.flush]
  | .error _ => []

theorem still_flushAfter (result : Except Halt α) : Still (flushAfter result) := by
  cases result with
  | ok a =>
    intro t member
    simp [flushAfter] at member
  | error halt => exact fun t => List.not_mem_nil

theorem writtenBy_flushAfter (result : Except Halt α) : writtenBy (flushAfter result) = [] := by
  cases result with
  | ok a => rfl
  | error halt => rfl

namespace Does

theorem pure (a : α) (t : Tables) : Does (pure a) t [] (.ok a) := fun _ => rfl

theorem stop (halt : Halt) (t : Tables) : Does (throw halt : Shell α) t [] (.error halt) := fun _ => rfl

theorem bind {act : Shell α} {next : α → Shell β} {t : Tables} {es fs : List Event} {a : α}
    {result : Except Halt β} (first : Does act t es (.ok a))
    (later : Does (next a) (contentsAfter t es) fs result) : Does (act >>= next) t (es ++ fs) result := by
  intro sink
  rw [on_bind, first sink, play_append]
  cases played : play es ⟨t, sink⟩ with
  | mk failed desk =>
    cases failed with
    | some failure => rfl
    | none =>
      have done : (play es ⟨t, sink⟩).1 = none := by rw [played]
      have tables := tables_of_play done
      rw [played] at tables
      obtain ⟨t', sink'⟩ := desk
      simp only at tables
      subst tables
      exact later sink'

/-- What is halted does nothing more. -/
theorem halted {act : Shell α} {next : α → Shell β} {t : Tables} {es : List Event} {halt : Halt}
    (first : Does act t es (.error halt)) : Does (act >>= next) t es (.error halt) := by
  intro sink
  rw [on_bind, first sink]
  obtain ⟨failed, desk⟩ := play es ⟨t, sink⟩
  cases failed with
  | some failure => rfl
  | none => rfl

/-- An action that first looks at the contents. -/
theorem look {act : Shell α} {next : Desk → Shell α} {t : Tables} {es : List Event} {result : Except Halt α}
    (same : ∀ sink, next ⟨t, sink⟩ = act) (does : Does act t es result) : Does (get >>= next) t es result := by
  intro sink
  have opened : (get >>= next).on ⟨t, sink⟩ = (next ⟨t, sink⟩).on ⟨t, sink⟩ := rfl
  rw [opened, same]
  exact does sink

/-- An action whose result does not matter to what follows. -/
theorem discard {act : Shell α} {t : Tables} {a : α} {es : List Event} (does : Does act t es (.ok a)) (b : β) :
    Does (do let _ ← act; Pure.pure b) t es (.ok b) := by
  have whole : Does (act >>= fun _ => Pure.pure b) t (es ++ []) (.ok b) := bind does (pure b _)
  rwa [List.append_nil] at whole

theorem commit (t t' : Tables) : Does (commit t') t [.commit t'] (.ok ()) := fun _ => rfl

theorem say (text : String) (t : Tables) : Does (say text) t [.write (Utf8.bytes text)] (.ok ()) := by
  intro sink
  have written : (Console.say text).on ⟨t, sink⟩ =
      (if (sink.write (Utf8.bytes text)).1 then Pure.pure () else throw (.stream .pipeClosed) : Shell Unit).on
        ⟨t, (sink.write (Utf8.bytes text)).2⟩ := rfl
  rw [written]
  simp only [play, Event.perform]
  cases (sink.write (Utf8.bytes text)).1 with
  | true => rfl
  | false => rfl

theorem flush (t : Tables) : Does flush t [.flush] (.ok ()) := by
  intro sink
  have flushed : Console.flush.on ⟨t, sink⟩ =
      (if sink.flush.1 then Pure.pure () else throw (.stream .flushFailed) : Shell Unit).on
        ⟨t, sink.flush.2⟩ := rfl
  rw [flushed]
  simp only [play, Event.perform]
  cases sink.flush.1 with
  | true => rfl
  | false => rfl

/-- An action after which the sink is flushed, if the action succeeds. -/
theorem thenFlush {act : Shell α} {t : Tables} {es : List Event} {result : Except Halt α}
    (does : Does act t es result) :
    Does (do let _ ← act; Console.flush) t (es ++ flushAfter result) (result.map fun _ => ()) := by
  cases result with
  | ok a => exact bind does (flush _)
  | error halt =>
    rw [flushAfter, List.append_nil]
    exact halted does

/-! What events come to on a sink without limits, on one with room for `n` bytes, and on one that cannot be
flushed. -/

theorem on_unlimited {act : Shell α} {t : Tables} {es : List Event} {result : Except Halt α}
    (does : Does act t es result) :
    act.on ⟨t, .unlimited⟩ = (result, ⟨contentsAfter t es, ⟨(writtenBy es).toArray, none, none⟩⟩) := by
  have played := play_unlimited es t #[]
  rw [List.toArray_appendList, List.nil_append] at played
  rw [does, Sink.unlimited, played]

theorem on_limited {act : Shell α} {t : Tables} {es : List Event} {result : Except Halt α}
    (does : Does act t es result) (n : Nat) :
    act.on ⟨t, .limited (some n) true⟩ =
      (if (writtenBy es).length ≤ n then result else .error (.stream .pipeClosed),
        ⟨reached n t es,
          ⟨((writtenBy es).take n).toArray, some (n - (writtenBy es).length), none⟩⟩) := by
  have played := play_limited es t #[] n
  rw [List.toArray_appendList, List.nil_append] at played
  have sink : Sink.limited (some n) true = ⟨#[], some n, none⟩ := rfl
  rw [does, sink, played]
  by_cases fits : (writtenBy es).length ≤ n
  · simp only [if_pos fits]
  · simp only [if_neg fits]

theorem on_unflushable {act : Shell α} {t : Tables} {es rest : List Event} {result : Except Halt α}
    (does : Does act t (es ++ .flush :: rest) result) (unflushed : .flush ∉ es) (room : Option Nat)
    (enough : ∀ n, room = some n → (writtenBy es).length ≤ n) :
    act.on ⟨t, .limited room false⟩ =
      (.error (.stream .flushFailed),
        ⟨contentsAfter t es, ⟨(writtenBy es).toArray, room.map (· - (writtenBy es).length), some 0⟩⟩) := by
  have played := play_unflushable unflushed rest t #[] room enough
  rw [List.toArray_appendList, List.nil_append] at played
  have sink : Sink.limited room false = ⟨#[], room, some 0⟩ := rfl
  rw [does, sink, played]

end Does

end ClusterRegister.Console
