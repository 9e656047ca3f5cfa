import ClusterRegister.Proofs.Admission
import ClusterRegister.Proofs.ScreenRows

/-!
# Sittings

Interactive sessions one after the other, on contents that start empty. Their lines are cut at line feeds, so nothing
that they store has one, whatever bytes are typed; and so every line shows what it is answered, and no rows that only
look like an answer (`sittings_unforged`).
-/

namespace ClusterRegister.Console

open ClusterRegister.Line ClusterRegister.Register ClusterRegister.Text

/-- A session whose input is closed and whose output never fails. -/
structure Sitting where
  env : Nat → Surroundings
  prompt : String
  input : Bytes

namespace Sitting

/-- The lines that are executed. -/
def lines (s : Sitting) : List String := upToLeave ((pieces s.input).map lineText)

def on (s : Sitting) (t : Tables) : Except Halt Unit × Desk :=
  (interactive s.env s.prompt ⟨s.input, .closed⟩).on ⟨t, .unlimited⟩

end Sitting

/-- The contents after sittings one after the other. -/
def afterSittings (t : Tables) (sittings : List Sitting) : Tables :=
  sittings.foldl (fun t s => (s.on t).2.tables) t

/-- A line that is answered on contents: they are left without line feeds, and what it shows has no forged rows. -/
structure AnswersPlainly (env : Surroundings) (t : Tables) (line : String) : Prop where
  unbroken : (shot env t line).2.tables.Unbroken
  unforged : Unforged (.ofLine line) (shot env t line).2.tables (shot env t line).2.sink.written.toList

/-- A sitting on contents goes well, its output is put together from what its lines show on their own, and all of them
are answered plainly. -/
structure Sitting.Plain (s : Sitting) (t : Tables) : Prop where
  outcome : s.on t =
    (.ok (), ⟨afterShots s.env t s.lines, ⟨(transcript s.env s.prompt .closed t s.lines).toArray, none, none⟩⟩)
  answers : ∀ done line rest, s.lines = done ++ line :: rest →
    AnswersPlainly (s.env done.length) (afterShots s.env t done) line

/-- Contents of a roster whose records lines without line feeds ask for. -/
def MadeUnbroken (t : Tables) : Prop := ∃ r, Represents r t ∧ r.SoundFrom UnbrokenAddition

theorem MadeUnbroken.empty : MadeUnbroken .empty :=
  ⟨[], Represents.empty, Roster.sound_nil, fun e nowhere => by cases nowhere⟩

theorem MadeUnbroken.unbroken {t : Tables} (made : MadeUnbroken t) : t.Unbroken := by
  obtain ⟨r, rep, all⟩ := made
  exact rep.unbroken all.origin

section Steps

variable {env : Surroundings} (defaults : UnbrokenDefaults env)

include defaults

/-- A line that is understood without line feeds puts none into the contents. -/
theorem MadeUnbroken.shot {t : Tables} (made : MadeUnbroken t) {line : String}
    (understood : UnbrokenLine (.ofLine line)) : MadeUnbroken (shot env t line).2.tables := by
  obtain ⟨r, rep, all⟩ := made
  rw [tables_shot, lineReply]
  refine rep.keeps Roster.SoundFrom.added all (reply_adds env t (.ofLine line)).accepted fun a member => ?_
  exact unbroken_of_asked defaults understood (asked_of_mem_lineAdditions member)

private theorem answersPlainly {t : Tables} (made : MadeUnbroken t) {line : String}
    (understood : UnbrokenLine (.ofLine line)) :
    AnswersPlainly env t line := by
  refine ⟨(made.shot defaults understood).unbroken, ?_⟩
  obtain ⟨r, rep, all⟩ := made
  rw [tables_shot, written_shot]
  exact (reply_screen rep all.origin defaults understood).unforged

end Steps

theorem MadeUnbroken.afterShots {env : Nat → Surroundings} (defaults : ∀ n, UnbrokenDefaults (env n)) {t : Tables}
    (made : MadeUnbroken t) {lines : List String} (understood : ∀ line ∈ lines, UnbrokenLine (.ofLine line)) :
    MadeUnbroken (afterShots env t lines) := by
  induction lines generalizing env t with
  | nil => exact made
  | cons line lines ih =>
    have first := made.shot (defaults 0) (understood line (.head _))
    exact ih (fun n => defaults (n + 1)) first fun later member => understood later (.tail _ member)

namespace Sitting

variable {s : Sitting} {t : Tables}

theorem understood {line : String} (executed : line ∈ s.lines) : UnbrokenLine (.ofLine line) :=
  unbrokenLine_of_read executed

private theorem lines_eq (s : Sitting) : upToLeave ((Input.lines ⟨s.input, .closed⟩).map lineText) = s.lines := by
  rw [lines_closed, lines]

/-- Whatever a sitting adds, one of its lines asks for. -/
theorem made (defaults : ∀ n, UnbrokenDefaults (s.env n)) (before : MadeUnbroken t) :
    MadeUnbroken (s.on t).2.tables := by
  obtain ⟨r, rep, all⟩ := before
  have session := Adds.interactive s.env s.prompt ⟨s.input, .closed⟩ ⟨t, .unlimited⟩
  refine rep.keeps Roster.SoundFrom.added all session.accepted fun a member => ?_
  have asked := asked_of_mem_sessionAdditions member
  rw [lines_eq] at asked
  obtain ⟨i, line, executed, asks⟩ := asked
  exact unbroken_of_asked (defaults i) (understood (List.mem_of_getElem? executed)) asks

/-- A sitting does not take clusters away. -/
theorem length_le (made : MadeUnbroken t) : t.order.entries.length ≤ (s.on t).2.tables.order.entries.length := by
  obtain ⟨r, rep, all⟩ := made
  have session := Adds.interactive s.env s.prompt ⟨s.input, .closed⟩ ⟨t, .unlimited⟩
  obtain ⟨r', rep', _, grown⟩ := rep.accepts all.sound session.accepted
  rw [← rep.length_eq, on, ← rep'.length_eq, grown]
  exact Nat.le_add_right _ _

/-- With fewer than `2 ^ 64` clusters at its end, a sitting lacks no number. -/
theorem suffice (made : MadeUnbroken t) (few : (s.on t).2.tables.order.entries.length < UInt64.size) :
    NumbersSuffice s.env t s.lines := by
  obtain ⟨r, rep, all⟩ := made
  have session := Adds.interactive s.env s.prompt ⟨s.input, .closed⟩ ⟨t, .unlimited⟩
  obtain ⟨r', rep', _⟩ := rep.accepts all.sound session.accepted
  refine Classical.not_not.1 fun short => ?_
  rw [← lines_eq] at short
  have full := rep'.length_of_exhausted (session.exhausted (interactive_exhausts s.prompt t short))
  rw [rep'.length_eq] at full
  rw [on, full] at few
  exact Nat.lt_irrefl _ few

theorem plain (defaults : ∀ n, UnbrokenDefaults (s.env n)) (made : MadeUnbroken t)
    (few : (s.on t).2.tables.order.entries.length < UInt64.size) : s.Plain t where
  outcome := by
    rw [on, interactive_on_unlimited s.prompt t s.lines_eq (suffice made few)]
    rfl
  answers done line rest split := by
    have executed : ∀ earlier ∈ done, earlier ∈ s.lines := by
      rw [split]
      exact fun earlier member => List.mem_append_left _ member
    have here : line ∈ s.lines := by
      rw [split]
      exact List.mem_append_right _ (.head _)
    have reached := MadeUnbroken.afterShots defaults made fun earlier member => understood (executed earlier member)
    exact answersPlainly (defaults _) reached (understood here)

end Sitting

private theorem afterSittings_append (t : Tables) (before after : List Sitting) :
    afterSittings t (before ++ after) = afterSittings (afterSittings t before) after := List.foldl_append

section Series

variable {sittings : List Sitting} (defaults : ∀ s ∈ sittings, ∀ n, UnbrokenDefaults (s.env n))

include defaults

theorem MadeUnbroken.afterSittings {t : Tables} (made : MadeUnbroken t) : MadeUnbroken (afterSittings t sittings) := by
  induction sittings generalizing t with
  | nil => exact made
  | cons s sittings ih =>
    exact ih (fun later member => defaults later (.tail _ member)) (Sitting.made (defaults s (.head _)) made)

private theorem length_le_afterSittings {t : Tables} (made : MadeUnbroken t) :
    t.order.entries.length ≤ (afterSittings t sittings).order.entries.length := by
  induction sittings generalizing t with
  | nil => exact Nat.le_refl _
  | cons s sittings ih =>
    have later := Sitting.made (defaults s (.head _)) made
    exact Nat.le_trans (Sitting.length_le made) (ih (fun other member => defaults other (.tail _ member)) later)

end Series

/-- Sittings on a register that starts empty cannot forge rows. With settings without line feeds and fewer than `2 ^ 64`
clusters, whatever bytes are read: no table ever has a text with a line feed, every sitting goes well, and every line
that one of them executes is answered plainly. -/
theorem sittings_unforged {sittings : List Sitting} (defaults : ∀ s ∈ sittings, ∀ n, UnbrokenDefaults (s.env n))
    (few : (afterSittings .empty sittings).order.entries.length < UInt64.size) :
    (afterSittings .empty sittings).Unbroken ∧
      ∀ before s after, sittings = before ++ s :: after → s.Plain (afterSittings .empty before) := by
  refine ⟨(MadeUnbroken.empty.afterSittings defaults).unbroken, ?_⟩
  rintro before s after rfl
  have first : ∀ earlier ∈ before, ∀ n, UnbrokenDefaults (earlier.env n) :=
    fun earlier member => defaults earlier (List.mem_append_left _ member)
  have here : ∀ n, UnbrokenDefaults (s.env n) := defaults s (List.mem_append_right _ (.head _))
  have rest : ∀ later ∈ after, ∀ n, UnbrokenDefaults (later.env n) :=
    fun later member => defaults later (List.mem_append_right _ (.tail _ member))
  have reached := MadeUnbroken.empty.afterSittings first
  refine Sitting.plain here reached (Nat.lt_of_le_of_lt ?_ few)
  -- Later sittings take no clusters away, so the bound at the end holds here.
  rw [afterSittings_append]
  exact length_le_afterSittings rest (Sitting.made here reached)

/-- A quote that a line feed interrupts, and then a host whose address looks like a report: the line feed is not stored,
and the report is not taken for one. -/
theorem quoted_report_not_forged :
    let env (_ : Nat) : Surroundings := ⟨"w", "root", 22, .epoch⟩
    let first : Sitting := ⟨env, "> ", Utf8.bytes "cluster add --id='a\n  [ok] b'\nexit\n"⟩
    let second : Sitting := ⟨env, "", Utf8.bytes "cluster a host add --ip='  [ok] h'"⟩
    let contents := afterSittings .empty [first, second]
    (∀ s ∈ [first, second], ∀ n, UnbrokenDefaults (s.env n)) ∧ contents.order.values = ["a"] ∧ contents.hosts.keys = ["a"] ∧
      contents.Unbroken ∧ second.Plain (afterSittings .empty [first]) := by
  intro env first second contents
  have plain : UnbrokenDefaults ⟨"w", "root", 22, .epoch⟩ := ⟨by decide, by decide⟩
  have defaults : ∀ s ∈ [first, second], ∀ n, UnbrokenDefaults (s.env n) := by
    intro s member n
    rcases List.mem_cons.1 member with rfl | later
    · exact plain
    · rw [List.mem_singleton.1 later]
      exact plain
  have stored : contents.order.values = ["a"] ∧ contents.hosts.keys = ["a"] := by decide +kernel
  have few : contents.order.entries.length < UInt64.size := by
    have one : contents.order.entries.length = contents.order.values.length := (List.length_map _).symm
    rw [one, stored.1]
    decide
  have whole := sittings_unforged defaults few
  exact ⟨defaults, stored.1, stored.2, whole.1, whole.2 [first] second [] rfl⟩

end ClusterRegister.Console
