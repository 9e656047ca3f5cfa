import ClusterRegister.Program.Run

/-!
# Words of a command

Where the options end and a command begins. Options with their values attached to them are settled one after the other;
the first word without a dash begins the command, and from there on every word is the command's, also one that looks
like an option (`command_words_kept`).
-/

namespace ClusterRegister.Program

open ClusterRegister.Calendar ClusterRegister.Console

/-- The name of an option after its two dashes. -/
def Opt.name : Opt → String
  | .config => "config"
  | .store => "store"
  | .logLevel => "log-level"

/-- An option with its value attached, as one word. -/
def Opt.word (opt : Opt) (value : String) : String := "--" ++ opt.name ++ "=" ++ value

/-- Options with their values, as words. -/
def optionWords (opts : List (Opt × String)) : List String := opts.map fun o => o.1.word o.2

/-- Words the first of which, if there is one, is not empty and does not begin with a dash. -/
def BeginsCommand (words : List String) : Prop :=
  ∀ word ∈ words.head?, word ≠ "" ∧ word.toList.head? ≠ some '-'

instance (words : List String) : Decidable (BeginsCommand words) :=
  inferInstanceAs (Decidable (∀ word ∈ words.head?, _))

/-- A text is split at its first equals sign. -/
theorem splitValue_append {name : List Char} (no_sign : '=' ∉ name) (value : List Char) :
    splitValue (name ++ '=' :: value) = (name, some value) := by
  induction name with
  | nil => rfl
  | cons c name ih =>
    rw [List.mem_cons, not_or] at no_sign
    rw [List.cons_append, splitValue, if_neg (Ne.symm no_sign.1), ih no_sign.2]

theorem Opt.ofName?_name (opt : Opt) : Opt.ofName? opt.name = some opt := by cases opt <;> decide

theorem Word.of_word (opt : Opt) (value : String) : Word.of (opt.word value) = .option opt (some value) := by
  have no_sign : '=' ∉ opt.name.toList := by cases opt <;> decide
  have no_question : opt.name ≠ "help" ∧ opt.name ≠ "version" := by cases opt <;> decide
  have letters : (opt.word value).toList = '-' :: '-' :: (opt.name.toList ++ '=' :: value.toList) := by
    simp [Opt.word]
  have long : Word.of (opt.word value) = .ofLong (opt.name.toList ++ '=' :: value.toList) := by
    rw [Word.of, letters]
    cases opt <;> rfl
  rw [long, Word.ofLong, splitValue_append no_sign]
  simp only [String.ofList_toList, no_question.1, no_question.2, if_false, Opt.ofName?_name, Option.map_some]

theorem Word.of_plain {word : String} (no_dash : word.toList.head? ≠ some '-') : Word.of word = .plain := by
  rw [Word.of]
  cases letters : word.toList with
  | nil => rfl
  | cons c rest =>
    have other : c ≠ '-' := fun dash => no_dash (by rw [letters, dash]; rfl)
    split
    · next divider => exact absurd (List.cons.inj divider).1 other
    · next long => exact absurd (List.cons.inj long).1 other
    · next short => exact absurd (List.cons.inj short).1 other
    · rfl

section Settled

variable (a : Arguments) (opt : Opt) (value : String)

private theorem value_withValue_self : (a.withValue opt value).value opt = some value := by cases opt <;> rfl

private theorem value_withValue_ne {other : Opt} (different : other ≠ opt) :
    (a.withValue opt value).value other = a.value other := by
  cases opt <;> cases other <;> first | rfl | exact absurd rfl different

private theorem command_withValue : (a.withValue opt value).command = a.command := by cases opt <;> rfl

/-- The arguments after some options are settled. -/
def Arguments.withValues (a : Arguments) (opts : List (Opt × String)) : Arguments :=
  opts.foldl (fun a o => a.withValue o.1 o.2) a

private theorem command_withValues (opts : List (Opt × String)) : (a.withValues opts).command = a.command := by
  induction opts generalizing a with
  | nil => rfl
  | cons o opts ih =>
    rw [Arguments.withValues, List.foldl_cons, ← Arguments.withValues, ih, command_withValue]

private theorem value_withValues_of_not_mem {opts : List (Opt × String)} (other : opt ∉ opts.map (·.1)) :
    (a.withValues opts).value opt = a.value opt := by
  induction opts generalizing a with
  | nil => rfl
  | cons o opts ih =>
    rw [List.map_cons, List.mem_cons, not_or] at other
    rw [Arguments.withValues, List.foldl_cons, ← Arguments.withValues, ih _ other.2, value_withValue_ne _ _ _ other.1]

/-- Of options that are given once, each has the value that it is given with. -/
theorem value_withValues {opts : List (Opt × String)} (once : (opts.map (·.1)).Nodup) :
    (a.withValues opts).value opt = (opts.lookup opt).or (a.value opt) := by
  induction opts generalizing a with
  | nil => rfl
  | cons o opts ih =>
    obtain ⟨given, value⟩ := o
    rw [List.map_cons, List.nodup_cons] at once
    rw [Arguments.withValues, List.foldl_cons, ← Arguments.withValues]
    by_cases same : opt = given
    · subst same
      rw [value_withValues_of_not_mem _ _ once.1, value_withValue_self, List.lookup_cons_self, Option.some_or]
    · rw [ih _ once.2, value_withValue_ne _ _ _ same, List.lookup_cons, beq_eq_false_iff_ne.2 same]

end Settled

/-- One option: a new one with a value that it can take is settled. -/
theorem readWords_option {a : Arguments} {opt : Opt} (new : a.value opt = none) {value : String}
    (some_text : value ≠ "") (rest : List String) :
    readWords ⟨a, none⟩ (opt.word value :: rest) = readWords ⟨a.withValue opt value, none⟩ rest := by
  have settled : a.settle opt (some value) = .ok (a.withValue opt value) := by
    rw [Arguments.settle, new]
    simp [some_text]
  rw [readWords, Word.of_word]
  simp only [Progress.finish, settled, bind, Except.bind]

/-- Options that are new and given once are settled one after the other. -/
theorem readWords_options {opts : List (Opt × String)} (once : (opts.map (·.1)).Nodup) (valued : ∀ o ∈ opts, o.2 ≠ "")
    {a : Arguments} (new : ∀ o ∈ opts, a.value o.1 = none) (words : List String) :
    readWords ⟨a, none⟩ (optionWords opts ++ words) = readWords ⟨a.withValues opts, none⟩ words := by
  induction opts generalizing a with
  | nil => rfl
  | cons o opts ih =>
    rw [List.map_cons, List.nodup_cons] at once
    have still_new : ∀ later ∈ opts, (a.withValue o.1 o.2).value later.1 = none := by
      intro later member
      have different : later.1 ≠ o.1 := fun same => once.1 (same ▸ List.mem_map_of_mem member)
      rw [value_withValue_ne _ _ _ different]
      exact new later (.tail _ member)
    rw [optionWords, List.map_cons, List.cons_append, readWords_option (new o (.head _)) (valued o (.head _)),
      ← optionWords, ih once.2 (fun later member => valued later (.tail _ member)) still_new]
    rfl

/-- From its first word on, a command takes all words as they are. -/
theorem readWords_command {a : Arguments} (no_command : a.command = []) {words : List String}
    (begins : BeginsCommand words) : readWords ⟨a, none⟩ words = .ok { a with command := words } := by
  cases words with
  | nil =>
    obtain ⟨config, store, logLevel, command⟩ := a
    subst no_command
    rfl
  | cons word words =>
    have plain := Word.of_plain (begins word rfl).2
    rw [readWords, plain]
    rfl

/-- Options in any order, each with its value attached and at most once, are understood as they are given, and what
follows them from the first word without a dash on is the command, word for word. Without a command the session is
interactive; otherwise it is the one command. -/
theorem command_words_kept (opts : List (Opt × String)) (once : (opts.map (·.1)).Nodup) (valued : ∀ o ∈ opts, o.2 ≠ "")
    (words : List String) (begins : BeginsCommand words) :
    let a : Arguments := ⟨opts.lookup .config, opts.lookup .store, opts.lookup .logLevel, words⟩
    Arguments.ofWords (optionWords opts ++ words) = .ok a ∧ (a.isInteractive = true ↔ words = []) ∧
      ∀ (s : Settings) (clock : Nat → Instant) (stdin : Input), session s a clock stdin =
        if words = [] then interactive (fun n => surroundings s (clock n)) s.prompt stdin
        else oneShot (surroundings s (clock 0)) words := by
  intro a
  let start := Progress.initial.settled
  have unsettled (opt : Opt) : start.value opt = none := by cases opt <;> rfl
  have given (opt : Opt) : (start.withValues opts).value opt = opts.lookup opt := by
    rw [value_withValues _ _ once, unsettled, Option.or_none]
  have no_command : (start.withValues opts).command = [] := command_withValues start opts
  refine ⟨?understood, List.isEmpty_iff, ?held⟩
  case understood =>
    have read := readWords_options once valued (fun o _ => unsettled o.1) words
    rw [readWords_command no_command begins] at read
    have config : (start.withValues opts).config = opts.lookup .config := given .config
    have store : (start.withValues opts).store = opts.lookup .store := given .store
    have logLevel : (start.withValues opts).logLevel = opts.lookup .logLevel := given .logLevel
    rw [config, store, logLevel] at read
    exact read
  case held =>
    intro s clock stdin
    cases words with
    | nil => rfl
    | cons word words => rfl

/-- Words of a command that look like options, like the end of the options, or like requests for help. -/
theorem lookalikes_kept :
    let opts := [(Opt.logLevel, "info"), (Opt.store, "--b=c")]
    let words := ["cluster", "--store=x", "--config", "--help", "--", "", "--store=y"]
    (opts.map (·.1)).Nodup ∧ (∀ o ∈ opts, o.2 ≠ "") ∧ BeginsCommand words ∧
      Arguments.ofWords (["--log-level=info", "--store=--b=c"] ++ words) =
        .ok ⟨none, some "--b=c", some "info", words⟩ := by
  intro opts words
  have once : (opts.map (·.1)).Nodup := by decide
  have valued : ∀ o ∈ opts, o.2 ≠ "" := by decide
  have begins : BeginsCommand words := by decide
  exact ⟨once, valued, begins, (command_words_kept opts once valued words begins).1⟩

end ClusterRegister.Program
