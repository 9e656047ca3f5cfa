import ClusterRegister.Proofs.Tokens
import Mathlib.Data.List.Induction

/-!
# Values of flags

Which tokens set a flag and which of them counts. A flag has the value of the last token that sets it; other tokens, and
the order of tokens that set different flags, make no difference (`flags_last_wins`).
-/

namespace ClusterRegister.Line

/-- Texts that one dash or two can stand before, as the key of a flag. -/
structure IsFlagKey (key : String) : Prop where
  no_equals : '=' ∉ key.toList
  no_dash : key.toList.head? ≠ some '-'

/-- The tokens that spell a flag out: one dash or two, the key, an equals sign and the value. -/
def Spells (key value token : String) : Prop :=
  token = "--" ++ key ++ "=" ++ value ∨ token = "-" ++ key ++ "=" ++ value

/-- The tokens that set a flag. Two dashes are read as such, so a key with a dash at its head needs both of them. -/
def Sets (key value token : String) : Prop :=
  '=' ∉ key.toList ∧ (token = "--" ++ key ++ "=" ++ value ∨
    (key.toList.head? ≠ some '-' ∧ token = "-" ++ key ++ "=" ++ value))

/-- The last of some tokens that set a flag gives it a value. -/
def LastSets (words : List String) (key value : String) : Prop :=
  ∃ before token after, words = before ++ token :: after ∧ Sets key value token ∧
    ∀ later ∈ after, ∀ other, ¬ Sets key other later

/-- The last of some tokens that spell a flag out gives it a value. -/
def LastSpells (words : List String) (key value : String) : Prop :=
  ∃ before token after, words = before ++ token :: after ∧ Spells key value token ∧
    ∀ later ∈ after, ∀ other, ¬ Spells key other later

/-- The tokens that set a flag to any value. -/
def SetsKey (key token : String) : Prop := ∃ value, Sets key value token

/-- Tokens that set no flag: without a dash at the head, or without an equals sign. -/
def Ineffective (token : String) : Prop := token.toList.head? ≠ some '-' ∨ '=' ∉ token.toList

section Tokens

variable {key value token : String}

private theorem sets_iff_spells (is_key : IsFlagKey key) : Sets key value token ↔ Spells key value token := by
  simp [Sets, Spells, is_key.no_equals, is_key.no_dash]

theorem flagBody_eq_some_iff {cs body : List Char} :
    flagBody cs = some body ↔ cs = '-' :: '-' :: body ∨ (cs = '-' :: body ∧ body ≠ [] ∧ body.head? ≠ some '-') := by
  rw [flagBody.eq_def]
  split
  · next rest =>
    constructor
    · intro same
      cases same
      exact .inl rfl
    · rintro (two | ⟨one, _, no_dash⟩)
      · cases two
        rfl
      · cases one
        exact absurd rfl no_dash
  · simp +contextual
  · next rest no_dash nonempty =>
    have other : rest.head? ≠ some '-' := by
      intro dash
      obtain ⟨more, split⟩ := List.head?_eq_some_iff.1 dash
      exact no_dash more split
    constructor
    · intro same
      cases same
      exact .inr ⟨rfl, nonempty, other⟩
    · rintro (two | ⟨one, _⟩)
      · cases two
        exact absurd rfl other
      · cases one
        rfl
  · next no_dashes _ no_dash =>
    constructor
    · intro none
      cases none
    · rintro (two | ⟨one, _⟩)
      · exact absurd two (no_dashes body)
      · exact absurd one (no_dash body)

theorem splitAtEquals_eq_some_iff {body key value : List Char} :
    splitAtEquals body = some (key, value) ↔ '=' ∉ key ∧ body = key ++ '=' :: value := by
  constructor
  · intro found
    refine ⟨?_, eq_of_splitAtEquals found⟩
    induction body generalizing key with
    | nil => cases found
    | cons c cs ih =>
      rw [splitAtEquals] at found
      by_cases equals : c = '='
      · rw [if_pos equals] at found
        cases found
        simp
      · rw [if_neg equals] at found
        obtain ⟨⟨key', value'⟩, rest, same⟩ := Option.map_eq_some_iff.1 found
        cases same
        simp [ih rest, Ne.symm equals]
  · rintro ⟨no_equals, rfl⟩
    exact splitAtEquals_append no_equals value

/-- The flag of a token is the one that it sets. -/
theorem flag?_eq_some_iff : flag? token = some (key, value) ↔ Sets key value token := by
  have texts : flag? token = some (key, value) ↔
      ∃ body, flagBody token.toList = some body ∧ splitAtEquals body = some (key.toList, value.toList) := by
    simp only [flag?, Option.bind_eq_bind, Option.bind_eq_some_iff, Prod.exists]
    constructor
    · rintro ⟨body, dashes, key', value', cut, same⟩
      cases same
      exact ⟨body, dashes, by simpa using cut⟩
    · rintro ⟨body, dashes, cut⟩
      exact ⟨body, dashes, _, _, cut, by simp⟩
  have two : token = "--" ++ key ++ "=" ++ value ↔
      token.toList = '-' :: '-' :: (key.toList ++ '=' :: value.toList) := by
    rw [← String.toList_inj]
    simp
  have one : token = "-" ++ key ++ "=" ++ value ↔ token.toList = '-' :: (key.toList ++ '=' :: value.toList) := by
    rw [← String.toList_inj]
    simp
  have head : (key.toList ++ '=' :: value.toList).head? ≠ some '-' ↔ key.toList.head? ≠ some '-' := by
    cases key.toList with
    | nil => simp
    | cons c rest => simp
  simp only [texts, splitAtEquals_eq_some_iff, flagBody_eq_some_iff, Sets, two, one]
  constructor
  · rintro ⟨body, dashes, no_equals, rfl⟩
    refine ⟨no_equals, dashes.imp id ?_⟩
    rintro ⟨same, _, no_dash⟩
    exact ⟨head.1 no_dash, same⟩
  · rintro ⟨no_equals, dashes⟩
    refine ⟨_, dashes.imp id ?_, no_equals, rfl⟩
    rintro ⟨no_dash, same⟩
    exact ⟨same, by simp, head.2 no_dash⟩

theorem setsKey_iff : SetsKey key token ↔ (flag? token).map (·.1) = some key := by
  simp only [SetsKey, ← flag?_eq_some_iff, Option.map_eq_some_iff, Prod.exists]
  constructor
  · rintro ⟨value, found⟩
    exact ⟨key, value, found, rfl⟩
  · rintro ⟨_, value, found, rfl⟩
    exact ⟨value, found⟩

instance (key token : String) : Decidable (SetsKey key token) := decidable_of_iff _ setsKey_iff.symm

theorem Sets.unique {other : String} (sets : Sets key value token) (again : Sets key other token) : value = other := by
  have same := (flag?_eq_some_iff.2 sets).symm.trans (flag?_eq_some_iff.2 again)
  cases same
  rfl

private theorem flag?_of_ineffective (ineffective : Ineffective token) : flag? token = none := by
  cases found : flag? token with
  | none => rfl
  | some e =>
    obtain ⟨_, spelled⟩ := flag?_eq_some_iff.1 found
    exfalso
    rcases ineffective with no_dash | no_equals
    · rcases spelled with rfl | ⟨_, rfl⟩
      · simp at no_dash
      · simp at no_dash
    · rcases spelled with rfl | ⟨_, rfl⟩
      · simp at no_equals
      · simp at no_equals

end Tokens

section Last

variable {words : List String} {key value token : String}

private theorem flags_concat_none (none : flag? token = none) : flags (words ++ [token]) = flags words := by
  rw [flags, flags, List.filterMap_append, List.filterMap_cons_none none, List.filterMap_nil, List.append_nil]

private theorem flags_concat_some (found : flag? token = some (key, value)) :
    flags (words ++ [token]) = (flags words).insert key value := by
  rw [flags, flags, List.filterMap_append, List.filterMap_cons_some found, List.filterMap_nil, Table.ofList_concat]

private theorem lastSets_nil : ¬ LastSets [] key value := by
  rintro ⟨before, token, after, split, _⟩
  simp at split

private theorem lastSets_concat : LastSets (words ++ [token]) key value ↔
    Sets key value token ∨ ((∀ other, ¬ Sets key other token) ∧ LastSets words key value) := by
  constructor
  · rintro ⟨before, setter, after, split, sets, none⟩
    rcases List.eq_nil_or_concat after with rfl | ⟨front, last, rfl⟩
    · -- the token itself sets the flag
      obtain ⟨_, same⟩ := List.append_inj' split rfl
      cases same
      exact .inl sets
    · rw [List.concat_eq_append, ← List.cons_append, ← List.append_assoc] at split
      obtain ⟨rest, same⟩ := List.append_inj' split rfl
      cases same
      refine .inr ⟨none token (by simp), before, setter, front, rest, sets, ?_⟩
      intro later member
      exact none later (by simp [member])
  · rintro (sets | ⟨not_here, before, setter, after, rfl, sets, none⟩)
    · exact ⟨words, token, [], rfl, sets, by simp⟩
    · refine ⟨before, setter, after ++ [token], by simp, sets, ?_⟩
      intro later member
      rcases List.mem_append.1 member with old | new
      · exact none later old
      · rw [List.mem_singleton.1 new]
        exact not_here

/-- The value of a flag is what the last token that sets it says. -/
theorem get?_flags : (flags words).get? key = some value ↔ LastSets words key value := by
  induction words using List.reverseRecOn with
  | nil =>
    constructor
    · intro found
      cases found
    · intro last
      exact absurd last lastSets_nil
  | append_singleton words token ih =>
    rw [lastSets_concat]
    cases found : flag? token with
    | none =>
      have not_here (other : String) : ¬ Sets key other token := by
        intro sets
        rw [flag?_eq_some_iff.2 sets] at found
        cases found
      rw [flags_concat_none found, ih]
      simp [not_here]
    | some e =>
      have sets := flag?_eq_some_iff.1 found
      rw [flags_concat_some found, Table.get?_insert]
      by_cases same : key = e.1
      · subst same
        rw [if_pos rfl, Option.some_inj]
        constructor
        · rintro rfl
          exact .inl sets
        · rintro (again | ⟨not_here, _⟩)
          · exact sets.unique again
          · exact absurd sets (not_here _)
      · have not_here (other : String) : ¬ Sets key other token := by
          intro again
          have one := found.symm.trans (flag?_eq_some_iff.2 again)
          cases one
          exact same rfl
        rw [if_neg same, ih]
        simp [not_here]

private theorem flags_skip (none : flag? token = none) (before after : List String) :
    flags (before ++ token :: after) = flags (before ++ after) := by
  rw [flags, flags, List.filterMap_append, List.filterMap_cons_none none, ← List.filterMap_append]

/-- Only the tokens that set a flag say what its value is, in the order in which they stand. -/
theorem lastSets_iff_filter : LastSets words key value ↔
    ∃ token, (words.filter (SetsKey key ·)).getLast? = some token ∧ Sets key value token := by
  induction words using List.reverseRecOn with
  | nil => simp [lastSets_nil]
  | append_singleton words token ih =>
    rw [lastSets_concat, ih, List.filter_append]
    by_cases here : SetsKey key token
    · obtain ⟨other, sets⟩ := here
      simp [SetsKey]
      grind
    · have not_here (other : String) : ¬ Sets key other token := fun sets => here ⟨other, sets⟩
      simp [here, not_here]

private theorem lastSets_iff_lastSpells (is_key : IsFlagKey key) :
    LastSets words key value ↔ LastSpells words key value := by
  simp only [LastSets, LastSpells, sets_iff_spells is_key]

theorem contains_flags_iff : (flags words).contains key = true ↔ ∃ token ∈ words, SetsKey key token := by
  simp only [Table.contains_iff, get?_flags, lastSets_iff_filter]
  constructor
  · rintro ⟨value, token, last, _⟩
    have member := List.mem_filter.1 (List.mem_of_getLast? last)
    exact ⟨token, member.1, by simpa using member.2⟩
  · rintro ⟨token, member, sets⟩
    have some_there : words.filter (SetsKey key ·) ≠ [] :=
      List.ne_nil_of_mem (List.mem_filter.2 ⟨member, by simpa using sets⟩)
    have last := List.getLast?_eq_some_getLast some_there
    have sets_last := (List.mem_filter.1 (List.mem_of_getLast? last)).2
    obtain ⟨value, sets_value⟩ := of_decide_eq_true sets_last
    exact ⟨value, _, last, sets_value⟩

/-- The flags of tokens are the same in any order in which the tokens that set one flag follow each other alike. -/
theorem flags_reordered {others : List String}
    (alike : ∀ key, words.filter (SetsKey key ·) = others.filter (SetsKey key ·)) : flags words = flags others := by
  refine Table.ext_get? fun key => Option.ext fun value => ?_
  rw [get?_flags, get?_flags, lastSets_iff_filter, lastSets_iff_filter, alike key]

end Last

/-- A flag is there if a token spells it out, with the value of the last one that does, and counts as absent if that
value is empty. Tokens that set no flag can be left out, and tokens that set different flags can change their order. -/
theorem flags_last_wins :
    (∀ words key, IsFlagKey key →
      ((flags words).contains key = true ↔ ∃ token ∈ words, ∃ value, Spells key value token) ∧
        ∀ value, (flags words).get? key = some value ↔ LastSpells words key value) ∧
      (∀ token before after, Ineffective token → flags (before ++ token :: after) = flags (before ++ after)) ∧
      (∀ (p : Parsed) words key, IsFlagKey key → p.flags = flags words → LastSpells words key "" →
        p.flag key = none) ∧
      ∀ words others : List String,
        (∀ key, words.filter (SetsKey key ·) = others.filter (SetsKey key ·)) → flags words = flags others := by
  refine ⟨?_, ?_, ?_, fun words others => flags_reordered⟩
  · intro words key is_key
    constructor
    · simp only [contains_flags_iff, SetsKey, sets_iff_spells is_key]
    · intro value
      rw [get?_flags, lastSets_iff_lastSpells is_key]
  · intro token before after ineffective
    exact flags_skip (flag?_of_ineffective ineffective) before after
  · intro p words key is_key given last
    have empty : p.flags.get? key = some "" := by
      rw [given, get?_flags]
      exact (lastSets_iff_lastSpells is_key).2 last
    simp [Parsed.flag, empty]

/-- A flag that is set twice, at last to nothing, beside another one and a stray word. -/
theorem emptied_flag_absent :
    (flags ["--id=a=-b", "stray", "-id="]).get? "id" = some "" ∧
      (⟨.clusterAdd, "", flags ["--id=a=-b", "-id="]⟩ : Parsed).flag "id" = none ∧
      flags ["--id=a=-b", "stray", "-id="] = flags ["--id=a=-b", "-id="] ∧
      flags ["--id=a=-b", "-listen=c", "-id="] = flags ["-listen=c", "--id=a=-b", "-id="] := by
  obtain ⟨values, skip, absent, reordered⟩ := flags_last_wins
  have is_key : IsFlagKey "id" := ⟨by decide, by decide⟩
  refine ⟨?_, ?_, skip "stray" ["--id=a=-b"] ["-id="] (.inl (by decide)), reordered _ _ ?_⟩
  · exact ((values _ "id" is_key).2 "").2 ⟨["--id=a=-b", "stray"], "-id=", [], rfl, .inr (by decide), by simp⟩
  · exact absent _ _ "id" is_key rfl ⟨["--id=a=-b"], "-id=", [], rfl, .inr (by decide), by simp⟩
  · intro key
    have first : flag? "--id=a=-b" = some ("id", "a=-b") := by decide
    have second : flag? "-listen=c" = some ("listen", "c") := by decide
    by_cases same : "id" = key
    · subst same
      simp [List.filter_cons, setsKey_iff, first, second]
    · simp [List.filter_cons, setsKey_iff, first, same]

end ClusterRegister.Line
