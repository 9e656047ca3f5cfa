import ClusterRegister.Proofs.Cuts
import ClusterRegister.Proofs.FlagValues
import ClusterRegister.Proofs.Naming
import Mathlib.Data.List.Forall2

/-!
# Grammar of lines

The productions of operator lines, one for each shape, as what they ask of the tokens in their order. Exactly one of
them applies to the tokens of a line, and what it reads there is what the line is understood as
(`one_production_reads`).
-/

namespace ClusterRegister.Line

open ClusterRegister.Text

/-- Characters that are equal or the two cases of one letter of ASCII. -/
def SameLetter (c d : Char) : Prop :=
  c = d ∨ ∃ i < 26, (c.toNat = 'A'.toNat + i ∧ d.toNat = 'a'.toNat + i) ∨
    (c.toNat = 'a'.toNat + i ∧ d.toNat = 'A'.toNat + i)

/-- Words that differ in the case of letters of ASCII at most. -/
def SameWord (word other : String) : Prop := List.Forall₂ SameLetter word.toList other.toList

private theorem toNat_toLower (c : Char) :
    c.toLower.toNat = if 65 ≤ c.toNat ∧ c.toNat ≤ 90 then c.toNat + 32 else c.toNat := by
  have bounds : (c.val ≥ 'A'.val ∧ c.val ≤ 'Z'.val) ↔ (65 ≤ c.toNat ∧ c.toNat ≤ 90) := by
    simp [UInt32.le_iff_toNat_le, ← Char.toNat_val]
  by_cases upper : c.val ≥ 'A'.val ∧ c.val ≤ 'Z'.val
  · have lower : c.toLower.val = c.val + ('a'.val - 'A'.val) := congrArg Char.val (dif_pos upper)
    obtain ⟨_, below⟩ := bounds.1 upper
    have apart : ('a'.val - 'A'.val).toNat = 32 := by decide
    have sum := UInt32.toNat_add c.val ('a'.val - 'A'.val)
    rw [Char.toNat_val, apart, Nat.mod_eq_of_lt (by omega)] at sum
    rw [if_pos (bounds.1 upper), ← Char.toNat_val, lower, sum]
  · have same : c.toLower = c := dif_neg upper
    rw [if_neg fun within => upper (bounds.2 within), same]

theorem sameLetter_iff {c d : Char} : SameLetter c d ↔ c.toLower = d.toLower := by
  have codes : 'A'.toNat = 65 ∧ 'a'.toNat = 97 := by decide
  rw [SameLetter, codes.1, codes.2, ← Char.toNat_inj, ← Char.toNat_inj, toNat_toLower, toNat_toLower]
  constructor
  · rintro (same | ⟨i, small, upper | lower⟩)
    · rw [same]
    · rw [if_pos (by omega), if_neg (by omega)]
      omega
    · rw [if_neg (by omega), if_pos (by omega)]
      omega
  · intro same
    by_cases equal : c.toNat = d.toNat
    · exact .inl equal
    · refine .inr ?_
      split at same
      · split at same
        · omega
        · exact ⟨c.toNat - 65, by omega, .inl (by omega)⟩
      · split at same
        · exact ⟨c.toNat - 97, by omega, .inr (by omega)⟩
        · omega

theorem sameWord_iff {word other : String} : SameWord word other ↔ asciiLower word = asciiLower other := by
  have letters : SameLetter = fun c d => c.toLower = d.toLower := funext₂ fun c d => propext sameLetter_iff
  rw [asciiLower, asciiLower, String.ofList_inj, ← List.forall₂_eq_eq_eq, List.forall₂_map_left_iff,
    List.forall₂_map_right_iff, SameWord, letters]

theorem SameWord.symm {word other : String} (same : SameWord word other) : SameWord other word :=
  sameWord_iff.2 (sameWord_iff.1 same).symm

theorem SameWord.trans {word other third : String} (first : SameWord word other) (second : SameWord other third) :
    SameWord word third :=
  sameWord_iff.2 ((sameWord_iff.1 first).trans (sameWord_iff.1 second))

/-! ### Productions -/

/-- What a production asks of one token. -/
inductive Symbol
  /-- one of some keywords -/
  | keyword (words : List String)
  /-- the id of a cluster, which is none of some keywords -/
  | id (reserved : List String)
  /-- a token that is none of some keywords -/
  | other (words : List String)

/-- What a production asks of the tokens after those of its symbols. -/
inductive Tail
  /-- there are none -/
  | nothing
  /-- they are ignored, but do not start with one of some keywords -/
  | ignored (words : List String)
  /-- they may set flags -/
  | flags

structure Production where
  symbols : List Symbol
  tail : Tail

/-- The symbols of lines that name a cluster and a scope. -/
def inScope (scope : String) (symbols : List Symbol) : List Symbol :=
  .keyword ["cluster"] :: .id ["add", "list", "show"] :: .keyword [scope] :: symbols

/-- The production of each shape of lines. -/
def Shape.production : Shape → Production
  | .blank => ⟨[], .nothing⟩
  | .exit => ⟨[.keyword ["exit", "quit"]], .ignored []⟩
  | .help => ⟨[.keyword ["help"]], .ignored []⟩
  | .unknown => ⟨[.other ["exit", "quit", "help", "cluster"]], .ignored []⟩
  | .clusterAlone => ⟨[.keyword ["cluster"]], .nothing⟩
  | .clusterAdd => ⟨[.keyword ["cluster"], .keyword ["add"]], .flags⟩
  | .clusterList => ⟨[.keyword ["cluster"], .keyword ["list"]], .ignored []⟩
  | .clusterShow => ⟨[.keyword ["cluster"], .keyword ["show"], .id []], .ignored []⟩
  | .clusterShowNoId => ⟨[.keyword ["cluster"], .keyword ["show"]], .nothing⟩
  | .clusterNoScope => ⟨[.keyword ["cluster"], .id ["add", "list", "show"]], .nothing⟩
  | .hostAdd => ⟨inScope "host" [.keyword ["add"]], .flags⟩
  | .hostList => ⟨inScope "host" [.keyword ["list"]], .ignored []⟩
  | .hostNoVerb => ⟨inScope "host" [], .ignored ["add", "list"]⟩
  | .instanceAdd => ⟨inScope "instance" [.keyword ["add"]], .flags⟩
  | .instanceList => ⟨inScope "instance" [.keyword ["list"]], .ignored []⟩
  | .instanceNoVerb => ⟨inScope "instance" [], .ignored ["add", "list"]⟩
  | .unknownScope =>
    ⟨[.keyword ["cluster"], .id ["add", "list", "show"], .other ["host", "instance"]], .ignored []⟩

/-- What a production asks of the tokens after its symbols, and the flags that they give. -/
def Tail.Reads : Tail → List String → Flags → Prop
  | .nothing, rest, given => rest = [] ∧ given = .empty
  | .ignored words, rest, given =>
    (∀ token, rest.head? = some token → ∀ word ∈ words, ¬ SameWord token word) ∧ given = .empty
  | .flags, rest, given => ∀ key value, given.get? key = some value ↔ LastSets rest key value

/-- How symbols and a tail read tokens: the id is the token at its symbol, as it is, and empty without one. -/
inductive Reads (tail : Tail) : List Symbol → List String → String → Flags → Prop
  | tail {rest flags} : tail.Reads rest flags → Reads tail [] rest "" flags
  | keyword {symbols rest id flags} {words : List String} {token word : String} :
    word ∈ words → SameWord token word → Reads tail symbols rest id flags →
    Reads tail (.keyword words :: symbols) (token :: rest) id flags
  | id {symbols rest flags} {reserved : List String} {token : String} :
    (∀ word ∈ reserved, ¬ SameWord token word) → Reads tail symbols rest "" flags →
    Reads tail (.id reserved :: symbols) (token :: rest) token flags
  | other {symbols rest id flags} {words : List String} {token : String} :
    (∀ word ∈ words, ¬ SameWord token word) → Reads tail symbols rest id flags →
    Reads tail (.other words :: symbols) (token :: rest) id flags

/-- The production of a shape applies to tokens. -/
def Shape.Applies (shape : Shape) (tokens : List String) : Prop :=
  ∃ id flags, Reads shape.production.tail shape.production.symbols tokens id flags

/-- Tokens are read as a line by the production of its shape. -/
def Parsed.ReadFrom (tokens : List String) (p : Parsed) : Prop :=
  Reads p.shape.production.tail p.shape.production.symbols tokens p.clusterId p.flags

section Readings

variable {tail : Tail} {symbols : List Symbol} {words tokens : List String} {id : String} {flags : Flags}

private theorem reads_nil : Reads tail [] tokens id flags ↔ id = "" ∧ tail.Reads tokens flags := by
  constructor
  · rintro ⟨read⟩
    exact ⟨rfl, read⟩
  · rintro ⟨rfl, read⟩
    exact .tail read

private theorem reads_keyword : Reads tail (.keyword words :: symbols) tokens id flags ↔
    ∃ token rest, tokens = token :: rest ∧ (∃ word ∈ words, SameWord token word) ∧
      Reads tail symbols rest id flags := by
  constructor
  · intro read
    cases read with
    | keyword member same read => exact ⟨_, _, rfl, ⟨_, member, same⟩, read⟩
  · rintro ⟨token, rest, rfl, ⟨word, member, same⟩, read⟩
    exact .keyword member same read

private theorem reads_id : Reads tail (.id words :: symbols) tokens id flags ↔
    ∃ rest, tokens = id :: rest ∧ (∀ word ∈ words, ¬ SameWord id word) ∧ Reads tail symbols rest "" flags := by
  constructor
  · intro read
    cases read with
    | id free read => exact ⟨_, rfl, free, read⟩
  · rintro ⟨rest, rfl, free, read⟩
    exact .id free read

private theorem reads_other : Reads tail (.other words :: symbols) tokens id flags ↔
    ∃ token rest, tokens = token :: rest ∧ (∀ word ∈ words, ¬ SameWord token word) ∧
      Reads tail symbols rest id flags := by
  constructor
  · intro read
    cases read with
    | other free read => exact ⟨_, _, rfl, free, read⟩
  · rintro ⟨token, rest, rfl, free, read⟩
    exact .other free read

private theorem reads_inScope {scope : String} : Reads tail (inScope scope symbols) tokens id flags ↔
    ∃ first word rest, tokens = first :: id :: word :: rest ∧ SameWord first "cluster" ∧
      (∀ word ∈ ["add", "list", "show"], ¬ SameWord id word) ∧ SameWord word scope ∧
      Reads tail symbols rest "" flags := by
  simp only [inScope, reads_keyword, reads_id, List.mem_singleton, exists_eq_left]
  constructor
  · rintro ⟨first, _, rfl, cluster, _, rfl, free, word, rest, rfl, same, read⟩
    exact ⟨first, word, rest, rfl, cluster, free, same, read⟩
  · rintro ⟨first, word, rest, rfl, cluster, free, same, read⟩
    exact ⟨first, _, rfl, cluster, _, rfl, free, word, rest, rfl, same, read⟩

/-- Flags that have what the last tokens set are the flags of the tokens. -/
theorem flags_of_lastSets (given : ∀ key value, flags.get? key = some value ↔ LastSets tokens key value) :
    flags = Line.flags tokens :=
  Table.ext_get? fun key => Option.ext fun value => by rw [given, get?_flags]

end Readings

/-! ### One production for each line -/

section Lines

variable {tokens rest : List String} {token cluster id word : String}

theorem sameWord_lower (lower : asciiLower word = word) : SameWord token word ↔ asciiLower token = word := by
  rw [sameWord_iff, lower]

private theorem ofTokens_cluster (same : SameWord token "cluster") (rest : List String) :
    Parsed.ofTokens (token :: rest) = .ofClusterWords rest := by
  rw [sameWord_lower (by decide)] at same
  simp [Parsed.ofTokens, same]

private theorem ofTokens_id (same : SameWord token "cluster")
    (free : ∀ word ∈ ["add", "list", "show"], ¬ SameWord id word)
    (rest : List String) : Parsed.ofTokens (token :: id :: rest) = .ofScope id rest := by
  have unreserved : ¬ Reserved id := by
    intro reserved
    have lower : ∀ word ∈ ["add", "list", "show"], asciiLower word = word := by decide
    exact free _ reserved ((sameWord_lower (lower _ reserved)).2 rfl)
  rw [ofTokens_cluster same, ← ofTokens_scoped unreserved rest]
  rfl

private theorem ofScope_host (same : SameWord token "host") (id : String) (rest : List String) :
    Parsed.ofScope id (token :: rest) = .ofVerb .hostAdd .hostList .hostNoVerb id rest := by
  rw [sameWord_lower (by decide)] at same
  simp [Parsed.ofScope, same]

private theorem ofScope_instance (same : SameWord token "instance") (id : String) (rest : List String) :
    Parsed.ofScope id (token :: rest) = .ofVerb .instanceAdd .instanceList .instanceNoVerb id rest := by
  rw [sameWord_lower (by decide)] at same
  simp [Parsed.ofScope, same]

section Verbs

variable (add list noVerb : Shape) (id : String) {flags : Flags}

private theorem ofVerb_of_add (read : Reads .flags [.keyword ["add"]] tokens "" flags) :
    .ofVerb add list noVerb id tokens = (⟨add, id, flags⟩ : Parsed) := by
  simp (disch := decide) only [reads_keyword, reads_nil, Tail.Reads, List.mem_singleton, exists_eq_left,
    sameWord_lower] at read
  obtain ⟨verb, rest, rfl, adding, _, given⟩ := read
  rw [Parsed.ofVerb, if_pos adding, flags_of_lastSets given]

private theorem ofVerb_of_list (read : Reads (.ignored []) [.keyword ["list"]] tokens "" flags) :
    .ofVerb add list noVerb id tokens = (⟨list, id, flags⟩ : Parsed) := by
  simp (disch := decide) only [reads_keyword, reads_nil, Tail.Reads, List.mem_singleton, exists_eq_left,
    sameWord_lower] at read
  obtain ⟨verb, rest, rfl, listing, _, _, rfl⟩ := read
  simp [Parsed.ofVerb, listing, Parsed.addressed]

private theorem ofVerb_of_other (read : Reads (.ignored ["add", "list"]) [] tokens "" flags) :
    .ofVerb add list noVerb id tokens = (⟨noVerb, id, flags⟩ : Parsed) := by
  simp (disch := decide) only [reads_nil, Tail.Reads, List.mem_cons, List.not_mem_nil, or_false, forall_eq_or_imp,
    forall_eq, sameWord_lower] at read
  obtain ⟨_, other, rfl⟩ := read
  cases tokens with
  | nil => rfl
  | cons verb rest =>
    obtain ⟨not_add, not_list⟩ := other verb rfl
    rw [Parsed.ofVerb, if_neg not_add, if_neg not_list]
    rfl

end Verbs

/-- Whatever is read from tokens is what they are understood as. -/
theorem eq_ofTokens {p : Parsed} (read : p.ReadFrom tokens) : p = .ofTokens tokens := by
  obtain ⟨shape, id, flags⟩ := p
  rw [Parsed.ReadFrom] at read
  cases shape
  -- lines with a scope: what is left to read is the verb
  case hostAdd =>
    obtain ⟨first, word, rest, rfl, cluster, free, host, read⟩ := reads_inScope.1 read
    rw [ofTokens_id cluster free, ofScope_host host, ofVerb_of_add _ _ _ _ read]
  case hostList =>
    obtain ⟨first, word, rest, rfl, cluster, free, host, read⟩ := reads_inScope.1 read
    rw [ofTokens_id cluster free, ofScope_host host, ofVerb_of_list _ _ _ _ read]
  case hostNoVerb =>
    obtain ⟨first, word, rest, rfl, cluster, free, host, read⟩ := reads_inScope.1 read
    rw [ofTokens_id cluster free, ofScope_host host, ofVerb_of_other _ _ _ _ read]
  case instanceAdd =>
    obtain ⟨first, word, rest, rfl, cluster, free, inst, read⟩ := reads_inScope.1 read
    rw [ofTokens_id cluster free, ofScope_instance inst, ofVerb_of_add _ _ _ _ read]
  case instanceList =>
    obtain ⟨first, word, rest, rfl, cluster, free, inst, read⟩ := reads_inScope.1 read
    rw [ofTokens_id cluster free, ofScope_instance inst, ofVerb_of_list _ _ _ _ read]
  case instanceNoVerb =>
    obtain ⟨first, word, rest, rfl, cluster, free, inst, read⟩ := reads_inScope.1 read
    rw [ofTokens_id cluster free, ofScope_instance inst, ofVerb_of_other _ _ _ _ read]
  -- all other lines: what each production asks, token by token
  all_goals
    simp only [Shape.production, reads_nil, reads_keyword, reads_id, reads_other, Tail.Reads, List.mem_cons,
      List.not_mem_nil, or_false, exists_eq_or_imp, exists_eq_left] at read
  case blank =>
    obtain ⟨rfl, rfl, rfl⟩ := read
    rfl
  case exit =>
    simp (disch := decide) only [sameWord_lower] at read
    obtain ⟨token, rest, rfl, exit | quit, rfl, _, rfl⟩ := read
    · simp [Parsed.ofTokens, exit, Parsed.bare]
    · simp [Parsed.ofTokens, quit, Parsed.bare]
  case help =>
    simp (disch := decide) only [sameWord_lower] at read
    obtain ⟨token, rest, rfl, help, rfl, _, rfl⟩ := read
    simp [Parsed.ofTokens, help, Parsed.bare]
  case unknown =>
    simp (disch := decide) only [forall_eq_or_imp, forall_eq, sameWord_lower] at read
    obtain ⟨token, rest, rfl, ⟨not_exit, not_quit, not_help, not_cluster⟩, rfl, _, rfl⟩ := read
    simp [Parsed.ofTokens, not_exit, not_quit, not_help, not_cluster, Parsed.bare]
  case clusterAlone =>
    obtain ⟨token, rest, rfl, cluster, rfl, rfl, rfl⟩ := read
    rw [ofTokens_cluster cluster]
    rfl
  case clusterAdd =>
    obtain ⟨token, _, rfl, cluster, word, rest, rfl, add, rfl, given⟩ := read
    rw [sameWord_lower (by decide)] at add
    rw [ofTokens_cluster cluster, flags_of_lastSets given]
    simp [Parsed.ofClusterWords.eq_def, add]
  case clusterList =>
    obtain ⟨token, _, rfl, cluster, word, rest, rfl, list, rfl, _, rfl⟩ := read
    rw [sameWord_lower (by decide)] at list
    rw [ofTokens_cluster cluster]
    simp [Parsed.ofClusterWords.eq_def, list, Parsed.bare]
  case clusterShow =>
    obtain ⟨token, _, rfl, cluster, word, _, rfl, shown, rest, rfl, _, _, _, rfl⟩ := read
    rw [sameWord_lower (by decide)] at shown
    rw [ofTokens_cluster cluster]
    simp [Parsed.ofClusterWords, shown, Parsed.addressed]
  case clusterShowNoId =>
    obtain ⟨token, _, rfl, cluster, word, rest, rfl, shown, rfl, rfl, rfl⟩ := read
    rw [sameWord_lower (by decide)] at shown
    rw [ofTokens_cluster cluster]
    simp [Parsed.ofClusterWords, shown, Parsed.bare]
  case clusterNoScope =>
    obtain ⟨token, _, rfl, cluster, rest, rfl, free, _, rfl, rfl⟩ := read
    rw [ofTokens_id cluster (by simpa using free)]
    rfl
  case unknownScope =>
    obtain ⟨token, _, rfl, cluster, _, rfl, free, scope, rest, rfl, other, _, _, rfl⟩ := read
    simp (disch := decide) only [forall_eq_or_imp, forall_eq, sameWord_lower] at other
    rw [ofTokens_id cluster (by simpa using free)]
    simp [Parsed.ofScope, other, Parsed.addressed]

private theorem not_sameWord_of_ne {words : List String} (lower : ∀ word ∈ words, asciiLower word = word)
    (other : ∀ word ∈ words, asciiLower token ≠ word) : ∀ word ∈ words, ¬ SameWord token word :=
  fun word member same => other word member ((sameWord_lower (lower word member)).1 same)

private theorem readsRest_flags (rest : List String) : Tail.flags.Reads rest (Line.flags rest) := fun _ _ => get?_flags

private theorem readsRest_ignored (rest : List String) : (Tail.ignored []).Reads rest .empty := ⟨by simp, rfl⟩

private theorem readsRest_nothing : Tail.nothing.Reads [] .empty := ⟨rfl, rfl⟩

private theorem readFrom_of {shape : Shape} {symbols : List Symbol} {tail : Tail} {flags : Flags}
    (production : shape.production = ⟨symbols, tail⟩) (read : Reads tail symbols tokens id flags) :
    Parsed.ReadFrom tokens ⟨shape, id, flags⟩ := by
  rw [Parsed.ReadFrom, production]
  exact read

section Known

variable (first : SameWord cluster "cluster")

include first

private theorem readFrom_ofVerb {add list noVerb : Shape} {scope : String}
    (adds : add.production = ⟨inScope scope [.keyword ["add"]], .flags⟩)
    (lists : list.production = ⟨inScope scope [.keyword ["list"]], .ignored []⟩)
    (neither : noVerb.production = ⟨inScope scope [], .ignored ["add", "list"]⟩)
    (free : ∀ word ∈ ["add", "list", "show"], ¬ SameWord id word) (same : SameWord token scope)
    (rest : List String) : (Parsed.ofVerb add list noVerb id rest).ReadFrom (cluster :: id :: token :: rest) := by
  have up_to_scope {symbols : List Symbol} {tail : Tail} {flags : Flags} (read : Reads tail symbols rest "" flags) :
      Reads tail (inScope scope symbols) (cluster :: id :: token :: rest) id flags :=
    reads_inScope.2 ⟨_, _, _, rfl, first, free, same, read⟩
  cases rest with
  | nil => exact readFrom_of neither (up_to_scope (.tail ⟨by simp, rfl⟩))
  | cons verb rest =>
    rw [Parsed.ofVerb]
    by_cases adding : asciiLower verb = "add"
    · rw [if_pos adding]
      have add_word : SameWord verb "add" := (sameWord_lower (by decide)).2 adding
      exact readFrom_of adds (up_to_scope (.keyword (.head _) add_word (.tail (readsRest_flags rest))))
    · rw [if_neg adding]
      by_cases listing : asciiLower verb = "list"
      · rw [if_pos listing]
        have list_word : SameWord verb "list" := (sameWord_lower (by decide)).2 listing
        exact readFrom_of lists (up_to_scope (.keyword (.head _) list_word (.tail (readsRest_ignored rest))))
      · rw [if_neg listing]
        have other : ∀ word ∈ ["add", "list"], ¬ SameWord verb word :=
          not_sameWord_of_ne (by decide) (by simp [adding, listing])
        exact readFrom_of neither (up_to_scope (.tail ⟨by simpa using other, rfl⟩))

private theorem readFrom_ofScope (free : ∀ word ∈ ["add", "list", "show"], ¬ SameWord id word) (rest : List String) :
    (Parsed.ofScope id rest).ReadFrom (cluster :: id :: rest) := by
  cases rest with
  | nil => exact .keyword (.head _) first (.id free (.tail readsRest_nothing))
  | cons scope rest =>
    rw [Parsed.ofScope]
    by_cases host : asciiLower scope = "host"
    · rw [if_pos host]
      exact readFrom_ofVerb first rfl rfl rfl free ((sameWord_lower (by decide)).2 host) rest
    · rw [if_neg host]
      by_cases inst : asciiLower scope = "instance"
      · rw [if_pos inst]
        exact readFrom_ofVerb first rfl rfl rfl free ((sameWord_lower (by decide)).2 inst) rest
      · rw [if_neg inst]
        have other : ∀ word ∈ ["host", "instance"], ¬ SameWord scope word :=
          not_sameWord_of_ne (by decide) (by simp [host, inst])
        exact .keyword (.head _) first (.id free (.other other (.tail (readsRest_ignored rest))))

private theorem readFrom_ofClusterWords (rest : List String) :
    (Parsed.ofClusterWords rest).ReadFrom (cluster :: rest) := by
  cases rest with
  | nil => exact .keyword (.head _) first (.tail readsRest_nothing)
  | cons word rest =>
    rw [Parsed.ofClusterWords.eq_def]
    simp only
    by_cases adding : asciiLower word = "add"
    · rw [if_pos adding]
      have add_word : SameWord word "add" := (sameWord_lower (by decide)).2 adding
      exact .keyword (.head _) first (.keyword (.head _) add_word (.tail (readsRest_flags rest)))
    · rw [if_neg adding]
      by_cases listing : asciiLower word = "list"
      · rw [if_pos listing]
        have list_word : SameWord word "list" := (sameWord_lower (by decide)).2 listing
        exact .keyword (.head _) first (.keyword (.head _) list_word (.tail (readsRest_ignored rest)))
      · rw [if_neg listing]
        by_cases showing : asciiLower word = "show"
        · rw [if_pos showing]
          have show_word : SameWord word "show" := (sameWord_lower (by decide)).2 showing
          cases rest with
          | nil => exact .keyword (.head _) first (.keyword (.head _) show_word (.tail readsRest_nothing))
          | cons id rest =>
            exact .keyword (.head _) first
              (.keyword (.head _) show_word (.id (by simp) (.tail (readsRest_ignored rest))))
        · rw [if_neg showing]
          exact readFrom_ofScope first (not_sameWord_of_ne (by decide) (by simp [adding, listing, showing])) rest

end Known

/-- What tokens are understood as is read from them. -/
theorem readFrom_ofTokens (tokens : List String) : (Parsed.ofTokens tokens).ReadFrom tokens := by
  cases tokens with
  | nil => exact .tail readsRest_nothing
  | cons token rest =>
    rw [Parsed.ofTokens]
    by_cases exiting : asciiLower token = "exit"
    · rw [if_pos exiting]
      exact .keyword (.head _) ((sameWord_lower (by decide)).2 exiting) (.tail (readsRest_ignored rest))
    · rw [if_neg exiting]
      by_cases quitting : asciiLower token = "quit"
      · rw [if_pos quitting]
        exact .keyword (.tail _ (.head _)) ((sameWord_lower (by decide)).2 quitting) (.tail (readsRest_ignored rest))
      · rw [if_neg quitting]
        by_cases helping : asciiLower token = "help"
        · rw [if_pos helping]
          exact .keyword (.head _) ((sameWord_lower (by decide)).2 helping) (.tail (readsRest_ignored rest))
        · rw [if_neg helping]
          by_cases first : asciiLower token = "cluster"
          · rw [if_pos first]
            exact readFrom_ofClusterWords ((sameWord_lower (by decide)).2 first) rest
          · rw [if_neg first]
            have other : ∀ word ∈ ["exit", "quit", "help", "cluster"], ¬ SameWord token word :=
              not_sameWord_of_ne (by decide) (by simp [exiting, quitting, helping, first])
            exact .other other (.tail (readsRest_ignored rest))

theorem readFrom_iff {p : Parsed} : p.ReadFrom tokens ↔ p = .ofTokens tokens := by
  constructor
  · exact eq_ofTokens
  · rintro rfl
    exact readFrom_ofTokens tokens

theorem applies_iff {shape : Shape} : shape.Applies tokens ↔ shape = (Parsed.ofTokens tokens).shape := by
  constructor
  · rintro ⟨id, flags, read⟩
    exact congrArg Parsed.shape (eq_ofTokens (p := ⟨shape, id, flags⟩) read)
  · rintro rfl
    exact ⟨_, _, readFrom_ofTokens tokens⟩

end Lines

/-- The shapes of lines that name a cluster. -/
def Shape.named : List Shape :=
  [.clusterShow, .clusterNoScope, .hostAdd, .hostList, .hostNoVerb, .instanceAdd, .instanceList, .instanceNoVerb,
    .unknownScope]

section Parts

variable {tail : Tail} {symbols : List Symbol} {tokens : List String} {id : String} {flags : Flags}

theorem Reads.id_ne_empty_iff (read : Reads tail symbols tokens id flags) (nonempty : ∀ token ∈ tokens, token ≠ "") :
    id ≠ "" ↔ ∃ reserved, Symbol.id reserved ∈ symbols := by
  induction read with
  | tail _ => simp
  | keyword _ _ _ ih => simp [ih fun token later => nonempty token (.tail _ later)]
  | id _ _ _ => simp [nonempty _ (.head _)]
  | other _ _ ih => simp [ih fun token later => nonempty token (.tail _ later)]

theorem Reads.flags_eq_empty (read : Reads tail symbols tokens id flags) (none : tail ≠ .flags) : flags = .empty := by
  induction read with
  | tail rest =>
    cases tail with
    | nothing => exact rest.2
    | ignored words => exact rest.2
    | flags => exact absurd rfl none
  | keyword _ _ _ ih => exact ih
  | id _ _ ih => exact ih
  | other _ _ ih => exact ih

theorem mem_named_iff (shape : Shape) :
    shape ∈ Shape.named ↔ ∃ reserved, Symbol.id reserved ∈ shape.production.symbols := by
  cases shape <;> simp [Shape.named, Shape.production, inScope]

private theorem adds_of_tail (shape : Shape) (flags : shape.production.tail = .flags) : shape.adds = true := by
  cases shape <;> first | rfl | cases flags

/-- A reading depends on the tokens that it takes as keywords only up to the case of their letters. -/
theorem Reads.recased (read : Reads tail symbols tokens id flags) {others : List String}
    (length : tokens.length = others.length)
    (alike : ∀ (i : Nat) (token other : String), tokens[i]? = some token → others[i]? = some other →
      token = other ∨ ((∃ words, symbols[i]? = some (Symbol.keyword words)) ∧ SameWord token other)) :
    Reads tail symbols others id flags := by
  induction read generalizing others with
  | @tail rest flags reads =>
    have same : rest = others := by
      refine List.ext_getElem? fun i => ?_
      by_cases inside : i < rest.length
      · have here := List.getElem?_eq_getElem inside
        have there := List.getElem?_eq_getElem (length ▸ inside)
        rcases alike i _ _ here there with equal | ⟨⟨words, nowhere⟩, _⟩
        · rw [here, there, equal]
        · simp at nowhere
      · rw [List.getElem?_eq_none (by omega), List.getElem?_eq_none (by omega)]
    exact same ▸ .tail reads
  | @keyword symbols rest id flags words token word member same _ ih =>
    cases others with
    | nil => cases length
    | cons other others =>
      have read_rest := ih (Nat.succ.inj length) fun i => alike (i + 1)
      rcases alike 0 token other rfl rfl with rfl | ⟨_, recased⟩
      · exact .keyword member same read_rest
      · exact .keyword member (recased.symm.trans same) read_rest
  | @id symbols rest flags reserved token free _ ih =>
    cases others with
    | nil => cases length
    | cons other others =>
      have read_rest := ih (Nat.succ.inj length) fun i => alike (i + 1)
      rcases alike 0 token other rfl rfl with rfl | ⟨⟨words, nowhere⟩, _⟩
      · exact .id free read_rest
      · simp at nowhere
  | @other symbols rest id flags words token free _ ih =>
    cases others with
    | nil => cases length
    | cons other others =>
      have read_rest := ih (Nat.succ.inj length) fun i => alike (i + 1)
      rcases alike 0 token other rfl rfl with rfl | ⟨⟨words, nowhere⟩, _⟩
      · exact .other free read_rest
      · simp at nowhere

end Parts

/-! ### Lines that are understood alike -/

/-- The tokens of a line without the blanks around it. -/
def lineTokens (line : String) : List String := tokens (String.ofList (trim line.toList))

/-- The places of the tokens that are read as keywords by the production that applies. -/
def KeywordAt (tokens : List String) (i : Nat) : Prop :=
  ∃ shape : Shape, shape.Applies tokens ∧ ∃ words, shape.production.symbols[i]? = some (.keyword words)

/-- Tokens that differ from others in the case of keywords at most. -/
structure Recased (tokens others : List String) : Prop where
  length : tokens.length = others.length
  alike : ∀ i token other, tokens[i]? = some token → others[i]? = some other →
    token = other ∨ (KeywordAt tokens i ∧ SameWord token other)

theorem Recased.ofTokens_eq {tokens others : List String} (recased : Recased tokens others) :
    Parsed.ofTokens tokens = .ofTokens others := by
  have read := readFrom_ofTokens tokens
  refine eq_ofTokens (read.recased recased.length fun i token other here there => ?_)
  rcases recased.alike i token other here there with same | ⟨⟨shape, applies, words, keyword⟩, same⟩
  · exact .inl same
  · exact .inr ⟨⟨words, applies_iff.1 applies ▸ keyword⟩, same⟩

section Blanks

variable {front back : List Char}

private theorem trimStart_append (blank : front.all isBlank = true) (cs : List Char) :
    trimStart (front ++ cs) = trimStart cs :=
  List.dropWhile_append_of_pos (by simpa using blank)

private theorem trimEnd_append_blank (blank : back.all isBlank = true) (cs : List Char) :
    trimEnd (cs ++ back) = trimEnd cs := by
  rw [trimEnd, List.reverse_append, List.dropWhile_append_of_pos (by simpa using blank)]
  rfl

/-- Blanks around a text make no difference to what trimming leaves of it. -/
theorem trim_around (before : front.all isBlank = true) (after : back.all isBlank = true) (cs : List Char) :
    trim (front ++ cs ++ back) = trim cs := by
  have gone : trimStart back = [] := by
    rw [← List.append_nil back, trimStart_append after]
    rfl
  rw [List.append_assoc, trim, trimStart_append before, trim]
  by_cases nothing : trimStart cs = []
  · have all_gone : trimStart (cs ++ back) = [] := by
      rw [trimStart, List.dropWhile_append, if_pos (by simpa [trimStart] using nothing)]
      exact gone
    rw [all_gone, nothing]
  · have stays : trimStart (cs ++ back) = trimStart cs ++ back := by
      rw [trimStart, List.dropWhile_append, if_neg (by simpa [trimStart] using nothing)]
      rfl
    rw [stays, trimEnd_append_blank after]

end Blanks

/-- Exactly one production applies to the tokens of a line, and the line is understood as what it reads there. The id is
not empty just for lines that name a cluster, and flags are given by lines that add a record alone. Neither the case of
keywords nor blanks around a line make a difference. -/
theorem one_production_reads :
    (∀ line,
      (∃! shape : Shape, shape.Applies (lineTokens line)) ∧
        (∀ p : Parsed, p.ReadFrom (lineTokens line) ↔ p = .ofLine line) ∧
        ((Parsed.ofLine line).clusterId ≠ "" ↔ (Parsed.ofLine line).shape ∈ Shape.named) ∧
        ((Parsed.ofLine line).flags ≠ .empty → (Parsed.ofLine line).shape.adds = true)) ∧
      (∀ line other, Recased (lineTokens line) (lineTokens other) → Parsed.ofLine line = .ofLine other) ∧
      ∀ text front back front' back' : String,
        isBlankText front = true → isBlankText back = true → isBlankText front' = true → isBlankText back' = true →
          Parsed.ofLine (front ++ text ++ back) = .ofLine (front' ++ text ++ back') := by
  refine ⟨fun line => ?_, ?_, ?_⟩
  · have read : (Parsed.ofLine line).ReadFrom (lineTokens line) := readFrom_ofTokens _
    refine ⟨⟨_, applies_iff.2 rfl, fun shape => applies_iff.1⟩, fun p => readFrom_iff, ?_, ?_⟩
    · rw [mem_named_iff]
      exact read.id_ne_empty_iff (cutAt_tokens _).nonempty
    · intro given
      refine adds_of_tail _ ?_
      by_contra none
      exact given (read.flags_eq_empty none)
  · intro line other recased
    exact recased.ofTokens_eq
  · intro text front back front' back' blank blank_back blank' blank_back'
    simp only [Parsed.ofLine, String.toList_append]
    rw [trim_around blank blank_back, trim_around blank' blank_back']

/-- An id that is a keyword in capital letters is kept as it is, while the keywords around it may be written so or so;
and wide spaces around a line do not count. -/
theorem shouted_line_read_alike :
    Parsed.ofLine "CLUSTER HOST Host LIST --x=1" = .ofLine "cluster HOST hOST list --x=1" ∧
      Parsed.ofLine ("\u3000" ++ "cluster" ++ "\t") = .ofLine ("" ++ "cluster" ++ " \u2003") := by
  obtain ⟨_, keywords, blanks⟩ := one_production_reads
  refine ⟨keywords _ _ ⟨by decide, ?_⟩, blanks "cluster" _ _ _ _ (by decide) (by decide) (by decide) (by decide)⟩
  have words : lineTokens "CLUSTER HOST Host LIST --x=1" = ["CLUSTER", "HOST", "Host", "LIST", "--x=1"] := by decide
  have words' : lineTokens "cluster HOST hOST list --x=1" = ["cluster", "HOST", "hOST", "list", "--x=1"] := by decide
  have applies : Shape.hostList.Applies ["CLUSTER", "HOST", "Host", "LIST", "--x=1"] := applies_iff.2 (by decide)
  have keyword (i : Nat) (word : String) (there : Shape.hostList.production.symbols[i]? = some (.keyword [word])) :
      KeywordAt ["CLUSTER", "HOST", "Host", "LIST", "--x=1"] i := ⟨_, applies, _, there⟩
  rw [words, words']
  intro i token other here there
  match i with
  | 0 =>
    cases here
    cases there
    exact .inr ⟨keyword 0 "cluster" rfl, sameWord_iff.2 (by decide)⟩
  | 1 =>
    cases here
    cases there
    exact .inl rfl
  | 2 =>
    cases here
    cases there
    exact .inr ⟨keyword 2 "host" rfl, sameWord_iff.2 (by decide)⟩
  | 3 =>
    cases here
    cases there
    exact .inr ⟨keyword 3 "list" rfl, sameWord_iff.2 (by decide)⟩
  | 4 =>
    cases here
    cases there
    exact .inl rfl
  | i + 5 => simp at here

end ClusterRegister.Line
