import ClusterRegister.Console.Session
import ClusterRegister.Proofs.Tokens

/-!
# Regrouping

A command that is given as separate words is read from the line that they are joined to. As long as every word closes
the quoted spans that it opens, and the line has no other blanks at its ends than gaps, its tokens are those of its
words one after the other, so it makes no difference which of them stand in one word (`words_regroup`).
-/

namespace ClusterRegister.Line

open ClusterRegister.Console ClusterRegister.Text

/-- Words that close the quoted spans that they open, and whose line has no other blanks at its ends than gaps. -/
structure Regroupable (words : List String) : Prop where
  balanced : ∀ word ∈ words, word.toList.countP isQuote % 2 = 0
  leading : ∀ c ∈ (" ".intercalate words).toList.takeWhile isBlank, isGap c = true
  trailing : ∀ c ∈ (" ".intercalate words).toList.reverse.takeWhile isBlank, isGap c = true

section Ends

variable {gaps cs rest : List Char}

private theorem tokensFrom_leading (all : ∀ c ∈ gaps, isGap c = true) :
    tokensFrom false [] (gaps ++ rest) = tokensFrom false [] rest := by
  induction gaps with
  | nil => rfl
  | cons gap gaps ih =>
    rw [List.cons_append, tokensFrom_gap (all gap (.head _)), finished_nil, List.nil_append]
    exact ih fun c later => all c (.tail _ later)

/-- Gaps after a text end its last token, if they are outside quoted spans. -/
theorem tokensFrom_trailing (even : cs.countP isQuote % 2 = 0) (all : ∀ c ∈ gaps, isGap c = true) :
    tokensFrom false [] (cs ++ gaps) = tokensFrom false [] cs := by
  cases gaps with
  | nil => rw [List.append_nil]
  | cons gap gaps =>
    have outside : (cs.countP isQuote + false.toNat) % 2 = 0 := even
    have nothing : tokensFrom false [] gaps = tokensFrom false [] [] := by
      rw [← List.append_nil gaps, tokensFrom_leading fun c later => all c (.tail _ later)]
    rw [tokensFrom_split outside (all gap (.head _)), nothing]
    exact List.append_nil _

private theorem blanks_trimStart (cs : List Char) : cs.takeWhile isBlank ++ trimStart cs = cs :=
  List.takeWhile_append_dropWhile

private theorem trimEnd_blanks (cs : List Char) : trimEnd cs ++ (cs.reverse.takeWhile isBlank).reverse = cs := by
  rw [trimEnd, ← List.reverse_append, List.takeWhile_append_dropWhile, List.reverse_reverse]

/-- The blanks at the end of a text are there as well before its leading blanks are taken off. -/
theorem trailing_of_trimStart {c : Char} (member : c ∈ (trimStart cs).reverse.takeWhile isBlank) :
    c ∈ cs.reverse.takeWhile isBlank := by
  rw [← blanks_trimStart cs, List.reverse_append, List.takeWhile_append]
  split
  · exact List.mem_append_left _ ((List.takeWhile_prefix isBlank).subset member)
  · exact member

/-- A text without the blanks around it has the same tokens, if these blanks are gaps outside quoted spans. -/
theorem tokensFrom_trim (even : cs.countP isQuote % 2 = 0) (leading : ∀ c ∈ cs.takeWhile isBlank, isGap c = true)
    (trailing : ∀ c ∈ cs.reverse.takeWhile isBlank, isGap c = true) :
    tokensFrom false [] (trim cs) = tokensFrom false [] cs := by
  have after : ∀ c ∈ ((trimStart cs).reverse.takeWhile isBlank).reverse, isGap c = true := by
    intro c member
    exact trailing c (trailing_of_trimStart (List.mem_reverse.1 member))
  have no_quotes : ((trimStart cs).reverse.takeWhile isBlank).reverse.countP isQuote = 0 := by
    rw [List.countP_eq_zero]
    intro c member
    simp [not_quote_of_gap (after c member)]
  have closed : (trim cs).countP isQuote % 2 = 0 := by
    rw [← countP_trimStart, ← trimEnd_blanks (trimStart cs), List.countP_append, no_quotes] at even
    exact even
  calc tokensFrom false [] (trim cs)
      = tokensFrom false [] (trim cs ++ ((trimStart cs).reverse.takeWhile isBlank).reverse) :=
        (tokensFrom_trailing closed after).symm
    _ = tokensFrom false [] (trimStart cs) := by rw [trim, trimEnd_blanks]
    _ = tokensFrom false [] (cs.takeWhile isBlank ++ trimStart cs) := (tokensFrom_leading leading).symm
    _ = tokensFrom false [] cs := by rw [blanks_trimStart]

end Ends

section Words

variable {words : List String}

private theorem toList_spaced (first second : String) :
    (first ++ " " ++ second).toList = first.toList ++ ' ' :: second.toList := by
  simp

/-- Words that close their quoted spans are cut where they are joined. -/
theorem tokens_intercalate (balanced : ∀ word ∈ words, word.toList.countP isQuote % 2 = 0) :
    (" ".intercalate words).toList.countP isQuote % 2 = 0 ∧ tokens (" ".intercalate words) = words.flatMap tokens := by
  induction words with
  | nil => exact ⟨rfl, rfl⟩
  | cons word words ih =>
    have even := balanced word (.head _)
    obtain ⟨closed, cut⟩ := ih fun other later => balanced other (.tail _ later)
    cases words with
    | nil =>
      rw [String.intercalate_singleton, List.flatMap_singleton]
      exact ⟨even, rfl⟩
    | cons next words =>
      have outside : (word.toList.countP isQuote + false.toNat) % 2 = 0 := even
      have space : ¬ isQuote ' ' = true := by decide
      rw [String.intercalate_cons_cons, List.flatMap_cons, ← cut, toList_spaced]
      constructor
      · rw [List.countP_append, List.countP_cons_of_neg space]
        omega
      · rw [tokens, toList_spaced]
        exact tokensFrom_split outside isGap_space

theorem Regroupable.tokens_line (regroupable : Regroupable words) :
    tokens (String.ofList (trim (" ".intercalate words).toList)) = words.flatMap tokens := by
  obtain ⟨closed, cut⟩ := tokens_intercalate regroupable.balanced
  rw [← cut, tokens, tokens, String.toList_ofList]
  exact tokensFrom_trim closed regroupable.leading regroupable.trailing

theorem Regroupable.ofWords (regroupable : Regroupable words) :
    Parsed.ofWords words = Parsed.ofTokens (words.flatMap tokens) := by
  rw [Parsed.ofWords, Parsed.ofLine, regroupable.tokens_line]

/-- A word without quote marks and gaps is its own token, unless it is empty. -/
theorem tokens_of_plain {word : String} (plain : Plain word.toList) :
    tokens word = if word = "" then [] else [word] := by
  by_cases empty : word = ""
  · subst empty
    rfl
  · have nonempty : word.toList ≠ [] := fun nothing => empty (String.toList_eq_nil_iff.1 nothing)
    have cut := tokensFrom_word plain nonempty endsToken_nil
    rw [List.append_nil, String.ofList_toList] at cut
    rw [if_neg empty]
    exact cut

private theorem flatMap_tokens_of_plain (plain : ∀ word ∈ words, Plain word.toList) :
    words.flatMap tokens = words.filter (· ≠ "") := by
  induction words with
  | nil => rfl
  | cons word words ih =>
    rw [List.flatMap_cons, tokens_of_plain (plain word (.head _)), ih fun other later => plain other (.tail _ later)]
    by_cases empty : word = ""
    · simp [empty]
    · simp [empty]

end Words

/-- The tokens of a command that is given as words are those of its words, one after the other; words without quote
marks and gaps are the tokens themselves, but for the empty ones. So words that have the same tokens in another
grouping are understood as the same line, and come to the same on any contents and any sink. -/
theorem words_regroup :
    (∀ words, Regroupable words →
      tokens (String.ofList (trim (" ".intercalate words).toList)) = words.flatMap tokens ∧
        Parsed.ofWords words = Parsed.ofTokens (words.flatMap tokens)) ∧
      (∀ words, Regroupable words → (∀ word ∈ words, Plain word.toList) →
        tokens (String.ofList (trim (" ".intercalate words).toList)) = words.filter (· ≠ "")) ∧
      ∀ words others, Regroupable words → Regroupable others → words.flatMap tokens = others.flatMap tokens →
        Parsed.ofWords words = Parsed.ofWords others ∧
          ∀ env desk, (oneShot env words).on desk = (oneShot env others).on desk := by
  refine ⟨?tokens, ?plain, ?grouping⟩
  case tokens =>
    intro words regroupable
    exact ⟨regroupable.tokens_line, regroupable.ofWords⟩
  case plain =>
    intro words regroupable plain
    rw [regroupable.tokens_line, flatMap_tokens_of_plain plain]
  case grouping =>
    intro words others regroupable regroupable' same
    have line : Parsed.ofWords words = Parsed.ofWords others := by
      rw [regroupable.ofWords, regroupable'.ofWords, same]
    refine ⟨line, fun env desk => ?_⟩
    rw [oneShot, oneShot, line]

/-- A name with a space is quoted in two ways, once in a word of its own and once in a word with all the others. -/
theorem quoted_name_regrouped :
    Parsed.ofWords ["cluster", "", "add", "--id='a b'"] = Parsed.ofWords [" cluster\tadd --id=\"a b\" "] ∧
      ∀ env desk, (oneShot env ["cluster", "", "add", "--id='a b'"]).on desk =
        (oneShot env [" cluster\tadd --id=\"a b\" "]).on desk := by
  obtain ⟨_, _, grouping⟩ := words_regroup
  refine grouping _ _ ⟨by decide, ?_, ?_⟩ ⟨by decide, ?_, ?_⟩ (by decide) <;> exact List.all_eq_true.1 (by decide)

end ClusterRegister.Line
