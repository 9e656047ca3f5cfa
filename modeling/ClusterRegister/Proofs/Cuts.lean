import ClusterRegister.Proofs.Tokens

/-!
# Cuts of a line

Where the tokens of a line begin and end, said of positions in the line: quote marks and separators are left out, what
stays is joined in its order, and two neighbours are in one token unless a separator stands between them. The tokens of
a line are the only ones of which this holds (`tokens_determined`).
-/

namespace ClusterRegister.Line

/-- The positions of a text that an odd number of quote marks come before. -/
def InQuotes (text : List Char) (i : Nat) : Prop := (text.take i).countP isQuote % 2 = 1

instance (text : List Char) (i : Nat) : Decidable (InQuotes text i) := inferInstanceAs (Decidable (_ = _))

/-- The positions of spaces and tabs outside quoted spans. -/
def Separates (text : List Char) (i : Nat) : Prop :=
  (text[i]? = some ' ' ∨ text[i]? = some '\t') ∧ ¬ InQuotes text i

instance (text : List Char) (i : Nat) : Decidable (Separates text i) := inferInstanceAs (Decidable (_ ∧ _))

/-- The characters of a part of a text, from a position on, that are neither quote marks nor separators; each with its
position. -/
def keptFrom (text : List Char) (start : Nat) (part : List Char) : List (Char × Nat) :=
  (part.zipIdx start).filter fun (c, i) => !isQuote c && !decide (Separates text i)

/-- The characters of a text that are neither quote marks nor separators, with their positions. -/
def kept (text : List Char) : List (Char × Nat) := keptFrom text 0 text

/-- Whether the characters `n` and `n + 1` of what words come to, when they are joined, are in the same word. -/
def Together {α : Type} : List (List α) → Nat → Prop
  | [], _ => False
  | word :: words, n => n + 1 < word.length ∨ (word.length ≤ n ∧ Together words (n - word.length))

/-- The tokens into which a text is cut, if `places` are the characters that they get: nothing is lost or added, and
neighbours are in one token exactly if no separator stands between them. -/
structure CutAt (text : List Char) (places : List (Char × Nat)) (tokens : List String) : Prop where
  joined : (tokens.map String.toList).flatten = places.map (·.1)
  nonempty : ∀ token ∈ tokens, token ≠ ""
  unquoted : ∀ token ∈ tokens, Unquoted token.toList
  together : ∀ n c p d q, places[n]? = some (c, p) → places[n + 1]? = some (d, q) →
    (Together (tokens.map String.toList) n ↔ ∀ i, p < i → i < q → ¬ Separates text i)

section Words

variable {α : Type} {words others : List (List α)} {n : Nat}

theorem Together.lt (together : Together words n) : n + 1 < words.flatten.length := by
  induction words generalizing n with
  | nil => exact together.elim
  | cons word words ih =>
    rw [List.flatten_cons, List.length_append]
    rcases together with inside | ⟨beyond, later⟩
    · omega
    · have := ih later
      omega

private theorem together_append : Together (words ++ others) n ↔
    Together words n ∨ (words.flatten.length ≤ n ∧ Together others (n - words.flatten.length)) := by
  induction words generalizing n with
  | nil => simp [Together]
  | cons word words ih =>
    have rest : n - word.length - words.flatten.length = n - (word.length + words.flatten.length) := by omega
    simp only [List.cons_append, Together, ih, List.flatten_cons, List.length_append, rest]
    constructor
    · rintro (first | ⟨beyond, mine | ⟨past, theirs⟩⟩)
      · exact .inl (.inl first)
      · exact .inl (.inr ⟨beyond, mine⟩)
      · exact .inr ⟨by omega, theirs⟩
    · rintro ((first | ⟨beyond, mine⟩) | ⟨past, theirs⟩)
      · exact .inl first
      · exact .inr ⟨beyond, .inl mine⟩
      · exact .inr ⟨by omega, .inr ⟨by omega, theirs⟩⟩

private theorem eq_nil_of_flatten (nonempty : ∀ word ∈ words, word ≠ []) (nothing : words.flatten = []) :
    words = [] := by
  rw [List.flatten_eq_nil_iff] at nothing
  exact List.eq_nil_iff_forall_not_mem.2 fun word member => nonempty word member (nothing word member)

/-- A word ends where the first two characters are that are not together. -/
theorem length_le_of_together {word other : List α} (nonempty : word ≠ [])
    (same : word ++ words.flatten = other ++ others.flatten)
    (together : ∀ n, n + 1 < (word ++ words.flatten).length →
      (Together (word :: words) n ↔ Together (other :: others) n)) : other.length ≤ word.length := by
  refine Nat.le_of_not_lt fun longer => ?_
  have positive : 0 < word.length := List.length_pos_iff.2 nonempty
  have lengths := congrArg List.length same
  rw [List.length_append, List.length_append] at lengths
  have inside : Together (other :: others) (word.length - 1) := .inl (by omega)
  rcases (together (word.length - 1) (by rw [List.length_append]; omega)).2 inside with first | ⟨beyond, _⟩
  · omega
  · omega

/-- Words that are not empty are determined by what they come to when they are joined, and by which neighbours in it
are in one word. -/
theorem eq_of_together (nonempty : ∀ word ∈ words, word ≠ []) (nonempty' : ∀ word ∈ others, word ≠ [])
    (same : words.flatten = others.flatten)
    (together : ∀ n, n + 1 < words.flatten.length → (Together words n ↔ Together others n)) : words = others := by
  induction words generalizing others with
  | nil => exact (eq_nil_of_flatten nonempty' same.symm).symm
  | cons word words ih =>
    cases others with
    | nil => exact eq_nil_of_flatten nonempty same
    | cons other others =>
      rw [List.flatten_cons, List.flatten_cons] at same
      rw [List.flatten_cons] at together
      have short := length_le_of_together (nonempty word (.head _)) same together
      have long := length_le_of_together (nonempty' other (.head _)) same.symm fun n inside =>
        (together n (same ▸ inside)).symm
      obtain ⟨first, rest⟩ := List.append_inj same (Nat.le_antisymm long short)
      subst first
      have shifted (n : Nat) (tail : List (List α)) : Together (word :: tail) (word.length + n) ↔ Together tail n := by
        rw [Together, Nat.add_sub_cancel_left]
        constructor
        · rintro (inside | ⟨_, later⟩)
          · omega
          · exact later
        · intro later
          exact .inr ⟨by omega, later⟩
      rw [ih (fun w later => nonempty w (.tail _ later)) (fun w later => nonempty' w (.tail _ later)) rest]
      intro n inside
      rw [← shifted n words, ← shifted n others]
      exact together _ (by rw [List.length_append]; omega)

end Words

section Places

variable {text : List Char} {places later : List (Char × Nat)} {tokens others : List String} {k : Nat}

theorem CutAt.length_eq (cut : CutAt text places tokens) :
    (tokens.map String.toList).flatten.length = places.length := by
  rw [cut.joined, List.length_map]

private theorem toList_ne_nil_of_mem_map (nonempty : ∀ token ∈ tokens, token ≠ "") :
    ∀ word ∈ tokens.map String.toList, word ≠ [] := by
  intro word member
  obtain ⟨token, inside, rfl⟩ := List.mem_map.1 member
  intro nothing
  exact nonempty token inside (String.toList_eq_nil_iff.1 nothing)

theorem CutAt.unique (one : CutAt text places tokens) (other : CutAt text places others) : tokens = others := by
  have words : tokens.map String.toList = others.map String.toList := by
    refine eq_of_together (toList_ne_nil_of_mem_map one.nonempty) (toList_ne_nil_of_mem_map other.nonempty)
      (one.joined.trans other.joined.symm) ?_
    intro n inside
    rw [one.length_eq] at inside
    have here := List.getElem?_eq_getElem (Nat.lt_of_succ_lt inside)
    have next := List.getElem?_eq_getElem inside
    rw [one.together n _ _ _ _ here next, other.together n _ _ _ _ here next]
  exact (List.map_inj_right fun _ _ => String.toList_inj.1).1 words

/-- Two parts of a text with a separator between them are cut apart from each other. -/
theorem CutAt.append (cut : CutAt text places tokens) (cut' : CutAt text later others) (separates : Separates text k)
    (before : ∀ e ∈ places, e.2 < k) (after : ∀ e ∈ later, k < e.2) :
    CutAt text (places ++ later) (tokens ++ others) where
  joined := by rw [List.map_append, List.flatten_append, cut.joined, cut'.joined, List.map_append]
  nonempty token member := (List.mem_append.1 member).elim (cut.nonempty token) (cut'.nonempty token)
  unquoted token member := (List.mem_append.1 member).elim (cut.unquoted token) (cut'.unquoted token)
  together n c p d q here next := by
    rw [List.map_append, together_append, cut.length_eq]
    by_cases inside : n + 1 < places.length
    · -- both are in the first part
      rw [List.getElem?_append_left (by omega)] at here
      rw [List.getElem?_append_left inside] at next
      rw [← cut.together n c p d q here next]
      constructor
      · rintro (mine | ⟨beyond, _⟩)
        · exact mine
        · omega
      · exact .inl
    · have not_mine : ¬ Together (tokens.map String.toList) n := by
        intro mine
        have := mine.lt
        rw [cut.length_eq] at this
        exact inside this
      rw [List.getElem?_append_right (by omega)] at next
      by_cases last : n < places.length
      · -- the separator stands between them
        rw [List.getElem?_append_left last] at here
        have low := before _ (List.mem_of_getElem? here)
        have high := after _ (List.mem_of_getElem? next)
        constructor
        · rintro (mine | ⟨beyond, _⟩)
          · exact absurd mine not_mine
          · omega
        · intro unbroken
          exact absurd separates (unbroken k low high)
      · -- both are in the second part
        rw [List.getElem?_append_right (by omega)] at here
        have step : n + 1 - places.length = n - places.length + 1 := by omega
        rw [step] at next
        rw [← cut'.together (n - places.length) c p d q here next]
        constructor
        · rintro (mine | ⟨_, theirs⟩)
          · exact absurd mine not_mine
          · exact theirs
        · intro theirs
          exact .inr ⟨by omega, theirs⟩

/-- What the current token has so far: characters before a position, none of them a quote mark, with no separator
after the first of them. -/
structure Run (text : List Char) (k : Nat) (places : List (Char × Nat)) : Prop where
  before : ∀ e ∈ places, e.2 < k
  unquoted : ∀ e ∈ places, isQuote e.1 = false
  unbroken : ∀ e ∈ places, ∀ i, e.2 < i → i < k → ¬ Separates text i

theorem Run.empty : Run text k [] := ⟨by simp, by simp, by simp⟩

theorem Run.next (run : Run text k places) (solid : ¬ Separates text k) : Run text (k + 1) places where
  before e member := Nat.lt_succ_of_lt (run.before e member)
  unquoted := run.unquoted
  unbroken e member i above below := by
    rcases Nat.lt_succ_iff_lt_or_eq.1 below with earlier | rfl
    · exact run.unbroken e member i above earlier
    · exact solid

theorem Run.push (run : Run text k places) (solid : ¬ Separates text k) {c : Char} (no_quote : isQuote c = false) :
    Run text (k + 1) (places ++ [(c, k)]) where
  before e member := by
    rcases List.mem_append.1 member with old | new
    · exact (run.next solid).before e old
    · simp [List.mem_singleton.1 new]
  unquoted e member := by
    rcases List.mem_append.1 member with old | new
    · exact run.unquoted e old
    · simp [List.mem_singleton.1 new, no_quote]
  unbroken e member i above below := by
    rcases List.mem_append.1 member with old | new
    · exact (run.next solid).unbroken e old i above below
    · rw [List.mem_singleton.1 new] at above
      omega

/-- The current token, when it is finished, is the only one with its characters. -/
theorem Run.cutAt (run : Run text k places) : CutAt text places (finished (places.map (·.1)).reverse) := by
  cases split : places with
  | nil => exact ⟨rfl, by simp [finished], by simp [finished], by simp⟩
  | cons e es =>
    have nonempty : places.map (·.1) ≠ [] := by simp [split]
    rw [← split, finished_reverse nonempty]
    refine ⟨by simp, ?_, ?_, ?_⟩
    · intro token member
      rw [List.mem_singleton.1 member]
      intro nothing
      exact nonempty (String.ofList_eq_empty_iff.1 nothing)
    · intro token member c inside
      rw [List.mem_singleton.1 member, String.toList_ofList] at inside
      obtain ⟨e, there, rfl⟩ := List.mem_map.1 inside
      exact run.unquoted e there
    · intro n c p d q here next
      have long : n + 1 < places.length := (List.getElem?_eq_some_iff.1 next).1
      have high := run.before _ (List.mem_of_getElem? next)
      constructor
      · intro _ i above below
        exact run.unbroken _ (List.mem_of_getElem? here) i above (Nat.lt_trans below high)
      · intro _
        exact .inl (by simpa using long)

end Places

section Lines

variable {text before cs : List Char} {c : Char}

private theorem not_inQuotes_zero (text : List Char) : ¬ InQuotes text 0 := by simp [InQuotes]

/-- A quote mark changes whether a position is in quotes, and nothing else does. -/
theorem inQuotes_next (split : text = before ++ c :: cs) :
    InQuotes text (before ++ [c]).length ↔ (InQuotes text before.length ↔ isQuote c = false) := by
  have here : text.take before.length = before := by rw [split, List.take_left]
  have next : text.take (before ++ [c]).length = before ++ [c] := by
    rw [split, List.append_cons before c cs, List.take_left]
  rw [InQuotes, InQuotes, here, next, List.countP_append]
  cases quote : isQuote c with
  | false => simp [quote]
  | true =>
    simp [quote]
    omega

theorem separates_iff (split : text = before ++ c :: cs) :
    Separates text before.length ↔ isGap c = true ∧ ¬ InQuotes text before.length := by
  have here : text[before.length]? = some c := by simp [split]
  simp [Separates, here, isGap]

private theorem keptFrom_cons (text : List Char) (k : Nat) (c : Char) (cs : List Char) :
    keptFrom text k (c :: cs) =
      if isQuote c = false ∧ ¬ Separates text k then (c, k) :: keptFrom text (k + 1) cs
      else keptFrom text (k + 1) cs := by
  rw [keptFrom, List.zipIdx_cons, List.filter_cons]
  simp [keptFrom]

private theorem le_of_mem_keptFrom {k : Nat} {e : Char × Nat} (member : e ∈ keptFrom text k cs) : k ≤ e.2 :=
  (List.mem_zipIdx (List.mem_filter.1 member).1).1

/-- From any position on, the rest of a line is cut into the tokens that it has there, of which the first one begins
with what the current token has so far. -/
theorem cutAt_tokensFrom {inQuotes : Bool} {run : List (Char × Nat)} (split : text = before ++ cs)
    (inside : InQuotes text before.length ↔ inQuotes = true) (unbroken : Run text before.length run) :
    CutAt text (run ++ keptFrom text before.length cs) (tokensFrom inQuotes (run.map (·.1)).reverse cs) := by
  -- the text is fixed, and what has been read of it grows
  induction cs generalizing before inQuotes run with
  | nil =>
    rw [keptFrom, List.zipIdx_nil, List.filter_nil, List.append_nil]
    exact unbroken.cutAt
  | cons c cs ih =>
    have longer : text = (before ++ [c]) ++ cs := by rw [split, List.append_assoc, List.singleton_append]
    have length : (before ++ [c]).length = before.length + 1 := by simp
    have next := inQuotes_next split
    have separates := separates_iff split
    rw [tokensFrom, keptFrom_cons]
    by_cases quote : isQuote c = true
    · have no_gap : ¬ Separates text before.length := by
        rw [separates]
        rintro ⟨gap, _⟩
        rw [not_quote_of_gap gap] at quote
        cases quote
      rw [if_pos quote, if_neg (by simp [quote]), ← length]
      refine ih longer ?_ (length ▸ unbroken.next no_gap)
      rw [next, inside]
      cases inQuotes <;> simp [quote]
    · have no_quote : isQuote c = false := by simpa using quote
      rw [if_neg quote]
      by_cases cut : (isGap c && !inQuotes) = true
      · obtain ⟨gap, outside⟩ := Bool.and_eq_true_iff.1 cut
        have separator : Separates text before.length := by
          rw [separates, inside]
          exact ⟨gap, by simpa using outside⟩
        rw [if_pos cut, if_neg (by simp [separator])]
        have after : InQuotes text (before ++ [c]).length ↔ false = true := by
          rw [next]
          simp [no_quote, separator.2]
        have rest := ih longer after .empty
        rw [length] at rest
        exact unbroken.cutAt.append rest separator unbroken.before fun e later => le_of_mem_keptFrom later
      · have no_gap : ¬ Separates text before.length := by
          rw [separates, inside]
          simpa using cut
        rw [if_neg cut, if_pos ⟨no_quote, no_gap⟩]
        have same : InQuotes text (before ++ [c]).length ↔ inQuotes = true := by
          rw [next, inside]
          simp [no_quote]
        have grown := ih longer same (length ▸ unbroken.push no_gap no_quote)
        rw [length] at grown
        simpa using grown

theorem cutAt_tokens (line : String) : CutAt line.toList (kept line.toList) (tokens line) := by
  have start : InQuotes line.toList ([] : List Char).length ↔ false = true := by
    simp [not_inQuotes_zero]
  exact cutAt_tokensFrom rfl start .empty

end Lines

/-- The tokens of a line have its characters that are neither quote marks nor separators, are cut where a separator
stands and nowhere else, and are the only ones of this kind. A line that goes on after a space outside quoted spans has
the tokens of both parts. -/
theorem tokens_determined :
    (∀ line, CutAt line.toList (kept line.toList) (tokens line)) ∧
      (∀ line others, CutAt line.toList (kept line.toList) others → others = tokens line) ∧
      ∀ first second : String, first.toList.countP isQuote % 2 = 0 →
        tokens (first ++ " " ++ second) = tokens first ++ tokens second := by
  refine ⟨cutAt_tokens, ?_, ?_⟩
  · intro line others cut
    exact cut.unique (cutAt_tokens line)
  · intro first second even
    have text : (first ++ " " ++ second).toList = first.toList ++ ' ' :: second.toList := by simp
    have outside : (first.toList.countP isQuote + false.toNat) % 2 = 0 := even
    rw [tokens, text]
    exact tokensFrom_split outside isGap_space

/-- A line with a quoted space, and with a quoted tab where two quoted spans stand side by side. -/
theorem spaced_line_determined :
    (["a", "b c", "d\t"] = tokens "a 'b c' d\"\t\"''") ∧
      tokens ("a 'b c'" ++ " " ++ "d 'e") = ["a", "b c", "d", "e"] := by
  obtain ⟨cut, determined, joined⟩ := tokens_determined
  have same : tokens "a 'b c' d\"\t\"''" = ["a", "b c", "d\t"] := by decide
  constructor
  · exact determined _ _ (same ▸ cut "a 'b c' d\"\t\"''")
  · rw [joined "a 'b c'" "d 'e" (by decide)]
    decide

end ClusterRegister.Line
