import ClusterRegister.Line.Parsed
import ClusterRegister.Proofs.TableLaws

/-!
# Laws of tokens

How a line that is put together from parts is cut: words between gaps and what stands between two quote marks are its
tokens as they are, and a gap outside quoted spans cuts it in two. No quote mark gets into a token, so none gets into
what a line is understood as (`withoutQuotes_ofLine`).
-/

namespace ClusterRegister.Line

open ClusterRegister.Text

/-- Text without quote marks. -/
def Unquoted (cs : List Char) : Prop := ∀ c ∈ cs, isQuote c = false

instance (cs : List Char) : Decidable (Unquoted cs) :=
  decidable_of_iff ((cs.all fun c => !isQuote c) = true) (by simp [Unquoted])

/-- Text that stays in one piece outside quoted spans. -/
def Plain (cs : List Char) : Prop := ∀ c ∈ cs, isQuote c = false ∧ isGap c = false

instance (cs : List Char) : Decidable (Plain cs) :=
  decidable_of_iff ((cs.all fun c => !isQuote c && !isGap c) = true) (by simp [Plain])

/-- What can follow a token: nothing, or a gap. -/
def EndsToken : List Char → Prop
  | [] => True
  | c :: _ => isGap c = true

theorem endsToken_nil : EndsToken [] := trivial

theorem isGap_space : isGap ' ' = true := by decide

theorem endsToken_space (rest : List Char) : EndsToken (' ' :: rest) := isGap_space

theorem not_quote_of_gap {c : Char} (gap : isGap c = true) : isQuote c = false := by
  rw [isGap, Bool.or_eq_true, decide_eq_true_iff, decide_eq_true_iff] at gap
  rcases gap with rfl | rfl <;> decide

theorem Plain.append {cs ds : List Char} (first : Plain cs) (later : Plain ds) : Plain (cs ++ ds) := by
  intro c member
  rcases List.mem_append.1 member with here | there
  · exact first c here
  · exact later c there

section Cutting

variable {word cs rest : List Char} {mark : Char}

private theorem tokensFrom_mark (inQuotes : Bool) (quote : isQuote mark = true) :
    tokensFrom inQuotes word (mark :: rest) = tokensFrom (!inQuotes) word rest := by
  rw [tokensFrom, if_pos quote]

theorem finished_nil : finished [] = [] := rfl

theorem tokensFrom_gap {gap : Char} (is_gap : isGap gap = true) :
    tokensFrom false word (gap :: rest) = finished word ++ tokensFrom false [] rest := by
  rw [tokensFrom, if_neg (by simp [not_quote_of_gap is_gap]), if_pos (by simp [is_gap])]

theorem tokensFrom_plain (plain : Plain cs) :
    tokensFrom false word (cs ++ rest) = tokensFrom false (cs.reverse ++ word) rest := by
  induction cs generalizing word with
  | nil => rfl
  | cons c cs ih =>
    obtain ⟨no_quote, no_gap⟩ := plain c (.head _)
    rw [List.cons_append, tokensFrom, if_neg (by simp [no_quote]), if_neg (by simp [no_gap]),
      ih fun d later => plain d (.tail _ later), List.reverse_cons, List.append_assoc, List.singleton_append]

/-- Inside a quoted span only quote marks do not get into the token. -/
theorem tokensFrom_span (unquoted : Unquoted cs) :
    tokensFrom true word (cs ++ rest) = tokensFrom true (cs.reverse ++ word) rest := by
  induction cs generalizing word with
  | nil => rfl
  | cons c cs ih =>
    have no_quote := unquoted c (.head _)
    rw [List.cons_append, tokensFrom, if_neg (by simp [no_quote]), if_neg (by simp),
      ih fun d later => unquoted d (.tail _ later), List.reverse_cons, List.append_assoc, List.singleton_append]

/-- A quoted span gets into the token without its marks. -/
theorem tokensFrom_quoted (quote : isQuote mark = true) (unquoted : Unquoted cs) :
    tokensFrom false word (mark :: (cs ++ mark :: rest)) = tokensFrom false (cs.reverse ++ word) rest := by
  rw [tokensFrom_mark false quote, Bool.not_false, tokensFrom_span unquoted, tokensFrom_mark true quote, Bool.not_true]

theorem finished_reverse (nonempty : cs ≠ []) : finished cs.reverse = [String.ofList cs] := by
  rw [finished, if_neg (by simp [nonempty]), List.reverse_reverse]

private theorem tokensFrom_of_endsToken (ends : EndsToken rest) :
    tokensFrom false word rest = finished word ++ tokensFrom false [] rest := by
  cases rest with
  | nil => exact (List.append_nil _).symm
  | cons gap rest =>
    rw [tokensFrom_gap ends, tokensFrom_gap ends]
    rfl

theorem tokensFrom_word (plain : Plain cs) (nonempty : cs ≠ []) (ends : EndsToken rest) :
    tokensFrom false [] (cs ++ rest) = String.ofList cs :: tokensFrom false [] rest := by
  rw [tokensFrom_plain plain, List.append_nil, tokensFrom_of_endsToken ends, finished_reverse nonempty,
    List.singleton_append]

theorem tokensFrom_name (quote : isQuote mark = true) (unquoted : Unquoted cs) (nonempty : cs ≠ [])
    (ends : EndsToken rest) :
    tokensFrom false [] (mark :: (cs ++ mark :: rest)) = String.ofList cs :: tokensFrom false [] rest := by
  rw [tokensFrom_quoted quote unquoted, List.append_nil, tokensFrom_of_endsToken ends, finished_reverse nonempty,
    List.singleton_append]

/-- A line is cut at a gap if it is outside quoted spans there, which the number of quote marks before it tells. -/
theorem tokensFrom_split {inQuotes : Bool} (even : (cs.countP isQuote + inQuotes.toNat) % 2 = 0) {gap : Char}
    (is_gap : isGap gap = true) :
    tokensFrom inQuotes word (cs ++ gap :: rest) = tokensFrom inQuotes word cs ++ tokensFrom false [] rest := by
  induction cs generalizing inQuotes word with
  | nil =>
    cases inQuotes with
    | false => exact tokensFrom_gap is_gap
    | true => cases even
  | cons c cs ih =>
    rw [List.cons_append, tokensFrom, tokensFrom]
    by_cases quote : isQuote c = true
    · rw [if_pos quote, if_pos quote]
      refine ih ?_
      rw [List.countP_cons_of_pos quote] at even
      cases inQuotes <;> simp at even ⊢ <;> omega
    · rw [if_neg quote, if_neg quote]
      rw [List.countP_cons_of_neg quote] at even
      by_cases cut : (isGap c && !inQuotes) = true
      · have outside : inQuotes = false := by simpa using (Bool.and_eq_true_iff.1 cut).2
        rw [outside] at even
        rw [if_pos cut, if_pos cut, ih even, List.append_assoc]
      · rw [if_neg cut, if_neg cut]
        exact ih even

private theorem chars_of_mem_finished {P : Char → Prop} (so_far : ∀ c ∈ word, P c) {token : String}
    (member : token ∈ finished word) : ∀ c ∈ token.toList, P c := by
  rw [finished] at member
  split at member
  · cases member
  · rw [List.mem_singleton.1 member, String.toList_ofList]
    exact fun c inside => so_far c (List.mem_reverse.1 inside)

/-- The characters of tokens are those of the line that are no quote marks. -/
theorem chars_of_mem_tokensFrom {P : Char → Prop} {inQuotes : Bool} (so_far : ∀ c ∈ word, P c)
    (kind : ∀ c ∈ cs, isQuote c = false → P c) {token : String} (member : token ∈ tokensFrom inQuotes word cs) :
    ∀ c ∈ token.toList, P c := by
  induction cs generalizing inQuotes word with
  | nil => exact chars_of_mem_finished so_far member
  | cons c cs ih =>
    have later : ∀ d ∈ cs, isQuote d = false → P d := fun d inside => kind d (.tail _ inside)
    rw [tokensFrom] at member
    by_cases quote : isQuote c = true
    · rw [if_pos quote] at member
      exact ih so_far later member
    · rw [if_neg quote] at member
      by_cases cut : (isGap c && !inQuotes) = true
      · rw [if_pos cut] at member
        rcases List.mem_append.1 member with here | there
        · exact chars_of_mem_finished so_far here
        · exact ih (fun d nowhere => by cases nowhere) later there
      · rw [if_neg cut] at member
        have longer : ∀ d ∈ c :: word, P d := by
          intro d inside
          rcases List.mem_cons.1 inside with rfl | before
          · exact kind d (.head _) (by simpa using quote)
          · exact so_far d before
        exact ih longer later member

end Cutting

private theorem chars_of_mem_tokens {P : Char → Prop} {line token : String}
    (kind : ∀ c ∈ line.toList, isQuote c = false → P c) (member : token ∈ tokens line) : ∀ c ∈ token.toList, P c :=
  chars_of_mem_tokensFrom (fun _ nowhere => by cases nowhere) kind member

example : tokens "cluster 'a b'\t\"c'd\"" = ["cluster", "a b", "cd"] := by decide

section Trimming

variable {cs rest : List Char} {c : Char}

theorem not_quote_of_blank (blank : isBlank c = true) : isQuote c = false := by
  cases quote : isQuote c with
  | false => rfl
  | true =>
    rw [isQuote, Bool.or_eq_true, decide_eq_true_iff, decide_eq_true_iff] at quote
    rcases quote with rfl | rfl <;> cases blank

/-- The quote marks of a text are those of the text without its leading blanks. -/
theorem countP_trimStart (cs : List Char) : (trimStart cs).countP isQuote = cs.countP isQuote := by
  induction cs with
  | nil => rfl
  | cons c cs ih =>
    by_cases blank : isBlank c = true
    · have no_quote : ¬ isQuote c = true := by simp [not_quote_of_blank blank]
      rw [List.countP_cons_of_neg no_quote, ← ih, trimStart, List.dropWhile_cons_of_pos blank, trimStart]
    · rw [trimStart, List.dropWhile_cons_of_neg blank]

theorem trimEnd_nil : trimEnd [] = [] := rfl

theorem trimEnd_of_solid (cs : List Char) (solid : isBlank c = false) (rest : List Char) :
    trimEnd (cs ++ c :: rest) = cs ++ c :: trimEnd rest := by
  have kept : (c :: cs.reverse).dropWhile isBlank = c :: cs.reverse := List.dropWhile_cons_of_neg (by simp [solid])
  simp only [trimEnd, List.reverse_append, List.reverse_cons, List.append_assoc, List.singleton_append,
    List.dropWhile_append, kept]
  cases (rest.reverse.dropWhile isBlank) with
  | nil => simp
  | cons d ds => simp

theorem EndsToken.trimEnd (ends : EndsToken rest) : EndsToken (Text.trimEnd rest) := by
  have first : Text.trimEnd rest <+: rest := by
    have suffix := List.reverse_prefix.2 (List.dropWhile_suffix (l := rest.reverse) isBlank)
    rwa [List.reverse_reverse] at suffix
  obtain ⟨more, whole⟩ := first
  cases kept : Text.trimEnd rest with
  | nil => trivial
  | cons d ds =>
    rw [kept] at whole
    rw [← whole] at ends
    exact ends

end Trimming

private theorem mem_of_flagBody {cs body : List Char} (found : flagBody cs = some body) {c : Char} (member : c ∈ body) :
    c ∈ cs := by
  rw [flagBody.eq_def] at found
  split at found
  · cases found
    exact .tail _ (.tail _ member)
  · cases found
  · cases found
    exact .tail _ member
  · cases found

theorem eq_of_splitAtEquals {cs key value : List Char} (found : splitAtEquals cs = some (key, value)) :
    cs = key ++ '=' :: value := by
  induction cs generalizing key with
  | nil => cases found
  | cons c cs ih =>
    rw [splitAtEquals] at found
    by_cases equals : c = '='
    · rw [if_pos equals] at found
      cases found
      rw [equals, List.nil_append]
    · rw [if_neg equals] at found
      obtain ⟨⟨key', value'⟩, rest, same⟩ := Option.map_eq_some_iff.1 found
      cases same
      rw [ih rest, List.cons_append]

theorem splitAtEquals_append {key : List Char} (no_equals : '=' ∉ key) (value : List Char) :
    splitAtEquals (key ++ '=' :: value) = some (key, value) := by
  induction key with
  | nil => rfl
  | cons c key ih =>
    have other : c ≠ '=' := fun same => no_equals (same ▸ .head _)
    rw [List.cons_append, splitAtEquals, if_neg other, ih fun later => no_equals (.tail _ later), Option.map_some]

private theorem chars_of_flag? {P : Char → Prop} {token key value : String} (kind : ∀ c ∈ token.toList, P c)
    (found : flag? token = some (key, value)) : (∀ c ∈ key.toList, P c) ∧ ∀ c ∈ value.toList, P c := by
  obtain ⟨body, dashes, found⟩ := Option.bind_eq_some_iff.1 found
  obtain ⟨⟨key', value'⟩, split, found⟩ := Option.bind_eq_some_iff.1 found
  cases found
  have inside (c : Char) (member : c ∈ key' ++ '=' :: value') : P c :=
    kind c (mem_of_flagBody dashes (eq_of_splitAtEquals split ▸ member))
  rw [String.toList_ofList, String.toList_ofList]
  constructor
  · intro c member
    exact inside c (List.mem_append_left _ member)
  · intro c member
    exact inside c (List.mem_append_right _ (.tail _ member))

namespace Parsed

/-- A line that is understood with characters of a kind alone, in the id of its cluster and in its flags. -/
structure OfKind (P : Char → Prop) (p : Parsed) : Prop where
  clusterId : ∀ c ∈ p.clusterId.toList, P c
  flags : ∀ e ∈ p.flags.entries, (∀ c ∈ e.1.toList, P c) ∧ ∀ c ∈ e.2.toList, P c

section Kinds

variable {P : Char → Prop} {words : List String} {id : String}

private theorem ofKind_addressed (shape : Shape) (named : ∀ c ∈ id.toList, P c) : (addressed shape id).OfKind P :=
  ⟨named, fun e nowhere => by cases nowhere⟩

private theorem ofKind_bare (shape : Shape) : (bare shape).OfKind P :=
  ofKind_addressed shape fun c nowhere => by cases nowhere

private theorem ofKind_flags (shape : Shape) (named : ∀ c ∈ id.toList, P c)
    (kind : ∀ word ∈ words, ∀ c ∈ word.toList, P c) :
    OfKind P ⟨shape, id, Line.flags words⟩ := by
  refine ⟨named, fun e member => ?_⟩
  obtain ⟨token, inside, found⟩ := List.mem_filterMap.1 (Table.mem_of_mem_ofList member)
  exact chars_of_flag? (kind token inside) found

private theorem ofKind_ofVerb (add list noVerb : Shape) (named : ∀ c ∈ id.toList, P c)
    (kind : ∀ word ∈ words, ∀ c ∈ word.toList, P c) : (ofVerb add list noVerb id words).OfKind P := by
  cases words with
  | nil => exact ofKind_addressed _ named
  | cons verb rest =>
    rw [ofVerb]
    split
    · exact ofKind_flags _ named fun word later => kind word (.tail _ later)
    · split
      · exact ofKind_addressed _ named
      · exact ofKind_addressed _ named

private theorem ofKind_ofScope (named : ∀ c ∈ id.toList, P c) (kind : ∀ word ∈ words, ∀ c ∈ word.toList, P c) :
    (ofScope id words).OfKind P := by
  cases words with
  | nil => exact ofKind_addressed _ named
  | cons scope rest =>
    have later : ∀ word ∈ rest, ∀ c ∈ word.toList, P c := fun word later => kind word (.tail _ later)
    rw [ofScope]
    split
    · exact ofKind_ofVerb _ _ _ named later
    · split
      · exact ofKind_ofVerb _ _ _ named later
      · exact ofKind_addressed _ named

private theorem ofKind_ofClusterWords (kind : ∀ word ∈ words, ∀ c ∈ word.toList, P c) :
    (ofClusterWords words).OfKind P := by
  cases words with
  | nil => exact ofKind_bare _
  | cons word rest =>
    have later : ∀ word ∈ rest, ∀ c ∈ word.toList, P c := fun word later => kind word (.tail _ later)
    rw [ofClusterWords.eq_def]
    simp only
    split
    · exact ofKind_flags _ (fun c nowhere => by cases nowhere) later
    · split
      · exact ofKind_bare _
      · split
        · cases rest with
          | nil => exact ofKind_bare _
          | cons id rest => exact ofKind_addressed _ (later id (.head _))
        · exact ofKind_ofScope (kind word (.head _)) later

private theorem ofKind_ofTokens (kind : ∀ word ∈ words, ∀ c ∈ word.toList, P c) : (ofTokens words).OfKind P := by
  cases words with
  | nil => exact ofKind_bare _
  | cons word rest =>
    rw [ofTokens]
    split
    · exact ofKind_bare _
    · split
      · exact ofKind_bare _
      · split
        · exact ofKind_bare _
        · split
          · exact ofKind_ofClusterWords fun word later => kind word (.tail _ later)
          · exact ofKind_bare _

/-- What a line is understood as has the characters of the line without the blanks around it, but no quote marks. -/
theorem ofKind_ofLine {line : String} (kind : ∀ c ∈ trim line.toList, isQuote c = false → P c) :
    (ofLine line).OfKind P := by
  refine ofKind_ofTokens fun word member => chars_of_mem_tokens ?_ member
  rwa [String.toList_ofList]

end Kinds

/-- A line that is understood without quote marks: neither the id of its cluster nor a flag has one. -/
structure WithoutQuotes (p : Parsed) : Prop where
  clusterId : Unquoted p.clusterId.toList
  flags : ∀ e ∈ p.flags.entries, Unquoted e.1.toList ∧ Unquoted e.2.toList

theorem withoutQuotes_ofLine (line : String) : (ofLine line).WithoutQuotes := by
  have unquoted : (ofLine line).OfKind (isQuote · = false) := ofKind_ofLine fun c _ unquoted => unquoted
  exact ⟨unquoted.clusterId, unquoted.flags⟩

theorem flag_eq_some_iff {p : Parsed} {key value : String} :
    p.flag key = some value ↔ p.flags.get? key = some value ∧ value ≠ "" := by
  rw [flag]
  cases p.flags.get? key with
  | none => simp
  | some given =>
    by_cases empty : given = ""
    · simp only [if_pos empty]
      constructor
      · intro none
        cases none
      · rintro ⟨same, nonempty⟩
        cases same
        exact absurd empty nonempty
    · simp only [if_neg empty]
      constructor
      · intro same
        cases same
        exact ⟨rfl, empty⟩
      · exact And.left

/-- The value of a flag is not empty and has no quote mark. -/
theorem flag_value {line key value : String} (given : (ofLine line).flag key = some value) :
    value ≠ "" ∧ Unquoted value.toList := by
  obtain ⟨found, nonempty⟩ := flag_eq_some_iff.1 given
  exact ⟨nonempty, ((withoutQuotes_ofLine line).flags _ (Table.mem_entries_iff.2 found)).2⟩

end Parsed

end ClusterRegister.Line
