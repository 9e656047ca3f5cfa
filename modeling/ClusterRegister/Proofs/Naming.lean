import ClusterRegister.Proofs.Tokens

/-!
# Names in lines

Any name that has no quote mark can be written into a line between two of them: as the id of a cluster and as the value
of a flag it is read back as it is (`readsBack_quoted`).
-/

namespace ClusterRegister.Line

open ClusterRegister.Text

/-- A name between two quote marks. -/
def quoted (mark : Char) (name : String) : String := String.ofList (mark :: (name.toList ++ [mark]))

/-- Names that are read as a keyword where the id of a cluster could stand. -/
def Reserved (name : String) : Prop := asciiLower name ∈ ["add", "list", "show"]

instance (name : String) : Decidable (Reserved name) := inferInstanceAs (Decidable (_ ∈ _))

/-- The shapes of the lines that add a record. -/
def Shape.adds : Shape → Bool
  | .clusterAdd => true
  | .hostAdd => true
  | .instanceAdd => true
  | _ => false

/-- A text that a flag can have as its key, whether one dash or two stand before it. -/
structure IsKey (key : String) : Prop where
  plain : Plain key.toList
  no_equals : '=' ∉ key.toList
  no_dash : key.toList.head? ≠ some '-'

/-- What lines are understood as that have a name between two quote marks. -/
structure ReadsBack (mark : Char) (name : String) : Prop where
  clusterShow : Parsed.ofLine ("cluster show " ++ quoted mark name) = .addressed .clusterShow name
  hostList : ¬ Reserved name →
    Parsed.ofLine ("cluster " ++ quoted mark name ++ " host list") = .addressed .hostList name
  instanceList : ¬ Reserved name →
    Parsed.ofLine ("cluster " ++ quoted mark name ++ " instance list") = .addressed .instanceList name
  hostAdd : ¬ Reserved name → ∀ text, ∃ flags,
    Parsed.ofLine ("cluster " ++ quoted mark name ++ " host add " ++ text) = ⟨.hostAdd, name, flags⟩
  instanceAdd : ¬ Reserved name → ∀ text, ∃ flags,
    Parsed.ofLine ("cluster " ++ quoted mark name ++ " instance add " ++ text) = ⟨.instanceAdd, name, flags⟩
  flag : ∀ front dashes key, (dashes = "-" ∨ dashes = "--") → IsKey key → front.toList.countP isQuote % 2 = 0 →
    let p := Parsed.ofLine (front ++ " " ++ dashes ++ key ++ "=" ++ quoted mark name)
    p.shape.adds = true → p.flag key = some name

private theorem ofLine_eq {line : String} {cs : List Char} (text : line.toList = cs) :
    Parsed.ofLine line = .ofTokens (tokensFrom false [] (trim cs)) := by
  rw [Parsed.ofLine, tokens, String.toList_ofList, text]

private theorem toList_quoted (mark : Char) (name : String) :
    (quoted mark name).toList = mark :: (name.toList ++ [mark]) :=
  String.toList_ofList

private theorem solid_of_quote {mark : Char} (quote : isQuote mark = true) : isBlank mark = false := by
  cases blank : isBlank mark with
  | false => rfl
  | true =>
    rw [not_quote_of_blank blank] at quote
    cases quote

/-- Text that trimming leaves alone. -/
def Solid (cs : List Char) : Prop := ∀ c ∈ cs, isBlank c = false

instance (cs : List Char) : Decidable (Solid cs) :=
  decidable_of_iff ((cs.all fun c => !isBlank c) = true) (by simp [Solid])

/-- A word that can stand anywhere in a line. -/
structure IsWord (word : String) : Prop where
  nonempty : word.toList ≠ []
  plain : Plain word.toList
  solid : Solid word.toList

namespace IsWord

variable {word : String} (is_word : IsWord word)

include is_word

private theorem tokensFrom_ends {rest : List Char} (ends : EndsToken rest) :
    tokensFrom false [] (word.toList ++ rest) = word :: tokensFrom false [] rest := by
  rw [tokensFrom_word is_word.plain is_word.nonempty ends, String.ofList_toList]

private theorem tokensFrom_space (rest : List Char) :
    tokensFrom false [] (word.toList ++ ' ' :: rest) = word :: tokensFrom false [] rest := by
  rw [is_word.tokensFrom_ends (endsToken_space rest), tokensFrom_gap isGap_space]
  rfl

/-- Trimming a line takes nothing away up to its last word. -/
theorem trimEnd_append (cs rest : List Char) :
    trimEnd (cs ++ (word.toList ++ rest)) = cs ++ (word.toList ++ trimEnd rest) := by
  rcases List.eq_nil_or_concat word.toList with nothing | ⟨front, last, split⟩
  · exact absurd nothing is_word.nonempty
  · rw [List.concat_eq_append] at split
    have solid : isBlank last = false := is_word.solid last (by simp [split])
    have kept := trimEnd_of_solid (cs ++ front) solid rest
    simpa only [split, List.append_assoc, List.singleton_append] using kept

end IsWord

private theorem isWord_cluster : IsWord "cluster" := ⟨by decide, by decide, by decide⟩

private theorem isWord_host : IsWord "host" := ⟨by decide, by decide, by decide⟩

private theorem isWord_instance : IsWord "instance" := ⟨by decide, by decide, by decide⟩

section Names

variable {mark : Char} {name : String}

theorem ofTokens_scoped (free : ¬ Reserved name) (words : List String) :
    Parsed.ofTokens ("cluster" :: name :: words) = .ofScope name words := by
  have cluster : Parsed.ofTokens ("cluster" :: name :: words) = .ofClusterWords (name :: words) := rfl
  simp only [Reserved, List.mem_cons, List.not_mem_nil, or_false, not_or] at free
  obtain ⟨not_add, not_list, not_show⟩ := free
  rw [cluster, Parsed.ofClusterWords.eq_def]
  simp only [if_neg not_add, if_neg not_list, if_neg not_show]

private theorem toList_ne_nil (nonempty : name ≠ "") : name.toList ≠ [] :=
  fun nothing => nonempty (String.toList_eq_nil_iff.1 nothing)

variable (quote : isQuote mark = true) (nonempty : name ≠ "") (unquoted : Unquoted name.toList)

include quote nonempty unquoted

private theorem tokensFrom_quoted_name {rest : List Char} (ends : EndsToken rest) :
    tokensFrom false [] (mark :: (name.toList ++ mark :: rest)) = name :: tokensFrom false [] rest := by
  rw [tokensFrom_name quote unquoted (toList_ne_nil nonempty) ends, String.ofList_toList]

private theorem ofLine_clusterShow :
    Parsed.ofLine ("cluster show " ++ quoted mark name) = .addressed .clusterShow name := by
  let line := "cluster".toList ++ ' ' :: ("show".toList ++ ' ' :: mark :: (name.toList ++ [mark]))
  have text : ("cluster show " ++ quoted mark name).toList = line := by
    rw [String.toList_append, toList_quoted]
    rfl
  have trimmed : trim line = line :=
    trimEnd_of_solid ("cluster show ".toList ++ mark :: name.toList) (solid_of_quote quote) []
  have is_show : IsWord "show" := ⟨by decide, by decide, by decide⟩
  have words : tokensFrom false [] line = ["cluster", "show", name] := by
    rw [isWord_cluster.tokensFrom_space, is_show.tokensFrom_space,
      tokensFrom_quoted_name quote nonempty unquoted endsToken_nil]
    rfl
  rw [ofLine_eq text, trimmed, words]
  rfl

/-- The tokens of a line that goes on after a scope and a verb. -/
theorem ofLine_scoped {scope verb line : String} {rest : List Char} (is_scope : IsWord scope) (is_verb : IsWord verb)
    (ends : EndsToken rest)
    (text : line.toList = "cluster".toList ++
      ' ' :: mark :: (name.toList ++ mark :: ' ' :: (scope.toList ++ ' ' :: (verb.toList ++ rest)))) :
    Parsed.ofLine line = .ofTokens ("cluster" :: name :: scope :: verb :: tokensFrom false [] (trimEnd rest)) := by
  have start (cs : List Char) : trim ("cluster".toList ++ cs) = trimEnd ("cluster".toList ++ cs) := rfl
  have trimmed := is_verb.trimEnd_append
    ("cluster".toList ++ ' ' :: mark :: (name.toList ++ mark :: ' ' :: (scope.toList ++ [' ']))) rest
  simp only [List.append_assoc, List.cons_append, List.nil_append] at trimmed
  rw [ofLine_eq text, start, trimmed, isWord_cluster.tokensFrom_space,
    tokensFrom_quoted_name quote nonempty unquoted (endsToken_space _), tokensFrom_gap isGap_space,
    finished_nil, List.nil_append, is_scope.tokensFrom_space, is_verb.tokensFrom_ends ends.trimEnd]

private theorem ofLine_list {scope tail : String} (is_scope : IsWord scope)
    (words : tail.toList = ' ' :: (scope.toList ++ ' ' :: ("list".toList ++ []))) (free : ¬ Reserved name) :
    Parsed.ofLine ("cluster " ++ quoted mark name ++ tail) = .ofScope name [scope, "list"] := by
  have is_list : IsWord "list" := ⟨by decide, by decide, by decide⟩
  have text : ("cluster " ++ quoted mark name ++ tail).toList = "cluster".toList ++
      ' ' :: mark :: (name.toList ++ mark :: ' ' :: (scope.toList ++ ' ' :: ("list".toList ++ []))) := by
    simp [toList_quoted, words]
  rw [ofLine_scoped quote nonempty unquoted is_scope is_list endsToken_nil text]
  exact ofTokens_scoped free _

private theorem ofLine_add {scope tail : String} (is_scope : IsWord scope)
    (words : tail.toList = ' ' :: (scope.toList ++ ' ' :: ("add".toList ++ [' ']))) (free : ¬ Reserved name)
    (more : String) :
    ∃ rest, Parsed.ofLine ("cluster " ++ quoted mark name ++ tail ++ more) =
      .ofScope name (scope :: "add" :: rest) := by
  have is_add : IsWord "add" := ⟨by decide, by decide, by decide⟩
  have text : ("cluster " ++ quoted mark name ++ tail ++ more).toList = "cluster".toList ++
      ' ' :: mark :: (name.toList ++ mark :: ' ' :: (scope.toList ++ ' ' :: ("add".toList ++ ' ' :: more.toList))) := by
    simp [toList_quoted, words]
  rw [ofLine_scoped quote nonempty unquoted is_scope is_add (endsToken_space more.toList) text]
  exact ⟨_, ofTokens_scoped free _⟩

end Names

/-- A line that adds a record has its flags from the words after an `add`. -/
def FlagsFollowAdd (words : List String) (p : Parsed) : Prop :=
  p.shape.adds = true →
    ∃ before verb rest, words = before ++ verb :: rest ∧ asciiLower verb = "add" ∧ p.flags = flags rest

namespace FlagsFollowAdd

variable {words : List String} {p : Parsed}

private theorem of_other (other : p.shape.adds = false) : FlagsFollowAdd words p := by
  intro adds
  rw [other] at adds
  cases adds

theorem here {verb : String} (adding : asciiLower verb = "add") (shape : Shape) (id : String) :
    FlagsFollowAdd (verb :: words) ⟨shape, id, flags words⟩ := fun _ => ⟨[], verb, words, rfl, adding, rfl⟩

theorem later {word : String} (follow : FlagsFollowAdd words p) : FlagsFollowAdd (word :: words) p := by
  intro adds
  obtain ⟨before, verb, rest, split, adding, same⟩ := follow adds
  exact ⟨word :: before, verb, rest, by rw [split, List.cons_append], adding, same⟩

theorem ofVerb (add : Shape) {list noVerb : Shape} (others : list.adds = false ∧ noVerb.adds = false) (id : String)
    (words : List String) : FlagsFollowAdd words (.ofVerb add list noVerb id words) := by
  obtain ⟨lists, neither⟩ := others
  cases words with
  | nil => exact of_other neither
  | cons verb rest =>
    rw [Parsed.ofVerb]
    split
    · next adding => exact here adding _ _
    · split
      · exact of_other lists
      · exact of_other neither

theorem ofScope (id : String) (words : List String) : FlagsFollowAdd words (.ofScope id words) := by
  cases words with
  | nil => exact of_other rfl
  | cons scope rest =>
    rw [Parsed.ofScope]
    split
    · exact later (ofVerb _ ⟨rfl, rfl⟩ _ _)
    · split
      · exact later (ofVerb _ ⟨rfl, rfl⟩ _ _)
      · exact of_other rfl

theorem ofClusterWords (words : List String) : FlagsFollowAdd words (.ofClusterWords words) := by
  cases words with
  | nil => exact of_other rfl
  | cons word rest =>
    rw [Parsed.ofClusterWords.eq_def]
    simp only
    split
    · next adding => exact here adding _ _
    · split
      · exact of_other rfl
      · split
        · cases rest with
          | nil => exact of_other rfl
          | cons id rest => exact of_other rfl
        · exact later (ofScope _ _)

theorem ofTokens (words : List String) : FlagsFollowAdd words (.ofTokens words) := by
  cases words with
  | nil => exact of_other rfl
  | cons word rest =>
    rw [Parsed.ofTokens]
    split
    · exact of_other rfl
    · split
      · exact of_other rfl
      · split
        · exact of_other rfl
        · split
          · exact later (ofClusterWords _)
          · exact of_other rfl

end FlagsFollowAdd

private theorem asciiLower_ne_add {token : String} (dash : token.toList.head? = some '-') :
    asciiLower token ≠ "add" := by
  intro adding
  obtain ⟨rest, split⟩ := List.head?_eq_some_iff.1 dash
  rw [asciiLower, split] at adding
  have letters := congrArg String.toList adding
  rw [String.toList_ofList] at letters
  cases letters

/-- The last token of a line that adds a record sets a flag, whatever flags come before it. -/
theorem flag_of_last {words : List String} {token key value : String} (dash : token.toList.head? = some '-')
    (found : flag? token = some (key, value)) (nonempty : value ≠ "")
    (adds : (Parsed.ofTokens (words ++ [token])).shape.adds = true) :
    (Parsed.ofTokens (words ++ [token])).flag key = some value := by
  obtain ⟨before, verb, rest, split, adding, same⟩ := FlagsFollowAdd.ofTokens _ adds
  refine Parsed.flag_eq_some_iff.2 ⟨?_, nonempty⟩
  rcases List.eq_nil_or_concat rest with nothing | ⟨front, last, more⟩
  -- the token would be the verb
  · rw [nothing] at split
    obtain ⟨_, final⟩ := List.append_inj' split rfl
    cases final
    exact absurd adding (asciiLower_ne_add dash)
  · rw [List.concat_eq_append] at more
    rw [more, ← List.cons_append, ← List.append_assoc] at split
    obtain ⟨_, final⟩ := List.append_inj' split rfl
    cases final
    have given : (front ++ [token]).filterMap flag? = front.filterMap flag? ++ [(key, value)] := by
      rw [List.filterMap_append, List.filterMap_cons_some found, List.filterMap_nil]
    rw [same, more, flags, given, Table.ofList_concat, Table.get?_insert_self]

private theorem flag?_of_key {dashes key : String} (dashed : dashes = "-" ∨ dashes = "--") (is_key : IsKey key)
    (value : String) :
    flag? (dashes ++ key ++ "=" ++ value) = some (key, value) := by
  have body : flagBody (dashes ++ key ++ "=" ++ value).toList = some (key.toList ++ '=' :: value.toList) := by
    simp only [String.toList_append, List.append_assoc]
    rcases dashed with rfl | rfl
    · have no_dash := is_key.no_dash
      cases start : key.toList with
      | nil => rfl
      | cons c rest =>
        rw [start] at no_dash
        have other : c ≠ '-' := fun same => no_dash (same ▸ rfl)
        exact flagBody.eq_3 _ (fun _ same => other (List.cons.inj same).1) (fun same => by cases same)
    · rfl
  rw [flag?, body, Option.bind_eq_bind, Option.bind_some, splitAtEquals_append is_key.no_equals]
  simp

section LastFlag

variable {mark : Char} {name : String} (quote : isQuote mark = true) (unquoted : Unquoted name.toList)

include quote

/-- Trimming takes nothing from a text that is in quotes at its end, if it does not start with a blank. -/
theorem trimEnd_quoted (name : String) (cs : List Char) :
    trimEnd (cs ++ (quoted mark name).toList) = cs ++ (quoted mark name).toList := by
  have kept := trimEnd_of_solid (cs ++ mark :: name.toList) (solid_of_quote quote) []
  rw [toList_quoted]
  simpa only [List.append_assoc, List.cons_append, trimEnd_nil] using kept

private theorem trim_flag (name : String) (front : List Char) {start : Char} (solid : isBlank start = false)
    (rest : List Char) :
    trim (front ++ ' ' :: start :: (rest ++ (quoted mark name).toList)) =
        trimStart front ++ ' ' :: start :: (rest ++ (quoted mark name).toList) ∨
      trim (front ++ ' ' :: start :: (rest ++ (quoted mark name).toList)) =
        start :: (rest ++ (quoted mark name).toList) := by
  have space : isBlank ' ' = true := by decide
  rw [trim, trimStart, List.dropWhile_append]
  by_cases nothing : (front.dropWhile isBlank).isEmpty = true
  · rw [if_pos nothing, List.dropWhile_cons_of_pos space, List.dropWhile_cons_of_neg (by simp [solid])]
    exact .inr (trimEnd_quoted quote name (start :: rest))
  · rw [if_neg nothing]
    have kept := trimEnd_quoted quote name (trimStart front ++ ' ' :: start :: rest)
    simp only [List.append_assoc, List.cons_append] at kept
    exact .inl kept

include unquoted

private theorem tokensFrom_flag {cs : List Char} (plain : Plain cs) (nonempty : cs ≠ []) :
    tokensFrom false [] (cs ++ (quoted mark name).toList) = [String.ofList (cs ++ name.toList)] := by
  have whole : name.toList.reverse ++ (cs.reverse ++ []) = (cs ++ name.toList).reverse := by
    rw [List.append_nil, List.reverse_append]
  rw [tokensFrom_plain plain, toList_quoted, tokensFrom_quoted quote unquoted, whole, tokensFrom,
    finished_reverse (by simp [nonempty])]

/-- A flag whose value is in quotes is the last token of a line that ends with it, unless it starts inside a quoted
span. -/
theorem ofLine_flag {front dashes key : String} (even : front.toList.countP isQuote % 2 = 0)
    (dashed : dashes = "-" ∨ dashes = "--") (is_key : IsKey key) :
    ∃ words, Parsed.ofLine (front ++ " " ++ dashes ++ key ++ "=" ++ quoted mark name) =
      .ofTokens (words ++ [dashes ++ key ++ "=" ++ name]) := by
  have plain : Plain (dashes ++ key ++ "=").toList := by
    simp only [String.toList_append]
    refine .append (.append ?_ is_key.plain) (by decide)
    rcases dashed with rfl | rfl <;> decide
  obtain ⟨rest, start⟩ : ∃ rest, (dashes ++ key ++ "=").toList = '-' :: rest := by
    simp only [String.toList_append]
    rcases dashed with rfl | rfl
    · exact ⟨_, rfl⟩
    · exact ⟨_, rfl⟩
  have text : (front ++ " " ++ dashes ++ key ++ "=" ++ quoted mark name).toList =
      front.toList ++ ' ' :: '-' :: (rest ++ (quoted mark name).toList) := by
    have whole : front ++ " " ++ dashes ++ key ++ "=" ++ quoted mark name =
        front ++ " " ++ (dashes ++ key ++ "=") ++ quoted mark name := by simp only [String.append_assoc]
    rw [whole, String.toList_append, String.toList_append, String.toList_append, start]
    simp
  have token : tokensFrom false [] ('-' :: (rest ++ (quoted mark name).toList)) = [dashes ++ key ++ "=" ++ name] := by
    have joined : dashes ++ key ++ "=" ++ name = String.ofList ((dashes ++ key ++ "=").toList ++ name.toList) := by
      rw [← String.toList_append, String.ofList_toList]
    rw [joined, ← List.cons_append, ← start]
    exact tokensFrom_flag quote unquoted plain (by rw [start]; exact List.cons_ne_nil _ _)
  have solid : isBlank '-' = false := by decide
  rw [ofLine_eq text]
  rcases trim_flag quote name front.toList solid rest with whole | alone
  · have outside : ((trimStart front.toList).countP isQuote + false.toNat) % 2 = 0 := by
      rw [countP_trimStart]
      exact even
    rw [whole, tokensFrom_split outside isGap_space, token]
    exact ⟨_, rfl⟩
  · rw [alone, token]
    exact ⟨[], rfl⟩

end LastFlag

/-- A name without quote marks that is not empty is read back from between quote marks, wherever it can stand. -/
theorem readsBack_quoted {mark : Char} {name : String} (quote : isQuote mark = true) (nonempty : name ≠ "")
    (unquoted : Unquoted name.toList) : ReadsBack mark name where
  clusterShow := ofLine_clusterShow quote nonempty unquoted
  hostList free := ofLine_list quote nonempty unquoted isWord_host rfl free
  instanceList free := ofLine_list quote nonempty unquoted isWord_instance rfl free
  hostAdd free text := by
    have words : " host add ".toList = ' ' :: ("host".toList ++ ' ' :: ("add".toList ++ [' '])) := rfl
    obtain ⟨rest, added⟩ := ofLine_add quote nonempty unquoted isWord_host words free text
    exact ⟨flags rest, added⟩
  instanceAdd free text := by
    have words : " instance add ".toList = ' ' :: ("instance".toList ++ ' ' :: ("add".toList ++ [' '])) := rfl
    obtain ⟨rest, added⟩ := ofLine_add quote nonempty unquoted isWord_instance words free text
    exact ⟨flags rest, added⟩
  flag front dashes key dashed is_key even := by
    obtain ⟨words, understood⟩ := ofLine_flag quote unquoted even dashed is_key
    intro p adds
    have same : p = .ofTokens (words ++ [dashes ++ key ++ "=" ++ name]) := understood
    rw [same] at adds ⊢
    refine flag_of_last ?_ (flag?_of_key dashed is_key name) nonempty adds
    rcases dashed with rfl | rfl <;> simp

end ClusterRegister.Line
