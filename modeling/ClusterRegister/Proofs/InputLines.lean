import ClusterRegister.Console.Session

/-!
# Lines of an input

Which lines a session gets to read: those that its input is cut into at line feeds, up to the first one that
leaves the session. A line that is not ended counts only where the input is closed after it.
-/

namespace ClusterRegister.Console

open ClusterRegister.Line ClusterRegister.Text

/-- Bytes and the pieces they are cut into after each line feed. What follows the last one is a piece too,
unless nothing does. -/
inductive CutAtFeeds : Bytes → List Bytes → Prop
  | nothing : CutAtFeeds [] []
  | tail {piece : Bytes} : piece ≠ [] → 0x0A ∉ piece → CutAtFeeds piece [piece]
  | line {piece bs : Bytes} {ps : List Bytes} :
    0x0A ∉ piece → CutAtFeeds bs ps → CutAtFeeds (piece ++ 0x0A :: bs) ((piece ++ [0x0A]) :: ps)

private theorem pieces_tail {piece : Bytes} (nonempty : piece ≠ []) (unended : 0x0A ∉ piece) :
    pieces piece = [piece] := by
  induction piece with
  | nil => exact absurd rfl nonempty
  | cons b rest ih =>
    rw [pieces]
    cases rest with
    | nil => rfl
    | cons c rest =>
      have other : b ≠ 0x0A := fun feed => unended (feed ▸ .head _)
      rw [ih (List.cons_ne_nil c rest) fun member => unended (.tail _ member), consPiece, if_neg other]

theorem pieces_line {piece : Bytes} (unended : 0x0A ∉ piece) (bs : Bytes) :
    pieces (piece ++ 0x0A :: bs) = (piece ++ [0x0A]) :: pieces bs := by
  induction piece with
  | nil =>
    rw [List.nil_append, pieces]
    cases pieces bs with
    | nil => rfl
    | cons piece ps => rfl
  | cons b rest ih =>
    have other : b ≠ 0x0A := fun feed => unended (feed ▸ .head _)
    rw [List.cons_append, pieces, ih fun member => unended (.tail _ member), consPiece, if_neg other]
    rfl

private theorem cutAtFeeds_cons (b : UInt8) {bs : Bytes} {ps : List Bytes} (cut : CutAtFeeds bs ps) :
    CutAtFeeds (b :: bs) (consPiece b ps) := by
  by_cases feed : b = 0x0A
  · subst feed
    have first := CutAtFeeds.line (List.not_mem_nil (a := (0x0A : UInt8))) cut
    cases ps with
    | nil => exact first
    | cons piece ps => exact first
  · cases cut with
    | nothing => exact .tail (List.cons_ne_nil b []) (by simpa using fun same => feed same.symm)
    | tail nonempty unended =>
      rw [consPiece, if_neg feed]
      exact .tail (List.cons_ne_nil b bs) (List.not_mem_cons_of_ne_of_not_mem (Ne.symm feed) unended)
    | line unended cut =>
      rw [consPiece, if_neg feed]
      exact .line (List.not_mem_cons_of_ne_of_not_mem (Ne.symm feed) unended) cut

theorem cutAtFeeds_pieces (bs : Bytes) : CutAtFeeds bs (pieces bs) := by
  induction bs with
  | nil => exact .nothing
  | cons b bs ih => exact cutAtFeeds_cons b ih

example : pieces [0x61, 0x0A, 0x0A, 0x62] = [[0x61, 0x0A], [0x0A], [0x62]] := by decide

namespace CutAtFeeds

variable {bs : Bytes} {ps : List Bytes}

/-- There is only one way to cut bytes. -/
theorem eq_pieces (cut : CutAtFeeds bs ps) : ps = pieces bs := by
  induction cut with
  | nothing => rfl
  | tail nonempty unended => rw [pieces_tail nonempty unended]
  | line unended _ ih => rw [pieces_line unended, ← ih]

/-- The pieces of bytes that end with a line feed stay as they are, whatever follows. -/
theorem append (cut : CutAtFeeds bs ps) (ended : bs.getLast? = some 0x0A) {more : Bytes} {qs : List Bytes}
    (cut' : CutAtFeeds more qs) : CutAtFeeds (bs ++ more) (ps ++ qs) := by
  induction cut with
  | nothing => cases ended
  | tail _ unended => exact absurd (List.mem_of_getLast? ended) unended
  | @line piece rest rests unended cut ih =>
    rw [List.append_assoc, List.cons_append]
    have later : CutAtFeeds (rest ++ more) (rests ++ qs) := by
      cases rest with
      | nil =>
        rw [cut.eq_pieces]
        exact cut'
      | cons b rest =>
        rw [List.getLast?_append, List.getLast?_cons_cons, List.getLast?_cons, Option.some_or] at ended
        rw [← List.getLast?_cons] at ended
        exact ih ended
    exact .line unended later

end CutAtFeeds

/-- The pieces that end with a line feed. -/
def endedPieces (ps : List Bytes) : List Bytes := ps.filter fun piece => piece.getLast? = some 0x0A

/-- At most the last piece is not ended. -/
theorem CutAtFeeds.ended_first {bs : Bytes} {ps : List Bytes} (cut : CutAtFeeds bs ps) :
    ∃ rest, ps = endedPieces ps ++ rest := by
  induction cut with
  | nothing => exact ⟨[], rfl⟩
  | @tail piece _ unended =>
    have open_end : ¬ piece.getLast? = some 0x0A := fun ended => unended (List.mem_of_getLast? ended)
    exact ⟨[piece], by simp [endedPieces, open_end]⟩
  | @line piece bs ps _ _ ih =>
    obtain ⟨rest, split⟩ := ih
    have ended : endedPieces ((piece ++ [0x0A]) :: ps) = (piece ++ [0x0A]) :: endedPieces ps := by
      simp [endedPieces]
    refine ⟨rest, ?_⟩
    rw [ended, List.cons_append, ← split]

theorem lines_closed (bs : Bytes) : Input.lines ⟨bs, .closed⟩ = pieces bs := rfl

theorem lines_broken (bs : Bytes) : Input.lines ⟨bs, .broken⟩ = endedPieces (pieces bs) := rfl

/-- Whether the first token of a line is `exit` or `quit` in any ASCII case. -/
def leaves (line : String) : Bool :=
  match tokens (String.ofList (trim line.toList)) with
  | [] => false
  | word :: _ => asciiLower word = "exit" || asciiLower word = "quit"

private theorem ofVerb_stays {add list noVerb : Shape} (others : add ≠ .exit ∧ list ≠ .exit ∧ noVerb ≠ .exit)
    (id : String) (words : List String) : (Parsed.ofVerb add list noVerb id words).shape ≠ .exit := by
  obtain ⟨adds, lists, neither⟩ := others
  cases words with
  | nil => exact neither
  | cons verb rest =>
    rw [Parsed.ofVerb]
    split
    · exact adds
    · split
      · exact lists
      · exact neither

private theorem ofScope_stays (id : String) (words : List String) : (Parsed.ofScope id words).shape ≠ .exit := by
  cases words with
  | nil => exact nofun
  | cons scope rest =>
    rw [Parsed.ofScope]
    split
    · exact ofVerb_stays (by decide) _ _
    · split
      · exact ofVerb_stays (by decide) _ _
      · exact nofun

private theorem ofClusterWords_stays (words : List String) : (Parsed.ofClusterWords words).shape ≠ .exit := by
  cases words with
  | nil => exact nofun
  | cons word rest =>
    rw [Parsed.ofClusterWords.eq_def]
    simp only
    split
    · exact nofun
    · split
      · exact nofun
      · split
        · cases rest with
          | nil => exact nofun
          | cons id rest => exact nofun
        · exact ofScope_stays word rest

/-- The lines that leave are those that are understood as leaving. -/
theorem shape_exit_iff (line : String) : (Parsed.ofLine line).shape = .exit ↔ leaves line = true := by
  rw [Parsed.ofLine, leaves]
  cases tokens (String.ofList (trim line.toList)) with
  | nil => exact ⟨nofun, nofun⟩
  | cons word rest =>
    rw [Parsed.ofTokens, Bool.or_eq_true, decide_eq_true_iff, decide_eq_true_iff]
    by_cases exits : asciiLower word = "exit"
    · rw [if_pos exits]
      exact ⟨fun _ => .inl exits, fun _ => rfl⟩
    · by_cases quits : asciiLower word = "quit"
      · rw [if_neg exits, if_pos quits]
        exact ⟨fun _ => .inr quits, fun _ => rfl⟩
      · have stays : (if asciiLower word = "help" then Parsed.bare .help
            else if asciiLower word = "cluster" then Parsed.ofClusterWords rest
            else Parsed.bare .unknown).shape ≠ .exit := by
          split
          · exact nofun
          · split
            · exact ofClusterWords_stays rest
            · exact nofun
        rw [if_neg exits, if_neg quits]
        constructor
        · intro exit
          exact absurd exit stays
        · rintro (exit | quit)
          · exact absurd exit exits
          · exact absurd quit quits

example : leaves " \tQuit --now\n" = true := by decide

/-- The lines up to and including the first one that leaves. -/
def upToLeave : List String → List String
  | [] => []
  | line :: lines => if leaves line then [line] else line :: upToLeave lines

theorem upToLeave_append (lines more : List String) :
    upToLeave (lines ++ more) =
      if lines.any leaves then upToLeave lines else upToLeave lines ++ upToLeave more := by
  induction lines with
  | nil => rfl
  | cons line lines ih =>
    rw [List.cons_append, upToLeave, upToLeave, List.any_cons, ih]
    cases leaves line with
    | true => rfl
    | false =>
      rw [Bool.false_or]
      cases lines.any leaves with
      | true => rfl
      | false => rfl

theorem any_leaves_upToLeave (lines : List String) : (upToLeave lines).any leaves = lines.any leaves := by
  induction lines with
  | nil => rfl
  | cons line lines ih =>
    rw [upToLeave, List.any_cons]
    cases left : leaves line with
    | true => simp [left]
    | false => simp [left, ih]

end ClusterRegister.Console
