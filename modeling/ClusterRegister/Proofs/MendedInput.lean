import ClusterRegister.Proofs.InputLines
import ClusterRegister.Proofs.LossyText
import ClusterRegister.Proofs.Utf8Pieces

/-!
# Input that is not well-formed

A session on bytes of any kind is the session on the text that they are decoded to as a whole: what is ill-formed in one
line, also at its very end, leaves the other lines as they are (`session_on_mended`).
-/

namespace ClusterRegister.Utf8

/-- Bytes with each ill-formed piece replaced. -/
def mended (bs : Bytes) : Bytes := encode (decodeLossy bs)

private theorem decodeLossy_mended (bs : Bytes) : decodeLossy (mended bs) = decodeLossy bs := decodeLossy_encode _

private theorem mended_append_feed (bs rest : Bytes) :
    mended (bs ++ 0x0A :: rest) = mended bs ++ 0x0A :: mended rest := by
  rw [mended, decodeLossy_append_feed, encode_append]
  rfl

theorem feed_mem_mended_iff {bs : Bytes} : 0x0A ∈ mended bs ↔ 0x0A ∈ bs := by
  rw [mended, feed_mem_encode_iff, feed_mem_decodeLossy_iff]

/-- Some bytes come to some text. -/
theorem mended_ne_nil {bs : Bytes} (nonempty : bs ≠ []) : mended bs ≠ [] := by
  intro empty
  have no_text : decodeLossy bs = [] := by rw [← decodeLossy_mended, empty]; rfl
  have made := madeOf_pieces bs
  rw [List.map_eq_nil_iff.1 no_text] at made
  cases made
  exact nonempty rfl

end ClusterRegister.Utf8

namespace ClusterRegister.Console

open ClusterRegister.Utf8 (mended decodeLossy)

variable {bs : Bytes} {ps qs : List Bytes}

/-- Mended bytes are cut where the bytes are cut, into the mended pieces. -/
theorem CutAtFeeds.mended (cut : CutAtFeeds bs ps) : CutAtFeeds (mended bs) (ps.map mended) := by
  induction cut with
  | nothing => exact .nothing
  | tail nonempty unended => exact .tail (Utf8.mended_ne_nil nonempty) (mt Utf8.feed_mem_mended_iff.1 unended)
  | line unended _ ih =>
    rw [Utf8.mended_append_feed, List.map_cons, Utf8.mended_append_feed]
    exact .line (mt Utf8.feed_mem_mended_iff.1 unended) ih

theorem CutAtFeeds.endedPieces_mended (cut : CutAtFeeds bs ps) :
    endedPieces (ps.map Utf8.mended) = (endedPieces ps).map Utf8.mended := by
  induction cut with
  | nothing => rfl
  | @tail piece _ unended =>
    have open_end : ¬ piece.getLast? = some 0x0A := fun ended => unended (List.mem_of_getLast? ended)
    have still_open : ¬ (Utf8.mended piece).getLast? = some 0x0A := fun ended =>
      unended (Utf8.feed_mem_mended_iff.1 (List.mem_of_getLast? ended))
    simp [endedPieces, open_end, still_open]
  | @line piece bs ps _ _ ih =>
    have ended : (Utf8.mended (piece ++ [0x0A])).getLast? = some 0x0A := by
      rw [Utf8.mended_append_feed]
      exact List.getLast?_concat
    have first (rest : List Bytes) {p : Bytes} (last : p.getLast? = some 0x0A) :
        endedPieces (p :: rest) = p :: endedPieces rest := List.filter_cons_of_pos (by rw [last]; rfl)
    rw [List.map_cons, first _ ended, first _ List.getLast?_concat, List.map_cons, ih]

/-- The pieces are decoded apart from each other. -/
theorem CutAtFeeds.decodeLossy_flatMap (cut : CutAtFeeds bs ps) : decodeLossy bs = ps.flatMap decodeLossy := by
  induction cut with
  | nothing => rfl
  | tail _ _ => simp
  | line _ _ ih =>
    rw [List.flatMap_cons, Utf8.decodeLossy_append_feed, Utf8.decodeLossy_append_feed, ih, List.append_assoc]
    rfl

private theorem lines_mended (bs : Bytes) (finish : InputEnd) :
    Input.lines ⟨mended bs, finish⟩ = (Input.lines ⟨bs, finish⟩).map mended := by
  have cut := cutAtFeeds_pieces bs
  cases finish with
  | closed => rw [lines_closed, lines_closed, ← cut.mended.eq_pieces]
  | broken => rw [lines_broken, lines_broken, ← cut.mended.eq_pieces, cut.endedPieces_mended]

private theorem lineText_mended (piece : Bytes) : lineText (mended piece) = lineText piece := by
  rw [lineText, Utf8.decodeLossy_mended, lineText]

/-- Only the text of lines matters to a session. -/
theorem readLoop_congr (env : Nat → Surroundings) (prompt : String) (finish : InputEnd)
    (same : ps.map lineText = qs.map lineText) : readLoop env prompt finish ps = readLoop env prompt finish qs := by
  induction ps generalizing env qs with
  | nil => rw [List.map_eq_nil_iff.1 same.symm]
  | cons p ps ih =>
    cases qs with
    | nil => cases same
    | cons q qs =>
      rw [List.map_cons, List.map_cons, List.cons.injEq] at same
      have answered : answer (env 0) p = answer (env 0) q := by rw [answer, same.1, answer]
      rw [readLoop, readLoop, answered, ih (afterFirst env) same.2]

private theorem interactive_mended (env : Nat → Surroundings) (prompt : String) (bs : Bytes) (finish : InputEnd) :
    interactive env prompt ⟨mended bs, finish⟩ = interactive env prompt ⟨bs, finish⟩ := by
  have same : (Input.lines ⟨mended bs, finish⟩).map lineText = (Input.lines ⟨bs, finish⟩).map lineText := by
    rw [lines_mended, List.map_map]
    exact List.map_congr_left fun piece _ => lineText_mended piece
  rw [interactive, interactive, readLoop_congr env prompt finish same]

/-- Bytes are decoded to the characters that they are made of, with one replacement character for each ill-formed
piece. Cut after each line feed, they are decoded piece by piece to the pieces of the decoded whole. So a session on
them and a session on the decoded whole write the same, end alike and leave the same contents, whatever they write to. -/
theorem session_on_mended (env : Nat → Surroundings) (prompt : String) (bs : Bytes) (finish : InputEnd) :
    let whole := Utf8.encode (decodeLossy bs)
    let lines := (pieces bs).map decodeLossy
    (∃ ps, Utf8.MadeOf bs ps ∧ decodeLossy bs = ps.map fun piece => piece.getD Utf8.replacement) ∧
      CutAtFeeds bs (pieces bs) ∧ CutAtFeeds whole (lines.map Utf8.encode) ∧ decodeLossy bs = lines.flatten ∧
      ∀ desk, (interactive env prompt ⟨bs, finish⟩).on desk = (interactive env prompt ⟨whole, finish⟩).on desk := by
  intro whole lines
  have cut := cutAtFeeds_pieces bs
  refine ⟨⟨_, Utf8.madeOf_pieces bs, rfl⟩, cut, ?_, cut.decodeLossy_flatMap, fun desk => ?_⟩
  · rw [List.map_map]
    exact cut.mended
  · rw [← interactive_mended env prompt bs finish]
    rfl

/-- A character of three bytes that a line feed breaks off, and one of four that the end does. -/
example : (pieces [0xE2, 0x82, 0x0A, 0x61, 0xF0]).map decodeLossy = [['\uFFFD', '\n'], ['a', '\uFFFD']] := by decide

end ClusterRegister.Console
