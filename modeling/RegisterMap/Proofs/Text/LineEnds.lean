import Mathlib.Data.List.Forall2
import RegisterMap.Text.Lines

/-!
The lines of a text, told from its line feeds. A text without carriage returns is cut into the
pieces between its line feeds, and each line is a piece with a line feed behind it; the last piece
lacks that, and is no line if it is empty. The lines are the same if the line feeds are written in
another style.
-/

set_option autoImplicit false

namespace RegisterMap.Text

inductive LineEnd
  | lineFeed
  | carriageReturn
  | returnAndFeed
deriving DecidableEq, Repr

def LineEnd.chars : LineEnd → List Char
  | .lineFeed => ['\n']
  | .carriageReturn => ['\r']
  | .returnAndFeed => ['\r', '\n']

/-- The text with each line feed written in the style. -/
def withEnds (e : LineEnd) (s : List Char) : List Char :=
  s.flatMap fun c => if c = '\n' then e.chars else [c]

/-- The pieces between the line feeds; there is none behind a line feed at the end, and none in an
empty text. -/
def pieces (s : List Char) : List (List Char) :=
  if s = [] ∨ s.getLast? = some '\n' then (s.splitOn '\n').dropLast else s.splitOn '\n'

/-- The piece as a line that has its end. -/
def ended (piece : List Char) : String := String.ofList (piece ++ ['\n'])

theorem withEnds_cons (e : LineEnd) (c : Char) (s : List Char) :
    withEnds e (c :: s) = (if c = '\n' then e.chars else [c]) ++ withEnds e s :=
  List.flatMap_cons

theorem withEnds_lineFeed (s : List Char) : withEnds .lineFeed s = s := by
  induction s with
  | nil => rfl
  | cons c s ih =>
    rw [withEnds_cons, ih]
    by_cases feed : c = '\n'
    · rw [if_pos feed, feed]
      rfl
    · rw [if_neg feed]
      rfl

/-! ## Styles of line ends -/

/-- The cutters have cut the same lines. Only the second one may have read a carriage return last,
and only where carriage returns stand for line feeds. -/
structure LineCutter.Alike (e : LineEnd) (s u : LineCutter) : Prop where
  finished : u.finished = s.finished
  line : u.line = s.line
  begun : s.afterReturn = false
  after : e ≠ .carriageReturn → u.afterReturn = false

namespace LineCutter.Alike

variable {e : LineEnd} {s u : LineCutter}

theorem read {c : Char} (alike : Alike e s u) (plain : c ≠ '\r') :
    Alike e (s.read c) ((if c = '\n' then e.chars else [c]).foldl LineCutter.read u) := by
  obtain ⟨finished, line, afterReturn⟩ := s
  obtain ⟨finished', line', afterReturn'⟩ := u
  obtain ⟨rfl, rfl, rfl, after⟩ := alike
  by_cases feed : c = '\n'
  · subst feed
    rw [if_pos rfl]
    cases e with
    | lineFeed =>
      obtain rfl : afterReturn' = false := after nofun
      exact ⟨rfl, rfl, rfl, fun _ => rfl⟩
    | carriageReturn => exact ⟨rfl, rfl, rfl, fun other => absurd rfl other⟩
    | returnAndFeed => exact ⟨rfl, rfl, rfl, fun _ => rfl⟩
  · rw [if_neg feed]
    simp only [List.foldl_cons, List.foldl_nil, LineCutter.read, if_neg feed, if_neg plain]
    exact ⟨rfl, rfl, rfl, fun _ => rfl⟩

theorem run {text : List Char} (alike : Alike e s u) (plain : '\r' ∉ text) :
    Alike e (text.foldl LineCutter.read s) ((withEnds e text).foldl LineCutter.read u) := by
  induction text generalizing s u with
  | nil => exact alike
  | cons c text ih =>
    obtain ⟨first, rest⟩ := not_or.mp (mt List.mem_cons.mpr plain)
    rw [withEnds_cons, List.foldl_append, List.foldl_cons]
    exact ih (alike.read (Ne.symm first)) rest

theorem finish (alike : Alike e s u) : u.finish = s.finish := by
  rw [LineCutter.finish, LineCutter.finish, alike.finished, alike.line]

end LineCutter.Alike

/-- How the line feeds are written does not show in the lines. -/
theorem lines_withEnds (e : LineEnd) {s : List Char} (plain : '\r' ∉ s) :
    lines (withEnds e s) = lines s := by
  have start : LineCutter.Alike e {} {} := ⟨rfl, rfl, rfl, fun _ => rfl⟩
  exact (start.run plain).finish

/-! ## Pieces -/

theorem LineCutter.foldl_piece {piece : List Char} (finished : List String) (line : List Char)
    (feedless : '\n' ∉ piece) (plain : '\r' ∉ piece) :
    piece.foldl LineCutter.read ⟨finished, line, false⟩ =
      ⟨finished, piece.reverse ++ line, false⟩ := by
  induction piece generalizing line with
  | nil => rfl
  | cons c piece ih =>
    obtain ⟨notFeed, feedless⟩ := not_or.mp (mt List.mem_cons.mpr feedless)
    obtain ⟨notReturn, plain⟩ := not_or.mp (mt List.mem_cons.mpr plain)
    rw [List.foldl_cons, LineCutter.read, if_neg (Ne.symm notFeed), if_neg (Ne.symm notReturn),
      ih _ feedless plain, List.reverse_cons, List.append_assoc, List.singleton_append]

theorem LineCutter.foldl_whole {whole : List (List Char)} (finished : List String)
    (unbroken : ∀ piece ∈ whole, '\n' ∉ piece) (plain : ∀ piece ∈ whole, '\r' ∉ piece) :
    (whole.flatMap (· ++ ['\n'])).foldl LineCutter.read ⟨finished, [], false⟩ =
      ⟨(whole.map ended).reverse ++ finished, [], false⟩ := by
  induction whole generalizing finished with
  | nil => rfl
  | cons piece whole ih =>
    obtain ⟨feedless, unbroken⟩ := List.forall_mem_cons.mp unbroken
    obtain ⟨returnless, plain⟩ := List.forall_mem_cons.mp plain
    have closes : LineCutter.read ⟨finished, piece.reverse ++ [], false⟩ '\n' =
        ⟨ended piece :: finished, [], false⟩ := by
      simp [LineCutter.read, LineCutter.endLine, ended]
    rw [List.flatMap_cons, List.foldl_append, List.foldl_append,
      foldl_piece finished [] feedless returnless, List.foldl_cons, List.foldl_nil, closes,
      ih _ unbroken plain, List.map_cons, List.reverse_cons, List.append_assoc,
      List.singleton_append]

/-- The text is made of whole lines, of which the line feed is left out here, and an open one. -/
structure Cut (s : List Char) (whole : List (List Char)) (rest : List Char) : Prop where
  joined : s = whole.flatMap (· ++ ['\n']) ++ rest
  unbroken : ∀ piece ∈ whole, '\n' ∉ piece
  last : '\n' ∉ rest

theorem exists_cut (s : List Char) : ∃ whole rest, Cut s whole rest := by
  induction s with
  | nil => exact ⟨[], [], rfl, nofun, List.not_mem_nil⟩
  | cons c s ih =>
    obtain ⟨whole, rest, rfl, unbroken, last⟩ := ih
    by_cases feed : c = '\n'
    · subst feed
      exact ⟨[] :: whole, rest, rfl, List.forall_mem_cons.mpr ⟨List.not_mem_nil, unbroken⟩, last⟩
    · have behind : ∀ {piece : List Char}, '\n' ∉ piece → '\n' ∉ c :: piece :=
        List.not_mem_cons_of_ne_of_not_mem (Ne.symm feed)
      cases whole with
      | nil => exact ⟨[], c :: rest, rfl, nofun, behind last⟩
      | cons piece whole =>
        obtain ⟨first, others⟩ := List.forall_mem_cons.mp unbroken
        exact ⟨(c :: piece) :: whole, rest, rfl,
          List.forall_mem_cons.mpr ⟨behind first, others⟩, last⟩

namespace Cut

variable {s : List Char} {whole : List (List Char)} {rest : List Char}

theorem splitOn (cut : Cut s whole rest) : s.splitOn '\n' = whole ++ [rest] := by
  obtain ⟨rfl, unbroken, last⟩ := cut
  induction whole with
  | nil => exact List.splitOn_eq_singleton last
  | cons piece whole ih =>
    obtain ⟨first, others⟩ := List.forall_mem_cons.mp unbroken
    rw [List.flatMap_cons, List.append_assoc, List.append_assoc, List.singleton_append,
      List.splitOn_append_cons_self_of_not_mem first, ih others]
    rfl

theorem ends_iff (cut : Cut s whole rest) : (s = [] ∨ s.getLast? = some '\n') ↔ rest = [] := by
  obtain ⟨rfl, -, last⟩ := cut
  rcases List.eq_nil_or_concat rest with rfl | ⟨start, c, rfl⟩
  · rcases List.eq_nil_or_concat whole with rfl | ⟨others, piece, rfl⟩
    · simp
    · simp
  · have other : c ≠ '\n' := fun feed => last (by simp [feed])
    simp [other]

theorem pieces (cut : Cut s whole rest) :
    pieces s = whole ++ if rest = [] then [] else [rest] := by
  unfold Text.pieces
  simp only [cut.ends_iff, cut.splitOn]
  split
  · rw [List.dropLast_concat, List.append_nil]
  · rfl

/-- The whole lines have their ends, and the open one is a line if there is anything of it. -/
theorem lines (cut : Cut s whole rest) (plain : '\r' ∉ s) :
    lines s = whole.map ended ++ if rest = [] then [] else [String.ofList rest] := by
  obtain ⟨rfl, unbroken, last⟩ := cut
  rw [List.mem_append, not_or] at plain
  obtain ⟨inside, behind⟩ := plain
  have returnless : ∀ piece ∈ whole, '\r' ∉ piece := fun piece member inPiece =>
    inside (List.mem_flatMap.mpr ⟨piece, member, List.mem_append_left _ inPiece⟩)
  have start : ({} : LineCutter) = ⟨[], [], false⟩ := rfl
  rw [Text.lines, List.foldl_append, start, LineCutter.foldl_whole [] unbroken returnless,
    LineCutter.foldl_piece _ [] last behind, List.append_nil, List.append_nil, LineCutter.finish]
  by_cases none : rest = []
  · simp [none]
  · simp [none]

end Cut

/-- Each line is a piece, and may have a line feed behind it. -/
theorem forall₂_pieces_lines {s : List Char} (plain : '\r' ∉ s) :
    List.Forall₂ (fun piece line => line = ended piece ∨ line = String.ofList piece)
      (pieces s) (lines s) := by
  obtain ⟨whole, rest, cut⟩ := exists_cut s
  rw [cut.pieces, cut.lines plain]
  refine List.rel_append ?_ ?_
  · rw [List.forall₂_map_right_iff, List.forall₂_same]
    exact fun piece _ => .inl rfl
  · by_cases none : rest = []
    · rw [if_pos none, if_pos none]
      exact .nil
    · rw [if_neg none, if_neg none]
      exact .cons (.inr rfl) .nil

end RegisterMap.Text
