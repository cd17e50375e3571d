import RegisterMap.Document.Source
import RegisterMap.Proofs.AnySettings
import RegisterMap.Proofs.Text.Blanks
import RegisterMap.Proofs.Zig.Characters

/-!
Lines of source that nothing can break. A line of a description ends where its line break stands,
and trimming takes the break away before a tag is read; so no value of a model has one, and no line
of the source gets one from anywhere. The source text therefore comes apart at its line feeds into
just the lines that it was made of, and what a description says stays behind the slashes of its
comment.
-/

set_option autoImplicit false

namespace RegisterMap

/-- The characters that end a line. -/
def isBreak (c : Char) : Bool := c = '\n' || c = '\r'

/-- Not a character that ends a line. -/
def CodePoint.StaysInLine : CodePoint → Prop
  | .char c => isBreak c = false
  | .half _ => True

/-- Line ends stand only among the blanks at the end of the line. -/
def BreaksAtEnd (line : String) : Prop :=
  ∃ body blanks : List Char, line.toList = body ++ blanks ∧ (∀ c ∈ body, isBreak c = false) ∧
    ∀ c ∈ blanks, Text.isBlank c = true

theorem breaksAtEnd_of_all {line : String} (body blanks : List Char)
    (same : line.toList = body ++ blanks) (inner : body.all (!isBreak ·) = true)
    (blank : blanks.all Text.isBlank = true) : BreaksAtEnd line := by
  refine ⟨body, blanks, same, fun c member => ?_, fun c member => ?_⟩
  · exact (Bool.not_eq_true' _).mp (List.all_eq_true.mp inner c member)
  · exact List.all_eq_true.mp blank c member

theorem staysInLine_ascii : AllowsAscii CodePoint.StaysInLine := by
  intro c printable
  change isBreak c = false
  by_contra ends
  simp only [isBreak, Bool.not_eq_false, Bool.or_eq_true, decide_eq_true_eq] at ends
  rcases ends with rfl | rfl
  · exact absurd printable (by decide)
  · exact absurd printable (by decide)

/-! ## Lines of files -/

namespace Text

/-- The finished lines end once, and the open one has no end yet. -/
structure LineCutter.Sound (s : LineCutter) : Prop where
  finished : ∀ line ∈ s.finished, BreaksAtEnd line
  line : ∀ c ∈ s.line, isBreak c = false

theorem LineCutter.Sound.endLine {s : LineCutter} (sound : s.Sound) (afterReturn : Bool) :
    (s.endLine afterReturn).Sound := by
  refine ⟨List.forall_mem_cons.mpr ⟨⟨s.line.reverse, ['\n'], ?_, ?_, ?_⟩, sound.finished⟩, nofun⟩
  · rw [String.toList_ofList, List.reverse_cons]
  · intro c member
    exact sound.line c (List.mem_reverse.mp member)
  · exact List.forall_mem_singleton.mpr rfl

theorem LineCutter.Sound.read {s : LineCutter} (sound : s.Sound) (c : Char) : (s.read c).Sound := by
  unfold LineCutter.read
  split
  · split
    · exact { sound with }
    · exact sound.endLine false
  · split
    · exact sound.endLine true
    case isFalse notFeed notReturn =>
      refine ⟨sound.finished, List.forall_mem_cons.mpr ⟨?_, sound.line⟩⟩
      simp [isBreak, notFeed, notReturn]

theorem LineCutter.Sound.run {before : LineCutter} (sound : before.Sound) (s : List Char) :
    (s.foldl LineCutter.read before).Sound := by
  induction s generalizing before with
  | nil => exact sound
  | cons c rest ih => exact ih (sound.read c)

theorem breaksAtEnd_of_mem_lines {s : List Char} {line : String} (member : line ∈ lines s) :
    BreaksAtEnd line := by
  have start : ({} : LineCutter).Sound :=
    ⟨fun _ member => absurd member List.not_mem_nil, fun _ member => absurd member List.not_mem_nil⟩
  have sound := start.run s
  unfold lines LineCutter.finish at member
  split at member
  · exact sound.finished line (List.mem_reverse.mp member)
  · rcases List.mem_cons.mp (List.mem_reverse.mp member) with rfl | finished
    · refine ⟨_, [], by rw [String.toList_ofList, List.append_nil], fun c member => ?_, nofun⟩
      exact sound.line c (List.mem_reverse.mp member)
    · exact sound.finished line finished

/-! ## Content of tags -/

theorem mem_of_mem_trim {s : List Char} {c : Char} (member : c ∈ trim s) : c ∈ s := by
  have left : c ∈ s.dropWhile isBlank := mem_of_mem_trimRight member
  exact (List.dropWhile_suffix _).subset left

theorem staysInLine_of_mem_trim {line : String} (ends : BreaksAtEnd line) {c : Char}
    (member : c ∈ trim line.toList) : isBreak c = false := by
  obtain ⟨body, blanks, same, inner, blank⟩ := ends
  rw [same, trim_append_of_blank blank] at member
  exact inner c (mem_of_mem_trim member)

end Text

namespace Document

/-- The content of a tag is a part of its trimmed line. -/
theorem mem_trim_of_content {line data : String} {t : Tag} (tagged : Tag.ofLine? line = some t)
    (content : t.content = some data) {c : Char} (member : c ∈ data.toList) :
    c ∈ Text.trim line.toList := by
  unfold Tag.ofLine? at tagged
  split at tagged
  case h_2 => cases tagged
  case h_1 rest trimmed =>
    split at tagged
    case h_2 => cases tagged
    case h_1 after left =>
      cases tagged
      obtain ⟨taken, upTo, rfl⟩ := Option.map_eq_some_iff.mp content
      rw [String.toList_ofList] at member
      unfold upTo? at upTo
      split at upTo
      case isFalse => cases upTo
      case isTrue =>
        cases upTo
        have inAfter := (List.takeWhile_prefix _).subset member
        have inRest : c ∈ rest :=
          (List.dropWhile_suffix _).subset (left ▸ List.mem_cons_of_mem _ inAfter)
        rw [trimmed]
        exact List.mem_cons_of_mem _ inRest

/-- What is told by such lines and settings has a form of allowed characters. -/
theorem Told.shown {allowed : CodePoint → Prop} (ascii : AllowsAscii allowed) {o : Settings}
    {lines : List String} (size : Zig.Shown allowed o.registerSize)
    (reset : Zig.Shown allowed o.resetValue)
    (content : ∀ line ∈ lines, ∀ c ∈ Text.trim line.toList, allowed (.char c)) {v : Value}
    (told : Told o lines v) : Zig.Shown allowed v := by
  cases told with
  | unset => exact Text.all_ofString ascii (by decide)
  | empty => exact Text.all_nil
  | size => exact size
  | reset => exact reset
  | content member tagged said means =>
    cases means with
    | text =>
      refine Text.all_ofString_iff.mpr fun c inside => ?_
      exact content _ member c (mem_trim_of_content tagged said inside)
    | word => exact Text.all_decimalText ascii _
    | truth b => cases b <;> exact Text.all_ofString ascii (by decide)

theorem shown_word {allowed : CodePoint → Prop} (ascii : AllowsAscii allowed) {v : Value}
    (word : v.IsWord) : Zig.Shown allowed v := by
  obtain ⟨n, -, rfl⟩ := word
  exact Text.all_decimalText ascii n

end Document

namespace Zig

/-- The lines of a declaration that are comments. -/
def Declaration.comments : Declaration → List Text
  | .doc comment => [docLine comment]
  | .struct _ members => members.filterMap fun
    | .doc comment => some (indented (docLine comment))
    | .string _ _ | .flag _ _ | .plain _ _ => none
  | _ => []

theorem comments_subset (x : Declaration) : x.comments ⊆ x.lines := by
  cases x with
  | doc comment => exact List.Subset.refl _
  | struct name members =>
    intro line member
    obtain ⟨m, listed, commented⟩ := List.mem_filterMap.mp member
    cases m with
    | doc comment =>
      cases commented
      exact List.mem_append_left _ (List.mem_cons_of_mem _ (List.mem_map_of_mem listed))
    | string | flag | plain => cases commented
  | _ => exact List.nil_subset _

theorem sourceText_eq {lines : List Text} (some : lines ≠ []) :
    sourceText lines = [CodePoint.char '\n'].intercalate (lines ++ [[]]) := by
  unfold sourceText Text.intercalate
  induction lines with
  | nil => exact absurd rfl some
  | cons line rest ih =>
    cases rest with
    | nil =>
      rw [List.singleton_append, List.intercalate_cons_cons, List.intercalate_singleton,
        List.intercalate_singleton, List.append_nil]
      rfl
    | cons next rest =>
      change List.intercalate _ (line :: next :: rest) ++ _ =
        List.intercalate _ (line :: next :: (rest ++ [[]]))
      rw [List.intercalate_cons_cons, List.intercalate_cons_cons, List.append_assoc]
      congr 1
      exact ih (List.cons_ne_nil _ _)

/-- A text whose lines have no line ends comes apart into them, with an empty piece behind the last
one. -/
theorem splitOn_sourceText {lines : List Text} (some : lines ≠ [])
    (stay : ∀ line ∈ lines, line.All CodePoint.StaysInLine) :
    (sourceText lines).splitOn (.char '\n') = lines ++ [[]] := by
  rw [sourceText_eq some]
  refine List.splitOn_intercalate _ (fun line member feed => ?_) (by simp)
  rcases List.mem_append.mp member with inside | last
  · have stays : isBreak '\n' = false := stay line inside _ feed
    exact absurd stays (by decide)
  · rw [List.mem_singleton.mp last] at feed
    cases feed

end Zig

namespace Document

/-- No line of the source holds a line end. Source text therefore comes apart into its lines, and
each comment is one of them. -/
theorem source_lines_stay_apart :
    (∀ (content : List UInt8), ∀ line ∈ linesOfBytes content, BreaksAtEnd line) ∧
      ∀ (o : Settings) (lines : List String), o.Fits → (∀ line ∈ lines, BreaksAtEnd line) →
        let d := (read o lines).device
        (∀ names masks, ∃ out, (Zig.renderKnowing masks d (.ofTexts names)).1.result = .ok out) ∧
          ∀ s masks out, (Zig.renderKnowing masks d s).1.result = .ok out →
            (∀ line ∈ out, ∀ c, .char c ∈ line → c ≠ '\n' ∧ c ≠ '\r') ∧
            (Zig.sourceText out).splitOn (.char '\n') = out ++ [[]] ∧
            ∃ declarations : List Zig.Declaration,
              out = declarations.flatMap Zig.Declaration.lines ∧
              ∀ x ∈ declarations, ∀ comment ∈ x.comments,
                comment ∈ (Zig.sourceText out).splitOn (.char '\n') := by
  refine ⟨fun content line member => Text.breaksAtEnd_of_mem_lines member, ?_⟩
  intro o lines settings ended d
  have fits : d.FitsUnder o := fitsUnder_read o lines
  constructor
  · intro names masks
    obtain ⟨n, -, number⟩ := settings.resetValue
    have whole : o.resetValue.whole? = some (n : Int) := by rw [number]; rfl
    exact Zig.rendered_of_whole whole fits names masks
  · intro s masks out rendered
    have shown : ∀ v, Told o lines v → Zig.Shown CodePoint.StaysInLine v := fun v told =>
      told.shown staysInLine_ascii (shown_word staysInLine_ascii settings.registerSize)
        (shown_word staysInLine_ascii settings.resetValue)
        fun line member c inside => Text.staysInLine_of_mem_trim (ended line member) inside
    have stay := Zig.all_of_rendered staysInLine_ascii (all_read shown) fits.own
      fits.interrupts.listed rendered
    obtain ⟨declarations, shows, made⟩ :=
      Zig.declarations_of_rendered rendered (Zig.yields_ofDevice d s)
    have some : out ≠ [] := by
      obtain ⟨-, -, -⟩ := shows
      rw [made]
      simp [Zig.Declaration.lines]
    have pieces := Zig.splitOn_sourceText some stay
    refine ⟨fun line member c inside => ?_, pieces, declarations, made, ?_⟩
    · have stays : isBreak c = false := stay line member _ inside
      simpa [isBreak] using stays
    · intro x declared comment commented
      rw [pieces, made]
      refine List.mem_append_left _ (List.mem_flatMap.mpr ⟨x, declared, ?_⟩)
      exact Zig.comments_subset x commented

/-- A description with Windows line ends, and one that holds other separators of lines. -/
def separatedLines : List String :=
  ["<name>A</name>\r\n", "<description>one\u2028two\x0bthree</description>\n", "</device>"]

theorem source_lines_stay_apart_separated :
    (∀ line ∈ separatedLines, BreaksAtEnd line) ∧
      ∃ out, (Zig.renderKnowing [] (read {} separatedLines).device (.ofTexts none)).1.result =
          .ok out ∧
        (Zig.sourceText out).splitOn (.char '\n') = out ++ [[]] := by
  have ended : ∀ line ∈ separatedLines, BreaksAtEnd line := by
    simp only [separatedLines, List.forall_mem_cons]
    refine ⟨?_, ?_, ?_, nofun⟩
    · exact breaksAtEnd_of_all "<name>A</name>".toList ['\r', '\n'] rfl (by decide) (by decide)
    · exact breaksAtEnd_of_all "<description>one\u2028two\x0bthree</description>".toList ['\n'] rfl
        (by decide) (by decide)
    · exact breaksAtEnd_of_all "</device>".toList [] rfl (by decide) rfl
  have settings : ({} : Settings).Fits := ⟨⟨32, by decide, rfl⟩, ⟨0, by decide, rfl⟩⟩
  obtain ⟨renders, apart⟩ := source_lines_stay_apart.2 {} separatedLines settings ended
  obtain ⟨out, rendered⟩ := renders none []
  exact ⟨ended, out, rendered, (apart _ _ out rendered).2.1⟩

end Document

end RegisterMap
