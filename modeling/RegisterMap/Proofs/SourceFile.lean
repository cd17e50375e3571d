import RegisterMap.Command.Run
import RegisterMap.Proofs.Insertion
import RegisterMap.Proofs.Text.LineEnds
import RegisterMap.Proofs.Text.Utf8

/-!
A description in a file is read as the pieces between its line feeds are. Decoding gives the text of
the file back, each line is a piece that may have kept its line feed, and a line feed at the end of
a line does not show. So it does not matter either in which style the line ends are written.
-/

set_option autoImplicit false

namespace RegisterMap.Document

open Text (LineEnd pieces withEnds)

/-- The content of a file with this text, in which line feeds are written in the style. -/
def fileOf (e : LineEnd) (text : String) : Bytes :=
  (String.ofList (withEnds e text.toList)).toUTF8.toList

def piecesOf (text : String) : List String := (pieces text.toList).map String.ofList

section

variable {text : String}

theorem fileOf_lineFeed : fileOf .lineFeed text = text.toUTF8.toList := by
  rw [fileOf, Text.withEnds_lineFeed, String.ofList_toList]

theorem linesOfBytes_fileOf (e : LineEnd) (plain : '\r' ∉ text.toList) :
    linesOfBytes (fileOf e text) = Text.lines text.toList := by
  rw [linesOfBytes, fileOf, Text.decodeUtf8_toUTF8, String.toList_ofList,
    Text.lines_withEnds e plain]

theorem around_pieces (plain : '\r' ∉ text.toList) :
    List.Forall₂ Around (piecesOf text) (Text.lines text.toList) := by
  rw [piecesOf, List.forall₂_map_left_iff]
  refine (Text.forall₂_pieces_lines plain).imp fun piece line same => ?_
  rcases same with rfl | rfl
  · refine ⟨[], ['\n'], List.all_eq_true.mp (by decide), ?_⟩
    rw [Text.ended, String.toList_ofList, String.toList_ofList, List.nil_append]
  · exact ⟨[], [], List.all_eq_true.mp rfl, by simp⟩

theorem readBytes_fileOf (o : Settings) (e : LineEnd) (plain : '\r' ∉ text.toList) :
    readBytes o (fileOf e text) = read o (piecesOf text) := by
  rw [readBytes, linesOfBytes_fileOf e plain, read, read, readLines_of_around (around_pieces plain)]

/-- The bytes of a text without carriage returns are read as the pieces between its line feeds are,
in every style of line ends, and so is a file that holds them. -/
theorem files_read_as_pieces (o : Settings) (plain : '\r' ∉ text.toList) :
    readBytes o text.toUTF8.toList = read o (piecesOf text) ∧
      (∀ e, readBytes o (fileOf e text) = readBytes o text.toUTF8.toList) ∧
      ∀ (around : Command.Surroundings) p e, around.status p = .file (fileOf e text) →
        (Command.content around p).map (readBytes o) = .ok (read o (piecesOf text)) := by
  have own : readBytes o text.toUTF8.toList = read o (piecesOf text) := by
    rw [← fileOf_lineFeed, readBytes_fileOf o .lineFeed plain]
  refine ⟨own, ?_, ?_⟩
  · intro e
    rw [own, readBytes_fileOf o e plain]
  · intro around p e held
    rw [Command.content, held]
    exact congrArg Except.ok (readBytes_fileOf o e plain)

end

/-- With characters of one to four bytes, separators that end no line, an empty line, and no line
feed at the end. -/
def separatedText : String := "<name>\u00e9\u2028\x0c\u0085😀</name>\n\n\t</device>"

/-- What a command sees beside a file of this text with Windows line ends. -/
def besideSeparated : Command.Surroundings where
  directory := "/work"
  status :=
    Files.status ⟨["work"], [(["work", "d.svd"], .file (fileOf .returnAndFeed separatedText))]⟩

theorem files_read_as_pieces_separated :
    '\r' ∉ separatedText.toList ∧
      piecesOf separatedText = ["<name>\u00e9\u2028\x0c\u0085😀</name>", "", "\t</device>"] ∧
      readBytes {} (fileOf .carriageReturn separatedText) = read {} (piecesOf separatedText) ∧
      (Command.content besideSeparated (.ofText "d.svd")).map (readBytes {}) =
        .ok (read {} (piecesOf separatedText)) ∧
      (read {} (piecesOf separatedText)).fault = none := by
  have plain : '\r' ∉ separatedText.toList := by decide +kernel
  obtain ⟨own, styles, files⟩ := files_read_as_pieces {} plain
  have held : besideSeparated.status (.ofText "d.svd") =
      .file (fileOf .returnAndFeed separatedText) := by decide +kernel
  refine ⟨plain, by decide +kernel, ?_, files _ _ _ held, by decide +kernel⟩
  rw [styles .carriageReturn, own]

end RegisterMap.Document
