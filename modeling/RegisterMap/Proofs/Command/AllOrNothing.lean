import RegisterMap.Proofs.Command.Options
import RegisterMap.Proofs.Command.Plain
import RegisterMap.Proofs.Files.Writing

/-!
All or nothing. A run that succeeds has made its whole text before anything is put out, and puts it
to the standard output, into the output file, or into a sink that is named in place of a file. Any
other run leaves all files as they were, and nothing stands at its standard output but the usage, if
no command was named. Whoever writes TOML for it has to make plain text of plain values.
-/

set_option autoImplicit false

namespace RegisterMap.Command

/-- What a command has around it among the files. -/
def surroundings (toml : Value → Option Text) (files : Files) : Surroundings where
  directory := "/" ++ String.intercalate "/" files.directory
  status := files.status
  toml := toml

/-- What a run has made of the files. -/
def Outcome.filesAfter (o : Outcome) (files : Files) : Files :=
  match o.written with
  | none => files
  | some (p, text) => files.write p ((text.string?.getD "").toUTF8.toList)

/-- The description that a request names is read like this, with the settings that it gives. -/
def Reads (files : Files) (request : Request) (s : Document.Reading) : Prop :=
  ∃ settings name bytes, settingsOf request = .ok settings ∧ request.svdFile = .value name ∧
    files.status (.ofText name) = .file bytes ∧ s = Document.readBytes settings bytes

/-- What the command of a request makes of a device: its source, or its outline in the format. -/
inductive Makes (toml : Value → Option Text) (request : Request) (d : Device) : Text → Prop
  | source {lines : List Text} (action : request.action = .generate)
      (rendered : (Zig.render d (selectionOf request.peripherals)).result = .ok lines) :
      Makes toml request d (Zig.sourceText lines)
  | json {outline : Value} (action : request.action = .dump)
      (format : request.format = .value .json)
      (outlined : (d.outline (selectionOf request.peripherals)).result = .ok outline) :
      Makes toml request d (Json.pretty outline ++ "\n")
  | toml {outline : Value} {text : Text} (action : request.action = .dump)
      (format : request.format = .value .toml)
      (outlined : (d.outline (selectionOf request.peripherals)).result = .ok outline)
      (written : toml outline = some text) : Makes toml request d text

/-- The run puts the text where it is asked for, and nothing anywhere else. -/
inductive Puts (files : Files) (o : Outcome) (text : Text) : Option (Given String) → Prop
  | output (shown : o.output = text) (kept : o.filesAfter files = files) :
      Puts files o text none
  | file {name : String} (silent : o.output = [])
      (content : ∃ s, text = .ofString s ∧
        Files.entry? (o.filesAfter files) (files.place (.ofText name)) =
          some (.file s.toUTF8.toList))
      (kept : ∀ place, place ≠ files.place (.ofText name) →
        Files.entry? (o.filesAfter files) place = Files.entry? files place) :
      Puts files o text (some (.value name))

/-- A sink is named where a file could be. -/
def IsSink (files : Files) : Option (Given String) → Prop
  | some (.value name) => files.status (.ofText name) = .sink
  | some .nothing | none => False

/-- The run gives the text to a sink, and prints nothing itself. What the sink makes of the text is
not told, but no file has it. -/
structure Sinks (files : Files) (o : Outcome) (text : Text) (outputFile : Option (Given String)) :
    Prop where
  sink : IsSink files outputFile
  given : ∃ name, outputFile = some (.value name) ∧ o.written = some (.ofText name, text)
  silent : o.output = []
  kept : o.filesAfter files = files

/-- Text can be put there: a file is there or can be made, or a sink takes it. -/
def Takes (files : Files) : Option (Given String) → Prop
  | none => True
  | some .nothing => False
  | some (.value name) =>
    (∃ content, files.status (.ofText name) = .file content) ∨
      files.status (.ofText name) = .sink ∨ files.status (.ofText name) = .vacant

/-- The run fails, and nothing is written or shown. -/
structure Outcome.Barren (o : Outcome) : Prop where
  ending : o.ending ≠ .exit 0
  output : o.output = []
  written : o.written = none

/-- The text answers a request: it is made of the description, and there is a place for it. -/
def Answers (toml : Value → Option Text) (files : Files) (request : Request) (text : Text) : Prop :=
  ∃ s, Reads files request s ∧ s.fault = none ∧ Makes toml request s.device text ∧
    Takes files request.outputFile

/-- A run of the words succeeds with the text that answers what they ask for. -/
structure Succeeds (toml : Value → Option Text) (files : Files) (texts : List String) (o : Outcome)
    (request : Request) (text : Text) : Prop where
  read : ∃ verbosity, readLine texts = .run verbosity request
  asks : Asks texts request
  answers : Answers toml files request text
  ending : o.ending = .exit 0

/-- A run of the words does not succeed, and leaves no trace but the usage. -/
structure Fails (files : Files) (texts : List String) (o : Outcome) : Prop where
  ending : o.ending ≠ .exit 0
  kept : o.filesAfter files = files
  output : o.output = [] ∨ o.output = usage ∧ o.ending = .exit 2 ∧ Unnamed texts

/-- Either the run succeeds, and its text is all that it prints or all that is in the one file that
changes, or it fails. -/
def AllOrNothing (toml : Value → Option Text) (files : Files) (texts : List String) : Prop :=
  let o := run (surroundings toml files) texts
  (∃ request text, Succeeds toml files texts o request text ∧
      Puts files o text request.outputFile) ∨
    Fails files texts o

/-! ## Texts that are made -/

section

variable {toml : Value → Option Text} {files : Files} {request : Request} {d : Device} {text : Text}

theorem makes_of_textFor (ok : (textFor toml request d).1 = .ok text) :
    Makes toml request d text := by
  unfold textFor at ok
  dsimp only at ok
  split at ok
  · rename_i action
    obtain ⟨lines, rendered, ok⟩ := Report.bind_eq_ok.mp (mapError_eq_ok.mp ok)
    cases ok
    exact .source action rendered
  · rename_i action
    obtain ⟨outline, made, ok⟩ := bind_eq_ok.mp ok
    have outlined := mapError_eq_ok.mp made
    unfold outlineText at ok
    split at ok
    · cases ok
    · cases ok
      exact .json action ‹_› outlined
    · split at ok
      · cases ok
        exact .toml action ‹_› outlined ‹_›
      · cases ok

theorem textFor_of_makes (makes : Makes toml request d text) :
    (textFor toml request d).1 = .ok text := by
  unfold textFor
  cases makes with
  | source action rendered =>
    rw [action]
    exact mapError_eq_ok.mpr (Report.bind_eq_ok.mpr ⟨_, rendered, rfl⟩)
  | json action format outlined =>
    rw [action]
    refine bind_eq_ok.mpr ⟨_, mapError_eq_ok.mpr outlined, ?_⟩
    rw [format]
    rfl
  | toml action format outlined written =>
    rw [action]
    refine bind_eq_ok.mpr ⟨_, mapError_eq_ok.mpr outlined, ?_⟩
    unfold outlineText
    rw [format]
    dsimp only
    rw [written]

theorem reads_of_readingFor {p : Path} {s : Document.Reading}
    (ok : readingFor (surroundings toml files) request = .ok (p, s)) : Reads files request s := by
  obtain ⟨settings, set, ok⟩ := bind_eq_ok.mp ok
  obtain ⟨path, named, ok⟩ := bind_eq_ok.mp ok
  obtain ⟨bytes, found, ok⟩ := bind_eq_ok.mp ok
  cases ok
  cases given : request.svdFile with
  | nothing =>
    rw [given] at named
    cases named
  | value name =>
    rw [given] at named
    cases named
    refine ⟨settings, name, bytes, set, given, ?_, rfl⟩
    unfold content at found
    split at found
    · cases found
      assumption
    · cases found
    · cases found

theorem readingFor_of_reads (toml : Value → Option Text) {s : Document.Reading}
    (reads : Reads files request s) :
    ∃ p, readingFor (surroundings toml files) request = .ok (p, s) := by
  obtain ⟨settings, name, bytes, set, given, status, rfl⟩ := reads
  have named : pathOf request.svdFile = .ok (.ofText name) := by rw [given, pathOf]
  have found : content (surroundings toml files) (.ofText name) = .ok bytes := by
    simp only [content, surroundings, status]
  exact ⟨.ofText name, bind_eq_ok.mpr ⟨settings, set,
    bind_eq_ok.mpr ⟨_, named, bind_eq_ok.mpr ⟨bytes, found, rfl⟩⟩⟩⟩

/-- A request has no two answers. -/
theorem Answers.unique {other : Text} (answers : Answers toml files request text)
    (again : Answers toml files request other) : text = other := by
  obtain ⟨s, reads, -, makes, -⟩ := answers
  obtain ⟨t, rereads, -, remakes, -⟩ := again
  obtain ⟨_, reading⟩ := readingFor_of_reads toml reads
  obtain ⟨_, rereading⟩ := readingFor_of_reads toml rereads
  cases reading.symm.trans rereading
  cases (textFor_of_makes makes).symm.trans (textFor_of_makes remakes)
  rfl

/-! ## Putting a text where it is asked for -/

variable {notices : List Notice}

theorem filesAfter_of_silent {o : Outcome} (silent : o.written = none) :
    o.filesAfter files = files := by
  unfold Outcome.filesAfter
  rw [silent]

/-- A plain text has bytes, so that the file gets all of it. -/
theorem write_of_plain (plain : text.Plain) (p : Path) :
    write p text notices =
      { ending := .exit 0, written := some (p, text), notices := notices } := by
  unfold write
  rw [Text.firstHalves?_of_plain plain]

theorem puts_file (plain : text.Plain) {name : String}
    (kept : files.status (.ofText name) ≠ .sink) :
    Puts files (write (.ofText name) text notices) text (some (.value name)) := by
  obtain ⟨s, rfl⟩ := Text.eq_ofString_of_plain plain
  rw [write_of_plain plain]
  refine .file rfl ⟨s, rfl, ?_⟩ fun place other => Files.entry?_write_other other _
  unfold Outcome.filesAfter
  dsimp only
  rw [Files.entry?_write_place kept, Text.string?_ofString, Option.getD_some]

theorem sinks_write (plain : text.Plain) {name : String}
    (sunk : files.status (.ofText name) = .sink) :
    Sinks files (write (.ofText name) text notices) text (some (.value name)) := by
  rw [write_of_plain plain]
  exact ⟨sunk, ⟨name, rfl, rfl⟩, rfl, if_pos sunk⟩

/-- A plain text is put where it is asked for, if it can be put there. -/
theorem deliver_of_takes (toml : Value → Option Text) (plain : text.Plain) (notices : List Notice)
    {outputFile : Option (Given String)} (takes : Takes files outputFile) :
    let o := deliver (surroundings toml files) outputFile text notices
    o.ending = .exit 0 ∧ (¬ IsSink files outputFile → Puts files o text outputFile) ∧
      (IsSink files outputFile → Sinks files o text outputFile) := by
  rcases outputFile with _ | name | _
  · exact ⟨rfl, fun _ => .output rfl rfl, fun sink => sink.elim⟩
  · have written : deliver (surroundings toml files) (some (.value name)) text notices =
        write (.ofText name) text notices := by
      dsimp only [deliver, writeTo, surroundings]
      rcases takes with ⟨content, found⟩ | found | found <;> rw [found]
    rw [written]
    exact ⟨by rw [write_of_plain plain], puts_file plain, sinks_write plain⟩
  · cases takes

theorem barren_failed (f : Failure) :
    ({ ending := .failed f, notices := notices } : Outcome).Barren := ⟨nofun, rfl, rfl⟩

theorem barren_deliver {outputFile : Option (Given String)} (refused : ¬ Takes files outputFile) :
    (deliver (surroundings toml files) outputFile text notices).Barren := by
  rcases outputFile with _ | name | _
  · exact absurd trivial refused
  · dsimp only [deliver, writeTo, surroundings]
    cases found : files.status (.ofText name) with
    | file content => exact absurd (.inl ⟨content, found⟩) refused
    | sink => exact absurd (.inr (.inl found)) refused
    | vacant => exact absurd (.inr (.inr found)) refused
    | _ => exact barren_failed _
  · exact barren_failed _

/-- Notices that are not shown change nothing else. -/
theorem Puts.showFrom {o : Outcome} {outputFile : Option (Given String)}
    (puts : Puts files o text outputFile) (level : Level) :
    Puts files (o.showFrom level) text outputFile := by
  cases puts with
  | output shown kept => exact .output shown kept
  | file silent content kept => exact .file silent content kept

theorem Sinks.showFrom {o : Outcome} {outputFile : Option (Given String)}
    (sinks : Sinks files o text outputFile) (level : Level) :
    Sinks files (o.showFrom level) text outputFile :=
  ⟨sinks.sink, sinks.given, sinks.silent, sinks.kept⟩

/-! ## Runs -/

variable {around : Surroundings} {p : Path} {s : Document.Reading}

theorem finish_eq_deliver (around : Surroundings) (p : Path) (sound : s.fault = none)
    (made : (textFor around.toml request s.device).1 = .ok text) :
    ∃ notices, finish around request p s = deliver around request.outputFile text notices := by
  refine ⟨s.notices.toList ++ (textFor around.toml request s.device).2, ?_⟩
  unfold finish
  rw [sound]
  dsimp only
  rw [made]

theorem barren_finish
    (fails : s.fault = none → ∀ text, (textFor around.toml request s.device).1 ≠ .ok text) :
    (finish around request p s).Barren := by
  unfold finish
  dsimp only
  split
  · exact barren_failed _
  · exact ⟨nofun, rfl, rfl⟩
  · split
    · exact absurd ‹_› (fails ‹_› _)
    · exact barren_failed _

/-- The settings of a request hold no lone halves. -/
def Request.Plain (request : Request) : Prop :=
  ∀ v, request.parseOptions = some (.value v) → v.Plain

/-- A text that answers a request is plain, and all that is left to do is to put it out. -/
theorem perform_of_answers (keeps : Toml.KeepsPlain toml) (settings : request.Plain)
    (answers : Answers toml files request text) :
    text.Plain ∧ ∃ notices, perform (surroundings toml files) request =
      deliver (surroundings toml files) request.outputFile text notices := by
  obtain ⟨s, reads, sound, makes, -⟩ := answers
  obtain ⟨p, reading⟩ := readingFor_of_reads toml reads
  have made := textFor_of_makes makes
  constructor
  · obtain ⟨o, name, bytes, set, -, -, rfl⟩ := reads
    exact plain_textFor keeps (plain_settingsOf settings set) made
  · unfold perform
    rw [reading]
    exact finish_eq_deliver (surroundings toml files) p sound made

theorem barren_perform (fails : ∀ text, ¬ Answers toml files request text) :
    (perform (surroundings toml files) request).Barren := by
  unfold perform
  cases reading : readingFor (surroundings toml files) request with
  | error f => exact barren_failed f
  | ok found =>
    obtain ⟨p, s⟩ := found
    have reads := reads_of_readingFor reading
    dsimp only
    by_cases made : s.fault = none ∧ ∃ text, (textFor toml request s.device).1 = .ok text
    · obtain ⟨sound, text, made⟩ := made
      obtain ⟨notices, finished⟩ :=
        finish_eq_deliver (surroundings toml files) p sound made
      rw [finished]
      exact barren_deliver fun takes =>
        fails text ⟨s, reads, sound, makes_of_textFor made, takes⟩
    · exact barren_finish fun sound text ok => made ⟨sound, text, ok⟩

theorem perform_faulty (reads : Reads files request s) {fault : Document.Fault}
    (faulty : s.fault = some fault) (other : ∀ long, fault ≠ .numeralTooLong long) :
    (perform (surroundings toml files) request).ending = .exit 1 := by
  obtain ⟨p, reading⟩ := readingFor_of_reads toml reads
  unfold perform
  rw [reading]
  dsimp only [finish]
  rw [faulty]
  cases fault with
  | numeralTooLong long => exact absurd rfl (other long)
  | truncated | registerBeforeBase => rfl

variable {texts : List String} {verbosity : Nat}

theorem run_of_request (read : readLine texts = .run verbosity request) (around : Surroundings) :
    run around texts = (perform around request).showFrom (levelShown verbosity) := by
  unfold run
  rw [read]

/-- A run succeeds with the text that answers its request, and puts it out or gives it to a sink.
-/
theorem succeeds_of_answers (keeps : Toml.KeepsPlain toml) (settings : request.Plain)
    (read : readLine texts = .run verbosity request)
    (answers : Answers toml files request text) :
    let o := run (surroundings toml files) texts
    Succeeds toml files texts o request text ∧
      (¬ IsSink files request.outputFile → Puts files o text request.outputFile) ∧
      (IsSink files request.outputFile → Sinks files o text request.outputFile) := by
  obtain ⟨plain, notices, performed⟩ := perform_of_answers keeps settings answers
  have takes : Takes files request.outputFile := by
    obtain ⟨_, -, -, -, takes⟩ := answers
    exact takes
  obtain ⟨ending, puts, sinks⟩ := deliver_of_takes toml plain notices takes
  rw [run_of_request read, performed]
  exact ⟨⟨⟨verbosity, read⟩, asks_of_run read, answers, ending⟩,
    fun kept => (puts kept).showFrom _, fun sink => (sinks sink).showFrom _⟩

theorem fails_of_no_answer (read : readLine texts = .run verbosity request)
    (none : ∀ text, ¬ Answers toml files request text) :
    Fails files texts (run (surroundings toml files) texts) := by
  have barren := barren_perform none
  rw [run_of_request read]
  exact ⟨barren.ending, filesAfter_of_silent barren.written, .inl barren.output⟩

/-- Words that do not make a request fail at once. -/
theorem fails_of_no_request (around : Surroundings) (unhelped : readLine texts ≠ .help)
    (none : ∀ verbosity request, readLine texts ≠ .run verbosity request) :
    Fails files texts (run around texts) := by
  unfold run
  cases read : readLine texts with
  | run verbosity request => exact absurd read (none verbosity request)
  | help => exact absurd read unhelped
  | noAction => exact ⟨nofun, rfl, .inr ⟨rfl, rfl, (readProgram_eq_noAction read).2⟩⟩
  | problem action p => exact ⟨nofun, rfl, .inl rfl⟩
  | tooDeep nest => exact ⟨nofun, rfl, .inl rfl⟩

end

/-- A run puts a whole text to one place and succeeds, or it fails without a trace, unless a sink is
named for its text: then it succeeds as well, and leaves all files as they were. It succeeds whenever
a text answers its request, and exits with 1 whenever the description is at fault. -/
theorem run_puts_all_or_nothing {toml : Value → Option Text} (keeps : Toml.KeepsPlain toml)
    {files : Files} {texts : List String} (unhelped : readLine texts ≠ .help)
    (settings : ∀ verbosity request, readLine texts = .run verbosity request → request.Plain) :
    let o := run (surroundings toml files) texts
    (AllOrNothing toml files texts ∨
        ∃ request text, Succeeds toml files texts o request text ∧
          Sinks files o text request.outputFile) ∧
      ∀ verbosity request, readLine texts = .run verbosity request →
        (∀ text, Answers toml files request text → o.ending = .exit 0) ∧
        ∀ s fault, Reads files request s → s.fault = some fault →
          (∀ long, fault ≠ .numeralTooLong long) → o.ending = .exit 1 := by
  constructor
  · by_cases requested : ∃ verbosity request, readLine texts = .run verbosity request
    · obtain ⟨verbosity, request, read⟩ := requested
      by_cases answered : ∃ text, Answers toml files request text
      · obtain ⟨text, answers⟩ := answered
        obtain ⟨succeeds, puts, sinks⟩ :=
          succeeds_of_answers keeps (settings verbosity request read) read answers
        by_cases sink : IsSink files request.outputFile
        · exact .inr ⟨request, text, succeeds, sinks sink⟩
        · exact .inl (.inl ⟨request, text, succeeds, puts sink⟩)
      · exact .inl (.inr (fails_of_no_answer read fun text answers => answered ⟨text, answers⟩))
    · exact .inl (.inr (fails_of_no_request _ unhelped fun verbosity request read =>
        requested ⟨verbosity, request, read⟩))
  · intro verbosity request read
    refine ⟨fun text answers => ?_, fun s fault reads faulty other => ?_⟩
    · exact (succeeds_of_answers keeps (settings verbosity request read) read answers).1.ending
    · rw [run_of_request read]
      exact perform_faulty reads faulty other

/-! ## An outline in place of its description, and one that no file keeps -/

def fileOfA : Bytes := "<name>A</name>\n</device>".toList.map fun c => c.toNat.toUInt8

/-- A description in the working directory, and a device that keeps nothing. -/
def shelf : Files where
  directory := ["work"]
  entries := [(["work", "a.svd"], .file fileOfA), (["dev", "null"], .sink)]

def dumping (format outputFile : String) : List String :=
  ["dump", "-sa.svd", "-O", format, "-o", outputFile]

/-- What such words ask for. -/
def dumped (format : Format) (outputFile : String) : Request where
  action := .dump
  svdFile := .value "a.svd"
  parseOptions := none
  peripherals := none
  outputFile := some (.value outputFile)
  format := .value format

section

variable {format : Format} {outputFile : String}

theorem plain_dumped : (dumped format outputFile).Plain := nofun

theorem outline_fileOfA : ((Document.readBytes {} fileOfA).device.outline {}).result =
    .ok (.object [("name", .ofString "A"), ("peripherals", .object []),
      ("interrupts", .object [])]) :=
  eq_ok_of_toOption (by decide +kernel)

theorem answers_dumped {text : Text} (takes : Takes shelf (some (.value outputFile)))
    (makes : Makes Toml.text? (dumped format outputFile) (Document.readBytes {} fileOfA).device
      text) : Answers Toml.text? shelf (dumped format outputFile) text := by
  have sound : (Document.readBytes {} fileOfA).fault = none := by decide +kernel
  exact ⟨_, ⟨{}, "a.svd", fileOfA, rfl, rfl, rfl, rfl⟩, sound, makes, takes⟩

end

/-- What goes into a sink is in no file, though the run succeeds. -/
theorem not_allOrNothing_of_sink :
    readLine (dumping "json" "/dev/null") = .run 0 (dumped .json "/dev/null") ∧
      ¬ AllOrNothing Toml.text? shelf (dumping "json" "/dev/null") := by
  have read : readLine (dumping "json" "/dev/null") = .run 0 (dumped .json "/dev/null") := rfl
  have sunk : shelf.status (.ofText "/dev/null") = .sink := rfl
  obtain ⟨succeeds, -, sinks⟩ := succeeds_of_answers Toml.keepsPlain_text? plain_dumped read
    (answers_dumped (.inr (.inl sunk)) (.json rfl rfl outline_fileOfA))
  refine ⟨read, ?_⟩
  rintro (⟨request, text, ⟨⟨_, again⟩, -, -, -⟩, puts⟩ | fails)
  · cases read.symm.trans again
    -- The file that the run should have written is the device, which is still there.
    obtain - | ⟨-, ⟨s, -, content⟩, -⟩ := puts
    rw [(sinks sunk).kept] at content
    cases content
  · exact fails.ending succeeds.ending

def outlineOfA : String := "name = \"A\"\n\n[peripherals]\n\n[interrupts]\n"

theorem run_puts_all_or_nothing_replacing :
    Toml.KeepsPlain Toml.text? ∧ readLine (dumping "toml" "./a.svd") ≠ .help ∧
      (run (surroundings Toml.text? shelf) (dumping "toml" "./a.svd")).ending = .exit 0 ∧
      Files.entry? ((run (surroundings Toml.text? shelf) (dumping "toml" "./a.svd")).filesAfter
        shelf) ["work", "a.svd"] = some (.file outlineOfA.toUTF8.toList) := by
  have read : readLine (dumping "toml" "./a.svd") = .run 0 (dumped .toml "./a.svd") := rfl
  have unhelped : readLine (dumping "toml" "./a.svd") ≠ .help := by
    rw [read]
    nofun
  have settings : ∀ verbosity request,
      readLine (dumping "toml" "./a.svd") = .run verbosity request → request.Plain := by
    rw [read]
    rintro _ _ ⟨⟩
    exact plain_dumped
  have answers : Answers Toml.text? shelf (dumped .toml "./a.svd") outlineOfA :=
    answers_dumped (.inl ⟨fileOfA, rfl⟩) (.toml rfl rfl outline_fileOfA rfl)
  obtain ⟨either, answered⟩ :=
    @run_puts_all_or_nothing Toml.text? Toml.keepsPlain_text? shelf _ unhelped settings
  have ending := (answered 0 _ read).1 _ answers
  refine ⟨Toml.keepsPlain_text?, unhelped, ending, ?_⟩
  obtain (⟨request, text, succeeds, puts⟩ | fails) | ⟨request, text, succeeds, sinks⟩ := either
  · obtain ⟨_, again⟩ := succeeds.read
    cases read.symm.trans again
    obtain - | ⟨-, ⟨s, same, content⟩, -⟩ := puts
    cases Text.ofString_injective (same.symm.trans (succeeds.answers.unique answers))
    exact content
  · exact absurd ending fails.ending
  · obtain ⟨_, again⟩ := succeeds.read
    cases read.symm.trans again
    cases sinks.sink

end RegisterMap.Command
