import RegisterMap.Command.Run
import RegisterMap.Proofs.Results

/-!
What a command line asks for. Behind the command each option has a value, attached to it or in the
word behind it. Of several values for one option the last one counts, but all peripherals are
gathered in their order. A line that names no command holds nothing but options.
-/

set_option autoImplicit false

namespace RegisterMap.Command

/-- The values that words give to options, and the words that belong to nothing. -/
inductive Supplies : List (Word ActionOption) → List (ActionOption × Given String) →
    List String → Prop
  | nil : Supplies [] [] []
  | value {rest : List (Word ActionOption)} {given : List (ActionOption × Given String)}
      {extra : List String} (text : String) (others : Supplies rest given extra) :
      Supplies (.value text :: rest) given (text :: extra)
  | separator {rest : List (Word ActionOption)} {given : List (ActionOption × Given String)}
      {extra : List String} (others : Supplies rest given extra) :
      Supplies (.separator :: rest) given ("--" :: extra)
  | unknown {rest : List (Word ActionOption)} {given : List (ActionOption × Given String)}
      {extra : List String} (text : String) (others : Supplies rest given extra) :
      Supplies (.unknown text :: rest) given (text :: extra)
  | attached {rest : List (Word ActionOption)} {given : List (ActionOption × Given String)}
      {extra : List String} {o : ActionOption} (name : String) (text : List Char)
      (valued : o ≠ .help) (others : Supplies rest given extra) :
      Supplies (.option o name (some text) :: rest) ((o, .ofAttached text) :: given) extra
  | behind {rest : List (Word ActionOption)} {given : List (ActionOption × Given String)}
      {extra : List String} {o : ActionOption} (name text : String) (valued : o ≠ .help)
      (others : Supplies rest given extra) :
      Supplies (.option o name none :: .value text :: rest) ((o, .value text) :: given) extra

/-- The values of one option, in their order. -/
def valuesOf (o : ActionOption) (given : List (ActionOption × Given String)) :
    List (Given String) :=
  (given.filter fun g => g.1 = o).map Prod.snd

/-- The demand has the last value of each option, and all peripherals. -/
structure Demand.Follows (d : Demand) (given : List (ActionOption × Given String)) : Prop where
  svdFile : d.svdFile = (valuesOf .svdFile given).getLast?
  parseOptions : d.parseOptions.map Except.ok =
    (valuesOf .parseOptions given).getLast?.map (Given.read parseOptionsOf)
  peripherals : d.peripherals =
    if valuesOf .peripheral given = [] then none else some (valuesOf .peripheral given)
  outputFile : d.outputFile = (valuesOf .outputFile given).getLast?
  format : .ok d.format =
    ((valuesOf .outputFormat given).getLast?.map (Given.read formatOf)).getD (.ok (.value .json))

/-! ## Values -/

theorem valuesOf_same (o : ActionOption) (given : List (ActionOption × Given String))
    (g : Given String) : valuesOf o (given ++ [(o, g)]) = valuesOf o given ++ [g] := by
  simp [valuesOf]

theorem valuesOf_other {o other : ActionOption} (differ : other ≠ o)
    (given : List (ActionOption × Given String)) (g : Given String) :
    valuesOf o (given ++ [(other, g)]) = valuesOf o given := by
  simp [valuesOf, differ]

theorem Demand.Follows.put {d e : Demand} {given : List (ActionOption × Given String)}
    (follows : d.Follows given) {o : ActionOption} (valued : o ≠ .help) {g : Given String}
    (ok : d.put o g = .ok e) : e.Follows (given ++ [(o, g)]) := by
  obtain ⟨svdFile, parseOptions, peripherals, outputFile, format⟩ := follows
  cases o with
  | help => exact absurd rfl valued
  | svdFile =>
    cases ok
    refine ⟨?_, ?_, ?_, ?_, ?_⟩
    · rw [valuesOf_same, List.getLast?_concat]
    all_goals rw [valuesOf_other (by decide)]; assumption
  | parseOptions =>
    obtain ⟨v, read, rfl⟩ := map_eq_ok.mp ok
    refine ⟨?_, ?_, ?_, ?_, ?_⟩
    case refine_2 =>
      rw [valuesOf_same, List.getLast?_concat, Option.map_some, Option.map_some, read]
    all_goals rw [valuesOf_other (by decide)]; assumption
  | peripheral =>
    cases ok
    refine ⟨?_, ?_, ?_, ?_, ?_⟩
    case refine_3 =>
      rw [valuesOf_same, if_neg (by simp), peripherals]
      by_cases none : valuesOf .peripheral given = []
      · rw [if_pos none, none]
        rfl
      · rw [if_neg none]
        rfl
    all_goals rw [valuesOf_other (by decide)]; assumption
  | outputFile =>
    cases ok
    refine ⟨?_, ?_, ?_, ?_, ?_⟩
    case refine_4 => rw [valuesOf_same, List.getLast?_concat]
    all_goals rw [valuesOf_other (by decide)]; assumption
  | outputFormat =>
    obtain ⟨f, read, rfl⟩ := map_eq_ok.mp ok
    refine ⟨?_, ?_, ?_, ?_, ?_⟩
    case refine_5 =>
      rw [valuesOf_same, List.getLast?_concat, Option.map_some, Option.getD_some, read]
    all_goals rw [valuesOf_other (by decide)]; assumption

theorem follows_nil : ({} : Demand).Follows [] := ⟨rfl, rfl, rfl, rfl, rfl⟩

/-! ## Words -/

theorem letters_ne_nil {α : Type} {v : Vocabulary α} {plain : List α} {o : α} {text : List Char}
    {c : Cluster α} (ok : v.letters plain o text = .ok c) : c.plain ≠ [] := by
  induction text generalizing plain o with
  | nil =>
    cases ok
    simp
  | cons letter rest ih =>
    unfold Vocabulary.letters at ok
    split at ok
    · cases ok
    · split at ok
      · cases ok
        simp
      · exact ih ok

theorem clusterOf_valued (a : Action) {o : ActionOption} (valued : o ≠ .help) (name : String)
    (attached : Option (List Char)) :
    clusterOf (actionVocabulary a) ActionOption.text o name attached =
      .ok { valued := some (o, attached) } := by
  have takes : (actionVocabulary a).takesValue o = true := decide_eq_true valued
  unfold clusterOf Vocabulary.cluster
  rw [if_pos takes]
  rfl

/-- What stands for help has nothing but options without value in front. -/
theorem plain_of_help {a : Action} {name : String} {attached : Option (List Char)}
    {c : Cluster ActionOption}
    (ok : clusterOf (actionVocabulary a) ActionOption.text .help name attached = .ok c) :
    c.plain ≠ [] := by
  have plain : (actionVocabulary a).takesValue .help ≠ true := of_decide_eq_false rfl
  unfold clusterOf Vocabulary.cluster at ok
  rw [if_neg plain] at ok
  cases attached with
  | none =>
    cases ok
    exact List.cons_ne_nil _ _
  | some text =>
    dsimp only at ok
    split at ok
    · cases ok
    · cases lettered : (actionVocabulary a).letters [] ActionOption.help text with
      | error needless =>
        rw [lettered] at ok
        cases ok
      | ok found =>
        rw [lettered] at ok
        cases ok
        exact letters_ne_nil lettered

theorem take_eq_ok {d e : Demand} {before : List ActionOption} {o : ActionOption}
    {g : Given String} (ok : d.take before o g = .ok e) : before = [] ∧ d.put o g = .ok e := by
  unfold Demand.take at ok
  split at ok
  case isTrue none => exact ⟨List.isEmpty_iff.mp none, ok⟩
  case isFalse => cases ok

/-- An option that is given a value stands for itself, with what is attached to it. -/
theorem cluster_of_take {a : Action} {o other : ActionOption} {name : String}
    {attached value : Option (List Char)} {c : Cluster ActionOption} {d e : Demand}
    {g : Given String}
    (stands : clusterOf (actionVocabulary a) ActionOption.text o name attached = .ok c)
    (valued : c.valued = some (other, value)) (ok : d.take c.plain other g = .ok e) :
    o ≠ .help ∧ other = o ∧ value = attached ∧ d.put o g = .ok e := by
  obtain ⟨plain, put⟩ := take_eq_ok ok
  have option : o ≠ .help := by
    rintro rfl
    exact plain_of_help stands plain
  cases stands.symm.trans (clusterOf_valued a option name attached)
  cases valued
  exact ⟨option, rfl, rfl, put⟩

theorem scan_follows {a : Action} {d : Demand} {before : List (ActionOption × Given String)}
    (follows : d.Follows before) {extra : List String} {words : List (Word ActionOption)}
    {result : Scanned} (ok : d.scan (actionVocabulary a) extra words = .ok result) :
    ∃ given more, Supplies words given more ∧ result.extra = extra ++ more ∧
      result.demand.Follows (before ++ given) := by
  induction d, extra, words using Demand.scan.induct (actionVocabulary a) generalizing before with
  | case1 d extra =>
    rw [Demand.scan] at ok
    cases ok
    exact ⟨[], [], .nil, (List.append_nil _).symm, by rwa [List.append_nil]⟩
  | case2 d extra text rest ih =>
    rw [Demand.scan] at ok
    obtain ⟨given, more, supplies, left, final⟩ := ih follows ok
    exact ⟨given, text :: more, .value text supplies, by rw [left, List.append_assoc]; rfl, final⟩
  | case3 d extra rest ih =>
    rw [Demand.scan] at ok
    obtain ⟨given, more, supplies, left, final⟩ := ih follows ok
    exact ⟨given, "--" :: more, .separator supplies, by rw [left, List.append_assoc]; rfl, final⟩
  | case4 d extra text rest ih =>
    rw [Demand.scan] at ok
    obtain ⟨given, more, supplies, left, final⟩ := ih follows ok
    exact ⟨given, text :: more, .unknown text supplies, by rw [left, List.append_assoc]; rfl, final⟩
  | case7 d extra o name attached c stands other text rest valued e taken ih =>
    simp only [Demand.scan, stands, valued, taken] at ok
    obtain ⟨option, rfl, rfl, put⟩ := cluster_of_take stands valued taken
    obtain ⟨given, more, supplies, left, final⟩ := ih (follows.put option put) ok
    rw [List.append_assoc] at final
    exact ⟨_, more, .attached name text option supplies, left, final⟩
  | case9 d extra o name attached c stands other text rest valued e taken ih =>
    simp only [Demand.scan, stands, valued, taken] at ok
    obtain ⟨option, rfl, rfl, put⟩ := cluster_of_take stands valued taken
    obtain ⟨given, more, supplies, left, final⟩ := ih (follows.put option put) ok
    rw [List.append_assoc] at final
    exact ⟨_, more, .behind name text option supplies, left, final⟩
  | _ => simp_all [Demand.scan]

/-! ## Lines -/

/-- The request has what the words behind its command give. -/
structure Request.Follows (request : Request) (given : List (ActionOption × Given String)) :
    Prop where
  svdFile : (valuesOf .svdFile given).getLast? = some request.svdFile
  parseOptions : request.parseOptions.map Except.ok =
    (valuesOf .parseOptions given).getLast?.map (Given.read parseOptionsOf)
  peripherals : request.peripherals =
    if valuesOf .peripheral given = [] then none else some (valuesOf .peripheral given)
  outputFile : request.outputFile = (valuesOf .outputFile given).getLast?
  format : .ok request.format =
    ((valuesOf .outputFormat given).getLast?.map (Given.read formatOf)).getD (.ok (.value .json))

theorem readAction_eq_run {verbosity verbosity' : Nat} {extra texts : List String} {a : Action}
    {request : Request} (reads : readAction verbosity extra a texts = .run verbosity' request) :
    request.action = a ∧ ∃ given, Supplies ((actionVocabulary a).words texts) given [] ∧
      request.Follows given := by
  unfold readAction at reads
  cases scanned : Demand.scan (actionVocabulary a) {} [] ((actionVocabulary a).words texts) with
  | error stop => cases stop <;> simp only [scanned] at reads <;> cases reads
  | ok result =>
    obtain ⟨given, more, supplies, left, final⟩ := scan_follows follows_nil scanned
    rw [List.nil_append] at left final
    obtain ⟨d, more⟩ := result
    cases left
    simp only [scanned] at reads
    split at reads
    · cases reads
    · rename_i file found
      split at reads
      case isFalse => cases reads
      case isTrue none =>
        rw [List.isEmpty_iff, List.append_eq_nil_iff] at none
        obtain ⟨-, rfl⟩ := none
        cases reads
        refine ⟨rfl, given, supplies, ?_, final.parseOptions, final.peripherals, final.outputFile,
          final.format⟩
        rw [← final.svdFile, found]

theorem withEquals?_cases {α : Type} {v : Vocabulary α} {s : List Char} {w : Word α}
    (found : v.withEquals? s = some w) : ∃ o name attached, w = .option o name attached := by
  unfold Vocabulary.withEquals? at found
  dsimp only at found
  split at found
  · cases found
  · obtain ⟨o, -, rfl⟩ := Option.map_eq_some_iff.mp found
    exact ⟨o, _, _, rfl⟩

theorem withLetter?_cases {α : Type} {v : Vocabulary α} {s : List Char} {w : Word α}
    (found : v.withLetter? s = some w) : ∃ o name attached, w = .option o name attached := by
  unfold Vocabulary.withLetter? at found
  split at found
  · split at found
    · cases found
    · obtain ⟨o, -, rfl⟩ := Option.map_eq_some_iff.mp found
      exact ⟨o, _, _, rfl⟩
  · cases found

/-- A word is a value or unknown as it was given, or else an option. -/
theorem word_cases {α : Type} (v : Vocabulary α) (text : String) :
    v.word text = .value text ∨ v.word text = .unknown text ∨
      ∃ o name attached, v.word text = .option o name attached := by
  unfold Vocabulary.word
  dsimp only
  split
  · exact .inl rfl
  split
  · exact .inr (.inr ⟨_, _, _, rfl⟩)
  split
  · exact .inl rfl
  split
  · rename_i w found
    refine .inr (.inr ?_)
    rcases Option.or_eq_some_iff.mp found with equals | ⟨-, letter⟩
    · exact withEquals?_cases equals
    · exact withLetter?_cases letter
  · split
    · exact .inl rfl
    · exact .inr (.inl rfl)

theorem readCommand_eq_run {verbosity verbosity' : Nat} {extra texts : List String} {name : String}
    {request : Request} (reads : readCommand verbosity extra name texts = .run verbosity' request) :
    Action.ofText? name = some request.action ∧ ∃ given,
      Supplies ((actionVocabulary request.action).words texts) given [] ∧
        request.Follows given := by
  unfold readCommand at reads
  cases found : Action.ofText? name with
  | none =>
    rw [found] at reads
    cases reads
  | some a =>
    rw [found] at reads
    obtain ⟨rfl, asked⟩ := readAction_eq_run reads
    exact ⟨rfl, asked⟩

/-- The words of a line up to its first value, which names the command, and those behind it. -/
structure Splits (texts before : List String) (name : String) (after : List String) : Prop where
  texts : texts = before ++ name :: after
  first : programVocabulary.word name = .value name
  before : ∀ text ∈ before, ∀ value, programVocabulary.word text ≠ .value value

theorem readProgram_eq_run {verbosity verbosity' : Nat} {extra texts : List String}
    {request : Request}
    (reads : readProgram verbosity extra (programVocabulary.words texts) texts =
      .run verbosity' request) :
    ∃ before name after, Splits texts before name after ∧
      ∃ verbosity extra, readCommand verbosity extra name after = .run verbosity' request := by
  induction texts generalizing verbosity extra with
  | nil =>
    simp only [Vocabulary.words, readProgram] at reads
    split at reads <;> cases reads
  | cons text rest ih =>
    have step : ∀ verbosity extra, (∀ value, programVocabulary.word text ≠ .value value) →
        readProgram verbosity extra (programVocabulary.words rest) rest =
          .run verbosity' request →
        ∃ before name after, Splits (text :: rest) before name after ∧
          ∃ verbosity extra, readCommand verbosity extra name after = .run verbosity' request := by
      intro verbosity extra other reads
      obtain ⟨before, name, after, ⟨texts, first, others⟩, command⟩ := ih reads
      refine ⟨text :: before, name, after, ⟨?_, first, ?_⟩, command⟩
      · rw [texts, List.cons_append]
      · exact List.forall_mem_cons.mpr ⟨other, others⟩
    rw [Vocabulary.words] at reads
    split at reads
    · -- Behind a double hyphen all words are values, so that it names the command itself.
      cases rest with
      | nil =>
        simp only [List.map_nil, readProgram] at reads
        split at reads <;> cases reads
      | cons next rest =>
        simp only [List.map_cons, readProgram] at reads
        cases reads
    · obtain value | unknown | ⟨o, name, attached, option⟩ := word_cases programVocabulary text
      · rw [value, readProgram] at reads
        exact ⟨[], text, rest, ⟨rfl, value, nofun⟩, verbosity, extra, reads⟩
      · rw [unknown, readProgram] at reads
        refine step _ _ (fun _ same => ?_) reads
        rw [unknown] at same
        cases same
      · rw [option, readProgram] at reads
        split at reads
        · cases reads
        · split at reads
          · cases reads
          · refine step _ _ (fun _ same => ?_) reads
            rw [option] at same
            cases same

/-- The first value of the line names the command, and the words behind it give the request. -/
def Asks (texts : List String) (request : Request) : Prop :=
  ∃ before name after given, Splits texts before name after ∧
    Action.ofText? name = some request.action ∧
    Supplies ((actionVocabulary request.action).words after) given [] ∧
    request.Follows given

theorem asks_of_run {texts : List String} {verbosity : Nat} {request : Request}
    (reads : readLine texts = .run verbosity request) : Asks texts request := by
  obtain ⟨before, name, after, splits, _, _, command⟩ := readProgram_eq_run reads
  obtain ⟨action, given, supplies, follows⟩ := readCommand_eq_run command
  exact ⟨before, name, after, given, splits, action, supplies, follows⟩

/-! ## Lines without a command -/

theorem readCommand_ne_noAction (verbosity : Nat) (extra texts : List String) (name : String) :
    readCommand verbosity extra name texts ≠ .noAction := by
  unfold readCommand
  split
  · unfold readAction
    dsimp only
    split
    · nofun
    · nofun
    · nofun
    · split
      · nofun
      · split <;> nofun
  · nofun

/-- No word of the line names a command: all of them are options of the program. -/
def Unnamed (texts : List String) : Prop :=
  ∀ text ∈ texts, ∃ o name attached, programVocabulary.word text = .option o name attached

theorem readProgram_eq_noAction {verbosity : Nat} {extra texts : List String}
    (reads : readProgram verbosity extra (programVocabulary.words texts) texts = .noAction) :
    extra = [] ∧ Unnamed texts := by
  induction texts generalizing verbosity extra with
  | nil =>
    simp only [Vocabulary.words, readProgram] at reads
    split at reads
    · exact ⟨List.isEmpty_iff.mp ‹_›, nofun⟩
    · cases reads
  | cons text rest ih =>
    rw [Vocabulary.words] at reads
    split at reads
    · cases rest with
      | nil =>
        simp only [List.map_nil, readProgram] at reads
        split at reads <;> simp_all
      | cons next rest =>
        simp only [List.map_cons, readProgram] at reads
        exact absurd reads (readCommand_ne_noAction _ _ _ _)
    · obtain value | unknown | ⟨o, name, attached, option⟩ := word_cases programVocabulary text
      · rw [value, readProgram] at reads
        exact absurd reads (readCommand_ne_noAction _ _ _ _)
      · rw [unknown, readProgram] at reads
        exact absurd (ih reads).1 (by simp)
      · rw [option, readProgram] at reads
        split at reads
        · cases reads
        · split at reads
          · cases reads
          · obtain ⟨none, others⟩ := ih reads
            exact ⟨none, List.forall_mem_cons.mpr ⟨⟨o, name, attached, option⟩, others⟩⟩

end RegisterMap.Command
