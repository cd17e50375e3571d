import RegisterMap.Proofs.Canonical.Tags
import RegisterMap.Proofs.Numeral.Positional
import RegisterMap.Proofs.Reader.Run

/-!
Reading canonical lines. `Reads` relates a reader to what it becomes behind some lines, whatever its
line count is, so that readings can be put together in the order of the lines: those of the
attributes of an entity, of an element with its children, and of a list of entities.
-/

set_option autoImplicit false

namespace RegisterMap.Document

namespace Reader

/-- Whatever its line count is, the reader can read the lines, and becomes the next one. -/
def Reads (o : Settings) (r : Reader) (lines : List String) (next : Reader) : Prop :=
  ∀ n, ∃ m, Smooth o { r with line := n } lines ∧
    fed o { r with line := n } lines = { next with line := m }

/-- The tag that opens the element takes the reader to the next one. -/
def Enters (o : Settings) (r : Reader) (e : Element) (next : Reader) : Prop :=
  ∀ n t, t.mark = .opening e → t.derivedFrom = none →
    ∃ notices, read o { r with line := n } t = .ok ({ next with line := n }, notices)

/-- The tag that closes the element takes the reader to the next one. -/
def Leaves (o : Settings) (r : Reader) (e : Element) (next : Reader) : Prop :=
  ∀ n t, t.mark = .closing e →
    ∃ notices, read o { r with line := n } t = .ok ({ next with line := n }, notices)

/-- Where these readers are, the element is an attribute of what they describe. -/
def Describes {α : Type} (o : Settings) (changeOf : Element → String → Change α)
    (reader : α → Reader) (e : Element) : Prop :=
  ∀ x n t data change, t.Tells e data → changeOf e data = .ok change →
    read o { reader x with line := n } t = .ok ({ reader (change x) with line := n }, [])

section

variable {o : Settings} {r s next : Reader} {lines : List String} {e : Element}

theorem Reads.nil (r : Reader) : Reads o r [] r := fun n => ⟨n, trivial, rfl⟩

theorem Reads.append {more : List String} (first : Reads o r lines s)
    (second : Reads o s more next) : Reads o r (lines ++ more) next := by
  intro n
  obtain ⟨m, smooth, run⟩ := first n
  obtain ⟨k, later, ends⟩ := second m
  rw [← run] at later ends
  exact ⟨k, (smooth_append ..).mpr ⟨smooth, later⟩, (fed_append ..).trans ends⟩

theorem Reads.flatMap {α : Type} (f : α → List String) (reader : List α → Reader) {xs : List α}
    (each : ∀ done x rest, done ++ x :: rest = xs →
      Reads o (reader done) (f x) (reader (done ++ [x]))) :
    Reads o (reader []) (xs.flatMap f) (reader xs) := by
  have from_done : ∀ rest done, done ++ rest = xs →
      Reads o (reader done) (rest.flatMap f) (reader xs) := by
    intro rest
    induction rest with
    | nil =>
      rintro done rfl
      rw [List.append_nil]
      exact .nil _
    | cons x rest ih =>
      intro done whole
      refine (each done x rest whole).append (ih (done ++ [x]) ?_)
      rw [List.append_assoc, List.singleton_append, whole]
  exact from_done xs [] rfl

theorem reads_line {line : String} {t : Tag} (tagged : Tag.ofLine? line = some t)
    (step : ∀ n, ∃ notices,
      read o { r with line := n } t = .ok ({ next with line := n }, notices)) :
    Reads o r [line] next := by
  intro n
  obtain ⟨notices, progress⟩ := step (n + 1)
  have fed : feed o { r with line := n } line =
      { reader := { next with line := n + 1 }, notices := notices } := by
    rw [feed_of_tag tagged]
    exact congrArg (Step.ofProgress _) progress
  exact ⟨n + 1, ⟨by rw [fed], trivial⟩, by rw [fed_cons, fed, fed_nil]⟩

theorem Enters.around {inner last : Reader} (enters : Enters o r e inner)
    (children : Reads o inner lines last) (leaves : Leaves o last e next) :
    Reads o r (e.around lines) next := by
  obtain ⟨t, tagged, mark, derived⟩ := e.ofLine?_opens
  obtain ⟨u, closed, slash⟩ := e.ofLine?_closes
  have first : Reads o r [e.opens] inner := reads_line tagged fun n => enters n t mark derived
  have end_ : Reads o last [e.closes] next := reads_line closed fun n => leaves n u slash
  exact first.append (children.append end_)

/-- A tag that only leads to another place is always read. -/
theorem Enters.of_passage {target : Place} (passage : Passage r.place (.opening e) target) :
    Enters o r e { r with place := target } := by
  intro n t mark _
  rw [← mark] at passage
  exact ⟨_, read_of_passage (r := { r with line := n }) passage⟩

theorem Leaves.of_passage {target : Place} (passage : Passage r.place (.closing e) target) :
    Leaves o r e { r with place := target } := by
  intro n t mark
  rw [← mark] at passage
  exact ⟨_, read_of_passage (r := { r with line := n }) passage⟩

/-! ## Attributes -/

section

variable {α : Type} {changeOf : Element → String → Change α} {reader : α → Reader} {x : α}
  {v : Value}

theorem Describes.reads_holding {data : String} {change : α → α}
    (describes : Describes o changeOf reader e) (x : α) (plain : '<' ∉ data.toList)
    (known : changeOf e data = .ok change) :
    Reads o (reader x) [e.holding data] (reader (change x)) := by
  obtain ⟨t, tagged, tells⟩ := e.ofLine?_holding plain
  exact reads_line tagged fun n => ⟨[], describes x n t data change tells known⟩

theorem Reads.text (before : Reads o r lines (reader x)) (describes : Describes o changeOf reader e)
    (put : Value → α → α) (kind : ∀ data, changeOf e data = textual data put) (plain : v.IsPlain)
    (unset : put (.text []) x = x) : Reads o r (lines ++ e.textLines v) (reader (put v x)) := by
  refine before.append ?_
  obtain ⟨s, rfl, clear⟩ := plain
  by_cases empty : s = ""
  · subst empty
    have same : put (.ofString "") x = x := unset
    rw [same]
    exact .nil _
  · have lines : e.textLines (.ofString s) = [e.holding s] := by
      simp [Element.textLines, Value.ofString, empty]
    rw [lines]
    exact describes.reads_holding x clear (kind s)

theorem Reads.decimal (before : Reads o r lines (reader x))
    (describes : Describes o changeOf reader e) (put : Value → α → α)
    (kind : ∀ data, changeOf e data = decimal data put) (word : v.MaybeWord)
    (unset : v = .null → put .null x = x) :
    Reads o r (lines ++ e.decimalLines v) (reader (put v x)) := by
  refine before.append ?_
  obtain rfl | ⟨n, bound, rfl⟩ := word
  · rw [unset rfl]
    exact .nil _
  · refine describes.reads_holding x (fun member => ?_) ?_
    · exact Numeral.digit?_ne_none_of_mem_text (by decide) (by decide) member (by decide)
    · rw [kind, Document.decimal, Numeral.decimal?_decimalText bound]
      rfl

theorem Reads.hex (before : Reads o r lines (reader x)) (describes : Describes o changeOf reader e)
    (put : Value → α → α) (kind : ∀ data, changeOf e data = hexadecimal data put)
    (word : v.MaybeWord) (unset : v = .null → put .null x = x) :
    Reads o r (lines ++ e.hexLines v) (reader (put v x)) := by
  refine before.append ?_
  obtain rfl | ⟨n, bound, rfl⟩ := word
  · rw [unset rfl]
    exact .nil _
  · refine describes.reads_holding x (fun member => ?_) ?_
    · rw [String.toList_append] at member
      rcases List.mem_append.mp member with start | digit
      · exact absurd start (by decide)
      · exact Numeral.digit?_ne_none_of_mem_text (by decide) (by decide) digit (by decide)
    · rw [kind, hexadecimal, Numeral.hexadecimal?_hexText bound]
      rfl

theorem Reads.truth (before : Reads o r lines (reader x))
    (describes : Describes o changeOf reader e) (put : Value → α → α)
    (kind : ∀ data, changeOf e data = truth data put) (value : v.MaybeTruth)
    (unset : put .null x = x) : Reads o r (lines ++ e.truthLines v) (reader (put v x)) := by
  refine before.append ?_
  obtain rfl | ⟨b, rfl⟩ := value
  · rw [unset]
    exact .nil _
  · refine describes.reads_holding x ?_ ?_
    · cases b <;> decide
    · rw [kind]
      cases b <;> rfl

theorem Reads.access (before : Reads o r lines (reader x))
    (describes : Describes o changeOf reader e) (put : Access → α → α)
    (kind : ∀ data, changeOf e data = right data put) (a : Access) :
    Reads o r (lines ++ e.accessLines a) (reader (put a x)) := by
  refine before.append (describes.reads_holding x ?_ ?_)
  · cases a <;> decide
  · rw [kind]
    cases a <;> rfl

end

end

end Reader

end RegisterMap.Document
