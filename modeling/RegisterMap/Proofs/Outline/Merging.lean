import Mathlib.Data.List.Induction
import RegisterMap.Proofs.Outline.Objects

/-!
Entities that share a name. In an object with members under the names of entities every name stands
once, at the place of its first entity, and has the value of its last one.
-/

set_option autoImplicit false

namespace RegisterMap

/-! ## Lists without repetitions -/

section

variable {κ : Type} [BEq κ] [LawfulBEq κ]

theorem eraseDups_concat (names : List κ) (name : κ) :
    (names ++ [name]).eraseDups =
      if name ∈ names then names.eraseDups else names.eraseDups ++ [name] := by
  rw [List.eraseDups_append, List.removeAll]
  by_cases known : name ∈ names <;> simp [known, List.eraseDups_cons]

theorem nodup_eraseDups (names : List κ) : names.eraseDups.Nodup := by
  induction names using List.reverseRecOn with
  | nil => exact List.nodup_nil
  | append_singleton names name ih =>
    rw [eraseDups_concat]
    split
    · exact ih
    case isFalse new =>
      rw [← List.concat_eq_append]
      exact ih.concat fun known => new (List.mem_eraseDups.mp known)

end

/-- The elements at the ends of two lists belong together as all others do. -/
theorem getLast?_of_forall₂ {α β : Type} {related : α → β → Prop} {xs : List α} {ys : List β}
    (each : List.Forall₂ related xs ys) {y : β} (last : ys.getLast? = some y) :
    ∃ x, xs.getLast? = some x ∧ related x y := by
  have reversed := List.forall₂_reverse_iff.mpr each
  rw [List.getLast?_eq_head?_reverse] at last ⊢
  obtain ⟨rest, ending⟩ := List.head?_eq_some_iff.mp last
  rw [ending] at reversed
  obtain ⟨x, others, first, -, beginning⟩ := List.forall₂_cons_right_iff.mp reversed
  exact ⟨x, by rw [beginning]; rfl, first⟩

/-! ## Members under repeated names -/

namespace Members

variable {κ ι α : Type}

theorem ofList_concat (same : κ → κ → Bool) (members : List (κ × α)) (m : κ × α) :
    ofList same (members ++ [m]) = put same m.1 m.2 (ofList same members) := by
  rw [ofList, List.foldl_append]
  rfl

section

variable {same : κ → κ → Bool} {other : ι → ι → Bool} {f : κ → ι}
  (agree : ∀ a b, other (f a) (f b) = same a b)

include agree

theorem put_map (name : κ) (v : α) (members : List (κ × α)) :
    put other (f name) v (members.map fun m => (f m.1, m.2)) =
      (put same name v members).map fun m => (f m.1, m.2) := by
  induction members with
  | nil => rfl
  | cons m rest ih =>
    rw [List.map_cons, put, put, agree, ih]
    split <;> rfl

/-- How names are spelled is nothing to members, as long as the same names are told apart. -/
theorem ofList_map (members : List (κ × α)) :
    ofList other (members.map fun m => (f m.1, m.2)) =
      (ofList same members).map fun m => (f m.1, m.2) := by
  induction members using List.reverseRecOn with
  | nil => rfl
  | append_singleton members m ih =>
    rw [List.map_append, List.map_singleton, ofList_concat, ofList_concat, ih, put_map agree]

end

variable [BEq κ] [LawfulBEq κ]

theorem keys_put (name : κ) (v : α) (members : List (κ × α)) :
    (put (· == ·) name v members).map Prod.fst =
      if name ∈ members.map Prod.fst then members.map Prod.fst
      else members.map Prod.fst ++ [name] := by
  induction members with
  | nil => simp [put]
  | cons m rest ih =>
    rw [put]
    by_cases here : m.1 = name
    · simp [here]
    · rw [if_neg (by simpa using here), List.map_cons, List.map_cons, ih]
      by_cases known : name ∈ rest.map Prod.fst
      · rw [if_pos known, if_pos (.tail _ known)]
      · rw [if_neg known, if_neg (List.not_mem_cons_of_ne_of_not_mem (Ne.symm here) known)]
        rfl

/-- Every name is listed once, in the order in which the names were first given. -/
theorem keys_ofList (members : List (κ × α)) :
    (ofList (· == ·) members).map Prod.fst = (members.map Prod.fst).eraseDups := by
  induction members using List.reverseRecOn with
  | nil => rfl
  | append_singleton members m ih =>
    rw [ofList_concat, keys_put, ih, List.map_append, List.map_singleton, eraseDups_concat]
    simp only [List.mem_eraseDups]

theorem mem_put {name : κ} {v : α} {members : List (κ × α)}
    (distinct : (members.map Prod.fst).Nodup) {m : κ × α}
    (listed : m ∈ put (· == ·) name v members) :
    m = (name, v) ∨ m ∈ members ∧ m.1 ≠ name := by
  induction members with
  | nil => exact .inl (List.mem_singleton.mp listed)
  | cons k rest ih =>
    obtain ⟨new, apart⟩ := List.nodup_cons.mp distinct
    rw [put] at listed
    split at listed
    case isTrue here =>
      have here : k.1 = name := eq_of_beq here
      rcases List.mem_cons.mp listed with rfl | behind
      · exact .inl (Prod.ext here rfl)
      · refine .inr ⟨.tail k behind, fun same => new ?_⟩
        rw [here, ← same]
        exact List.mem_map_of_mem behind
    case isFalse other =>
      rcases List.mem_cons.mp listed with rfl | behind
      · exact .inr ⟨.head rest, fun same => other (beq_of_eq same)⟩
      · rcases ih apart behind with replaced | ⟨old, differs⟩
        · exact .inl replaced
        · exact .inr ⟨.tail k old, differs⟩

/-- Every name has the value that it was given last. -/
theorem getLast?_of_mem_ofList {members : List (κ × α)} {m : κ × α}
    (listed : m ∈ ofList (· == ·) members) :
    (members.filter fun k => k.1 == m.1).getLast? = some m := by
  -- From the end: the member given last either is the one at hand or has another name.
  induction members using List.reverseRecOn with
  | nil => cases listed
  | append_singleton members k ih =>
    rw [ofList_concat] at listed
    have distinct : ((ofList (· == ·) members).map Prod.fst).Nodup := by
      rw [keys_ofList]
      exact nodup_eraseDups _
    rw [List.filter_append, List.filter_singleton]
    rcases mem_put distinct listed with rfl | ⟨old, differs⟩
    · simp
    · have apart : (k.1 == m.1) = false := beq_false_of_ne (Ne.symm differs)
      simpa [apart] using ih old

end Members

/-! ## Entities under their names -/

namespace Outline

variable {α : Type}

/-- The text that an entity is shown under, if its name is a text that is not empty. -/
def title? (name : α → Value) (e : α) : Option Text :=
  match name e with
  | .text s => if s = [] then none else some s
  | _ => none

def titles (name : α → Value) (entities : List α) : List Text := entities.filterMap (title? name)

def firstNamed? (name : α → Value) (s : Text) (entities : List α) : Option α :=
  (entities.filter fun e => name e = .text s).head?

def lastNamed? (name : α → Value) (s : Text) (entities : List α) : Option α :=
  (entities.filter fun e => name e = .text s).getLast?

/-- Members for the names of the entities, of which each stands at the place of the first entity of
this name and shows the last one. -/
structure Merges (name : α → Value) (shows : α → Value → Prop) (entities : List α)
    (members : List (Text × Value)) : Prop where
  names : members.map Prod.fst = (titles name entities).eraseDups
  values : ∀ m ∈ members, ∃ e, lastNamed? name m.1 entities = some e ∧ shows e m.2

section

variable {name : α → Value} {entities : List α}

theorem title?_eq_some_iff {e : α} {s : Text} :
    title? name e = some s ↔ name e = .text s ∧ s ≠ [] := by
  unfold title?
  split
  case h_1 t named =>
    rw [named, Value.text.injEq]
    split
    case isTrue empty => exact ⟨nofun, fun ⟨same, written⟩ => absurd (same ▸ empty) written⟩
    case isFalse written =>
      exact ⟨fun same => by cases same; exact ⟨rfl, written⟩, fun ⟨same, _⟩ => congrArg some same⟩
  case h_2 other => exact ⟨nofun, fun ⟨named, _⟩ => absurd named (other s)⟩

theorem mem_titles_iff {s : Text} :
    s ∈ titles name entities ↔ s ≠ [] ∧ ∃ e ∈ entities, name e = .text s := by
  unfold titles
  simp only [List.mem_filterMap, title?_eq_some_iff]
  exact ⟨fun ⟨e, listed, named, written⟩ => ⟨written, e, listed, named⟩,
    fun ⟨written, e, listed, named⟩ => ⟨e, listed, named, written⟩⟩

theorem mem_of_lastNamed? {s : Text} {e : α} (last : lastNamed? name s entities = some e) :
    e ∈ entities ∧ name e = .text s := by
  have member := List.mem_filter.mp (List.mem_of_getLast? last)
  exact ⟨member.1, of_decide_eq_true member.2⟩

end

theorem byName_eq (members : List (Text × Value)) :
    byName (members.map fun m => (.text m.1, m.2)) =
      .object (Members.ofList (· == ·) members) := by
  have distinct : ((Members.ofList (· == ·) members).map Prod.fst).Nodup := by
    rw [Members.keys_ofList]
    exact nodup_eraseDups _
  have differ : (Members.ofList (· == ·) members).Pairwise fun a b => (a.1 == b.1) = false :=
    (List.pairwise_map.mp distinct).imp beq_false_of_ne
  unfold byName
  dsimp only
  rw [Members.ofList_map Value.alike_text, List.map_map]
  exact congrArg Value.object ((congrArg _ (List.map_id _)).trans
    (Members.ofList_of_distinct differ))

section

variable {name : α → Value} {body : α → Except Misfit Value} {entities : List α}

theorem isNothing_of_title? {e : α} {s : Text} (titled : title? name e = some s) :
    (name e).isNothing = false := by
  obtain ⟨named, written⟩ := title?_eq_some_iff.mp titled
  rw [named]
  cases s with
  | nil => exact absurd rfl written
  | cons c rest => rfl

/-- Only what an object shows has a title. -/
theorem titles_filter (name : α → Value) (entities : List α) :
    titles name (entities.filter fun e => !(name e).isNothing) = titles name entities := by
  induction entities with
  | nil => rfl
  | cons e rest ih =>
    unfold titles at ih ⊢
    cases titled : title? name e with
    | none =>
      rw [List.filterMap_cons_none titled, ← ih, List.filter_cons]
      split
      · exact List.filterMap_cons_none titled
      · rfl
    | some s =>
      rw [List.filter_cons_of_pos (by rw [isNothing_of_title? titled]; rfl),
        List.filterMap_cons_some titled, List.filterMap_cons_some titled, ih]

theorem titles_of_members {members : List (Text × Value)}
    (each : List.Forall₂ (IsMember name body) entities members)
    (written : ∀ e ∈ entities, name e ≠ .text []) :
    titles name entities = members.map Prod.fst := by
  induction each with
  | nil => rfl
  | cons first _ ih =>
    obtain ⟨here, others⟩ := List.forall_mem_cons.mp written
    have titled : title? name _ = some _ :=
      title?_eq_some_iff.mpr ⟨first.1, fun empty => here (empty ▸ first.1)⟩
    rw [titles, List.filterMap_cons_some titled, List.map_cons, ← ih others]
    rfl

/-- Entities that are named by texts, and of which each can be shown, merge into one object. -/
theorem named_merges {shows : α → Value → Prop} (texts : ∀ e ∈ entities, (name e).IsText)
    (bodies : ∀ e ∈ entities, ∃ v, body e = .ok v ∧ shows e v) :
    ∃ members, named name body entities = .ok (.object members) ∧
      Merges name shows entities members := by
  have named : ∀ e ∈ entities.filter fun e => !(name e).isNothing, (name e).IsText :=
    fun e kept => texts e (List.mem_filter.mp kept).1
  have shown : ∀ e ∈ entities.filter fun e => !(name e).isNothing, ∃ v, body e = .ok v :=
    fun e kept => (bodies e (List.mem_filter.mp kept).1).imp fun _ shown => shown.1
  obtain ⟨members, made, each⟩ := mapM_member named shown
  have written : ∀ e ∈ entities.filter fun e => !(name e).isNothing, name e ≠ .text [] := by
    intro e kept empty
    have something := (List.mem_filter.mp kept).2
    rw [empty] at something
    cases something
  refine ⟨Members.ofList (· == ·) members, ?_, ?_, fun m listed => ?_⟩
  · rw [Outline.named, made, ← byName_eq]
    rfl
  · rw [Members.keys_ofList, ← titles_of_members each written, titles_filter]
  · have last := Members.getLast?_of_mem_ofList listed
    have same := List.rel_filter (p := fun e => decide (name e = .text m.1))
      (q := fun k => k.1 == m.1) (fun e k is => by simp [is.1]) each
    obtain ⟨e, last, named, shown⟩ := getLast?_of_forall₂ same last
    obtain ⟨inside, something⟩ :=
      List.mem_filter.mp (List.mem_filter.mp (List.mem_of_getLast? last)).1
    refine ⟨e, ?_, ?_⟩
    -- No entity of this name was left out before the merge, as the name is not empty.
    · rw [List.filter_filter] at last
      rw [lastNamed?, ← last]
      refine congrArg _ (List.filter_congr fun a _ => ?_)
      by_cases alike : name a = .text m.1
      · rw [alike, ← named, something, Bool.and_true]
      · simp [alike]
    · obtain ⟨v, made, shows⟩ := bodies e inside
      rw [shown] at made
      cases made
      exact shows

theorem firstNamed?_concat_of_some {e : α} {s : Text} {x : α}
    (first : firstNamed? name s entities = some x) :
    firstNamed? name s (entities ++ [e]) = some x := by
  unfold firstNamed? at first ⊢
  rw [List.filter_append, List.head?_append, first]
  rfl

theorem firstNamed?_concat_of_new {e : α} {s : Text} (titled : title? name e = some s)
    (new : s ∉ titles name entities) : firstNamed? name s (entities ++ [e]) = some e := by
  obtain ⟨named, written⟩ := title?_eq_some_iff.mp titled
  have none : (entities.filter fun a => name a = .text s) = [] := by
    rw [List.filter_eq_nil_iff]
    intro a listed same
    exact new (mem_titles_iff.mpr ⟨written, a, listed, of_decide_eq_true same⟩)
  rw [firstNamed?, List.filter_append, none, List.nil_append,
    List.filter_singleton, named, decide_eq_true rfl]
  rfl

theorem exists_firstNamed? {s : Text} (titled : s ∈ titles name entities) :
    ∃ x, firstNamed? name s entities = some x ∧ x ∈ entities := by
  obtain ⟨-, e, listed, named⟩ := mem_titles_iff.mp titled
  cases first : firstNamed? name s entities with
  | none =>
    have none := List.filter_eq_nil_iff.mp (List.head?_eq_none_iff.mp first) e listed
    exact absurd (decide_eq_true named) none
  | some x => exact ⟨x, rfl, (List.mem_filter.mp (List.mem_of_head? first)).1⟩

/-- Where the entities are in an order, the first ones of their names are in this order as well. -/
theorem firsts_pairwise (name : α → Value) {before : α → α → Prop} (sorted : entities.Pairwise before) :
    (titles name entities).eraseDups.Pairwise fun s t =>
      ∃ x y, firstNamed? name s entities = some x ∧ firstNamed? name t entities = some y ∧
        before x y := by
  induction entities using List.reverseRecOn with
  | nil => exact .nil
  | append_singleton entities e ih =>
    obtain ⟨sorted, -, less⟩ := List.pairwise_append.mp sorted
    have old : (titles name entities).eraseDups.Pairwise fun s t =>
        ∃ x y, firstNamed? name s (entities ++ [e]) = some x ∧
          firstNamed? name t (entities ++ [e]) = some y ∧ before x y := by
      refine (ih sorted).imp ?_
      rintro s t ⟨x, y, first, second, less⟩
      exact ⟨x, y, firstNamed?_concat_of_some first, firstNamed?_concat_of_some second, less⟩
    have append : titles name (entities ++ [e]) =
        titles name entities ++ (title? name e).toList := by
      rw [titles, List.filterMap_append]
      cases titled : title? name e <;> simp [titles, titled]
    rw [append]
    cases titled : title? name e with
    | none => rwa [Option.toList_none, List.append_nil]
    | some s =>
      rw [Option.toList_some, eraseDups_concat]
      split
      · exact old
      -- A name that is new at the end comes behind the first entities of all others.
      case isFalse new =>
        refine List.pairwise_append.mpr ⟨old, List.pairwise_singleton _ _, ?_⟩
        intro t earlier _ last
        obtain ⟨x, first, listed⟩ := exists_firstNamed? (List.mem_eraseDups.mp earlier)
        rw [List.mem_singleton.mp last]
        exact ⟨x, e, firstNamed?_concat_of_some first, firstNamed?_concat_of_new titled new,
          less x listed e List.mem_cons_self⟩

end

end Outline

end RegisterMap
