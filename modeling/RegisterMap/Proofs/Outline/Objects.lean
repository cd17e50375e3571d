import Mathlib.Tactic.MkIffOfInductiveProp
import RegisterMap.Outline
import RegisterMap.Proofs.Fitting
import RegisterMap.Proofs.Reader.Counterpart

/-!
What the objects of an outline tell. A member that is left out stands for the one value of its kind
that is not given, and the names of the members are fixed, so an object with such members tells all
of their values. An object with members under the names of entities tells all of these in order, as
long as the names differ.
-/

set_option autoImplicit false

namespace RegisterMap.Outline

/-! ## Members that may be left out -/

/-- The value, if it is given. -/
def present (v : Value) : Option Value := if isGiven v then some v else none

/-- The members that have a value. -/
def filled (slots : List (String × Option Value)) : List (Text × Value) :=
  slots.filterMap fun slot => slot.2.map fun v => (Text.ofString slot.1, v)

theorem given_eq (members : List (String × Value)) :
    given members = filled (members.map fun m => (m.1, present m.2)) := by
  induction members with
  | nil => rfl
  | cons m rest ih =>
    unfold given filled at ih ⊢
    rw [List.map_cons, List.filterMap_cons, ← ih, List.filter_cons]
    unfold present
    split <;> rfl

theorem filled_always (name : String) (v : Value) : always name v = filled [(name, some v)] := rfl

theorem filled_optional {α : Type} (name : String) (write : α → Value) (entity : Option α) :
    (entity.map fun e => filled [(name, some (write e))]).getD [] =
      filled [(name, entity.map write)] := by
  cases entity <;> rfl

theorem filled_append (slots others : List (String × Option Value)) :
    filled slots ++ filled others = filled (slots ++ others) :=
  List.filterMap_append.symm

theorem name_of_mem_filled {slots : List (String × Option Value)} {name : String} {v : Value}
    (listed : (Text.ofString name, v) ∈ filled slots) : name ∈ slots.map Prod.fst := by
  obtain ⟨slot, inside, made⟩ := List.mem_filterMap.mp listed
  obtain ⟨w, -, same⟩ := Option.map_eq_some_iff.mp made
  rw [← Text.ofString_injective (congrArg Prod.fst same)]
  exact List.mem_map_of_mem inside

/-- Members under fixed names tell which of them are given, and their values. -/
theorem filled_inj (names : List String) (distinct : names.Nodup)
    {slots others : List (String × Option Value)} (first : slots.map Prod.fst = names)
    (second : others.map Prod.fst = names) (same : filled slots = filled others) :
    slots = others := by
  induction names generalizing slots others with
  | nil => rw [List.map_eq_nil_iff.mp first, List.map_eq_nil_iff.mp second]
  | cons name rest ih =>
    obtain ⟨new, apart⟩ := List.nodup_cons.mp distinct
    obtain ⟨⟨_, v⟩, left, rfl, rfl, keys⟩ := List.map_eq_cons_iff.mp first
    obtain ⟨⟨key, w⟩, right, rfl, here, others⟩ := List.map_eq_cons_iff.mp second
    obtain rfl : key = _ := here
    cases v with
    | none =>
      cases w with
      | none => rw [ih apart keys others same]
      | some w =>
        have listed : (Text.ofString key, w) ∈ filled left := same ▸ List.mem_cons_self
        exact absurd (keys ▸ name_of_mem_filled listed) new
    | some v =>
      cases w with
      | none =>
        have listed : (Text.ofString key, v) ∈ filled right := same ▸ List.mem_cons_self
        exact absurd (others ▸ name_of_mem_filled listed) new
      | some w =>
        obtain ⟨head, tail⟩ := List.cons.inj same
        rw [(Prod.mk.inj head).2, ih apart keys others tail]

section

variable {v w : Value}

/-- Where one value alone is left out, being left out tells it. -/
theorem present_inj (blank : Value) (omitted : isGiven blank = false)
    (first : v = blank ∨ isGiven v = true) (second : w = blank ∨ isGiven w = true)
    (same : present v = present w) : v = w := by
  unfold present at same
  rcases first with rfl | given <;> rcases second with rfl | also
  · rfl
  · rw [omitted, also] at same
    cases same
  · rw [given, omitted] at same
    cases same
  · rw [given, also] at same
    exact Option.some.inj same

theorem present_given (first : isGiven v = true) (second : isGiven w = true)
    (same : present v = present w) : v = w :=
  present_inj .null rfl (.inr first) (.inr second) same

theorem text_or_given (text : v.IsText) : v = .text [] ∨ isGiven v = true := by
  obtain ⟨s, rfl⟩ := text
  cases s with
  | nil => exact .inl rfl
  | cons c rest => exact .inr rfl

theorem present_text (first : v.IsText) (second : w.IsText) (same : present v = present w) :
    v = w :=
  present_inj (.text []) rfl (text_or_given first) (text_or_given second) same

theorem word_or_given (fits : v.MaybeWord) : v = .null ∨ isGiven v = true := by
  obtain rfl | ⟨n, -, rfl⟩ := fits
  · exact .inl rfl
  · exact .inr rfl

theorem present_word (first : v.MaybeWord) (second : w.MaybeWord)
    (same : present v = present w) : v = w :=
  present_inj .null rfl (word_or_given first) (word_or_given second) same

theorem truth_or_given (fits : v.MaybeTruth) : v = .null ∨ isGiven v = true := by
  obtain rfl | ⟨b, rfl⟩ := fits
  · exact .inl rfl
  · exact .inr rfl

theorem present_truth (first : v.MaybeTruth) (second : w.MaybeTruth)
    (same : present v = present w) : v = w :=
  present_inj .null rfl (truth_or_given first) (truth_or_given second) same

end

theorem present_access {a b : Access}
    (same : present (.ofString a.text) = present (.ofString b.text)) : a = b := by
  cases a <;> cases b <;> first | rfl | exact absurd same (by decide)

/-! ## Members under the names of entities -/

section

variable {α γ : Type} {name : α → Value} {body : α → Except Misfit Value}

/-- The names of the entities are not empty, and no two are the same. -/
@[mk_iff]
structure Labels (name : α → Value) (entities : List α) : Prop where
  given : ∀ e ∈ entities, name e ≠ .text []
  distinct : (entities.map name).Nodup

instance (name : α → Value) (entities : List α) : Decidable (Labels name entities) :=
  decidable_of_iff' _ (labels_iff name entities)

/-- Every entity has a text of its own as its name, and can be shown. -/
structure Showable (name : α → Value) (body : α → Except Misfit Value) (entities : List α) :
    Prop where
  labels : Labels name entities
  texts : ∀ e ∈ entities, (name e).IsText
  bodies : ∀ e ∈ entities, ∃ v, body e = .ok v

/-- The member under the name of an entity. -/
def IsMember (name : α → Value) (body : α → Except Misfit Value) (e : α) (m : Text × Value) :
    Prop :=
  name e = .text m.1 ∧ body e = .ok m.2

theorem Showable.isNothing {entities : List α} (showable : Showable name body entities) {e : α}
    (listed : e ∈ entities) : (name e).isNothing = false := by
  obtain ⟨s, named⟩ := showable.texts e listed
  have some := showable.labels.given e listed
  rw [named] at some ⊢
  cases s with
  | nil => exact absurd rfl some
  | cons c rest => rfl

theorem byName_texts {members : List (Text × Value)} (distinct : (members.map Prod.fst).Nodup) :
    byName (members.map fun m => (.text m.1, m.2)) = .object members := by
  have differ : members.Pairwise fun a b => (a.1 == b.1) = false :=
    (List.pairwise_map.mp distinct).imp beq_false_of_ne
  have values : (members.map fun m => ((.text m.1 : Value), m.2)).Pairwise
      fun a b => Value.alike a.1 b.1 = false :=
    List.pairwise_map.mpr (differ.imp fun apart => (Value.alike_text _ _).trans apart)
  unfold byName
  dsimp only
  rw [Members.ofList_of_distinct values, List.map_map]
  exact congrArg Value.object ((congrArg _ (List.map_id members)).trans
    (Members.ofList_of_distinct differ))

theorem mapM_member {entities : List α} (texts : ∀ e ∈ entities, (name e).IsText)
    (bodies : ∀ e ∈ entities, ∃ v, body e = .ok v) :
    ∃ members : List (Text × Value), entities.mapM (member name body) =
        .ok (members.map fun m => (.text m.1, m.2)) ∧
      List.Forall₂ (IsMember name body) entities members := by
  induction entities with
  | nil => exact ⟨[], rfl, .nil⟩
  | cons e rest ih =>
    obtain ⟨s, named⟩ := texts e List.mem_cons_self
    obtain ⟨v, shown⟩ := bodies e List.mem_cons_self
    obtain ⟨members, made, each⟩ := ih (fun other listed => texts other (.tail e listed))
      fun other listed => bodies other (.tail e listed)
    refine ⟨(s, v) :: members, ?_, .cons ⟨named, shown⟩ each⟩
    rw [List.mapM_cons, made, member, shown, named]
    rfl

/-- Entities of different names become the members of an object, in their order. -/
theorem Showable.named_eq {entities : List α} (showable : Showable name body entities) :
    ∃ members, named name body entities = .ok (.object members) ∧
      List.Forall₂ (IsMember name body) entities members := by
  obtain ⟨members, made, each⟩ := mapM_member showable.texts showable.bodies
  have kept : entities.filter (fun e => !(name e).isNothing) = entities := by
    refine List.filter_eq_self.mpr fun e listed => ?_
    rw [showable.isNothing listed]
    rfl
  have names : entities.map name = (members.map Prod.fst).map Value.text := by
    rw [List.map_map]
    exact (map_eq_of_forall₂ each fun _ _ same => same.1.symm).symm
  refine ⟨members, ?_, each⟩
  rw [named, kept, made]
  exact congrArg Except.ok (byName_texts (List.Nodup.of_map _ (names ▸ showable.labels.distinct)))

/-- The object tells of every entity in order what its name and its own object tell. -/
theorem Showable.tells {f : α → γ} {entities others : List α}
    (first : Showable name body entities) (second : Showable name body others)
    (same : named name body entities = named name body others)
    (each : ∀ a ∈ entities, ∀ b ∈ others, name a = name b → body a = body b → f a = f b) :
    entities.map f = others.map f := by
  obtain ⟨members, made, shown⟩ := first.named_eq
  obtain ⟨_, also, shownOthers⟩ := second.named_eq
  rw [made, also] at same
  cases same
  clear first second made also
  induction shown generalizing others with
  | nil =>
    cases shownOthers
    rfl
  | @cons a m rest members here _ ih =>
    cases shownOthers with
    | @cons b _ more _ there behind =>
      have head := each a List.mem_cons_self b List.mem_cons_self (here.1.trans there.1.symm)
        (here.2.trans there.2.symm)
      have tail := ih (fun x listed y inside => each x (.tail a listed) y (.tail b inside)) behind
      rw [List.map_cons, List.map_cons, head, tail]

/-- What a change leaves of the entities is shown as they are. -/
theorem named_map (f : α → α) (names : ∀ e, name (f e) = name e) (bodies : ∀ e, body (f e) = body e)
    (entities : List α) : named name body (entities.map f) = named name body entities := by
  have kept : (fun e => !(name e).isNothing) ∘ f = fun e => !(name e).isNothing :=
    funext fun e => congrArg (fun v : Value => !v.isNothing) (names e)
  have members : member name body ∘ f = member name body := by
    funext e
    unfold member
    rw [Function.comp_apply, names, bodies]
  unfold named
  rw [List.filter_map, kept, List.mapM_map, members]

end

end RegisterMap.Outline
