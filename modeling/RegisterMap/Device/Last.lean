/-!
A description is read from top to bottom, so the entry of a list that is being described is the last
one. `changeLast` changes this entry and leaves all others, and the length, as they are.
-/

set_option autoImplicit false

namespace RegisterMap

variable {α : Type}

def changeLast (f : α → α) : List α → List α
  | [] => []
  | [x] => [f x]
  | x :: y :: rest => x :: changeLast f (y :: rest)

@[simp] theorem changeLast_nil (f : α → α) : changeLast f [] = [] := rfl

@[simp] theorem changeLast_append (f : α → α) (xs : List α) (x : α) :
    changeLast f (xs ++ [x]) = xs ++ [f x] := by
  induction xs with
  | nil => rfl
  | cons y ys ih =>
    cases ys with
    | nil => rfl
    | cons z zs =>
      simp only [List.cons_append, changeLast, List.cons.injEq, true_and]
      exact ih

theorem changeLast_append_right (f : α → α) (xs : List α) {ys : List α} (some : ys ≠ []) :
    changeLast f (xs ++ ys) = xs ++ changeLast f ys := by
  obtain rfl | ⟨zs, z, rfl⟩ := List.eq_nil_or_concat ys
  · exact absurd rfl some
  · rw [List.concat_eq_append, ← List.append_assoc, changeLast_append, changeLast_append,
      List.append_assoc]

@[simp] theorem length_changeLast (f : α → α) (xs : List α) :
    (changeLast f xs).length = xs.length := by
  rcases List.eq_nil_or_concat xs with rfl | ⟨ys, y, rfl⟩
  · rfl
  · simp

@[simp] theorem changeLast_id (xs : List α) : changeLast id xs = xs := by
  rcases List.eq_nil_or_concat xs with rfl | ⟨ys, y, rfl⟩
  · rfl
  · simp

theorem changeLast_changeLast (f g : α → α) (xs : List α) :
    changeLast f (changeLast g xs) = changeLast (fun x => f (g x)) xs := by
  rcases List.eq_nil_or_concat xs with rfl | ⟨ys, y, rfl⟩
  · rfl
  · simp

theorem changeLast_congr {f g : α → α} {xs : List α}
    (same : ∀ x, xs.getLast? = some x → f x = g x) : changeLast f xs = changeLast g xs := by
  rcases List.eq_nil_or_concat xs with rfl | ⟨ys, y, rfl⟩
  · rfl
  · simp [same y (by simp)]

@[simp] theorem getLast?_changeLast (f : α → α) (xs : List α) :
    (changeLast f xs).getLast? = xs.getLast?.map f := by
  rcases List.eq_nil_or_concat xs with rfl | ⟨ys, y, rfl⟩
  · rfl
  · simp

theorem mem_changeLast {f : α → α} {xs : List α} {y : α} (member : y ∈ changeLast f xs) :
    y ∈ xs ∨ ∃ x, xs.getLast? = some x ∧ y = f x := by
  rcases List.eq_nil_or_concat xs with rfl | ⟨ys, x, rfl⟩
  · exact Or.inl member
  · simp only [List.concat_eq_append, changeLast_append, List.mem_append,
      List.mem_singleton] at member ⊢
    rcases member with earlier | last
    · exact Or.inl (Or.inl earlier)
    · exact Or.inr ⟨x, by simp, last⟩

theorem forall_changeLast {f : α → α} {xs : List α} {holds : α → Prop}
    (changed : ∀ x, xs.getLast? = some x → holds x → holds (f x)) (before : ∀ x ∈ xs, holds x) :
    ∀ y ∈ changeLast f xs, holds y := by
  intro y member
  obtain old | ⟨x, last, rfl⟩ := mem_changeLast member
  · exact before y old
  · exact changed x last (before x (List.mem_of_getLast? last))

theorem getElem?_changeLast (f : α → α) (xs : List α) (i : Nat) :
    (changeLast f xs)[i]? = if i + 1 = xs.length then xs[i]?.map f else xs[i]? := by
  rcases List.eq_nil_or_concat xs with rfl | ⟨ys, x, rfl⟩
  · simp
  · simp only [List.concat_eq_append, changeLast_append]
    rcases Nat.lt_trichotomy i ys.length with h | h | h <;> grind

end RegisterMap
