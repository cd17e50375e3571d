/-!
Members under names, in the order in which the names were first given. Giving a name again replaces
its value and leaves it in its place. What counts as the same name is a parameter.
-/

set_option autoImplicit false

namespace RegisterMap.Members

variable {κ α : Type}

/-- A new name goes to the end, a known one keeps its place and its spelling. -/
def put (same : κ → κ → Bool) (name : κ) (v : α) : List (κ × α) → List (κ × α)
  | [] => [(name, v)]
  | (k, w) :: rest => if same k name then (k, v) :: rest else (k, w) :: put same name v rest

def get? (same : κ → κ → Bool) (name : κ) : List (κ × α) → Option α
  | [] => none
  | (k, v) :: rest => if same k name then some v else get? same name rest

/-- Members given one after the other. -/
def ofList (same : κ → κ → Bool) (members : List (κ × α)) : List (κ × α) :=
  members.foldl (fun known m => put same m.1 m.2 known) []

section

variable {same : κ → κ → Bool} {members : List (κ × α)}

theorem put_of_new {name : κ} (v : α) (new : ∀ m ∈ members, same m.1 name = false) :
    put same name v members = members ++ [(name, v)] := by
  induction members with
  | nil => rfl
  | cons m rest ih =>
    rw [put, new m List.mem_cons_self, ih fun other listed => new other (.tail m listed)]
    rfl

theorem foldl_put_of_distinct {known : List (κ × α)}
    (distinct : (known ++ members).Pairwise fun a b => same a.1 b.1 = false) :
    members.foldl (fun known m => put same m.1 m.2 known) known = known ++ members := by
  induction members generalizing known with
  | nil => exact (List.append_nil known).symm
  | cons m rest ih =>
    have new : ∀ k ∈ known, same k.1 m.1 = false :=
      fun k listed => (List.pairwise_append.mp distinct).2.2 k listed m List.mem_cons_self
    rw [List.foldl_cons, put_of_new m.2 new, ih]
    · exact List.append_assoc known [m] rest
    · rwa [List.append_assoc]

/-- Members whose names all differ are kept as they are. -/
theorem ofList_of_distinct (distinct : members.Pairwise fun a b => same a.1 b.1 = false) :
    ofList same members = members :=
  foldl_put_of_distinct distinct

end

end RegisterMap.Members
