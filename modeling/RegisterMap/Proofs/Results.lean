import RegisterMap.Report

/-!
Results that come of other results. A composed piece of work has a result just if each of its pieces
has one.
-/

set_option autoImplicit false

namespace RegisterMap

section

variable {ε δ α β : Type}

theorem map_eq_ok {result : Except ε α} {f : α → β} {b : β} :
    result.map f = .ok b ↔ ∃ a, result = .ok a ∧ f a = b := by
  cases result with
  | error e => exact ⟨nofun, nofun⟩
  | ok a =>
    constructor
    · exact fun ok => ⟨a, rfl, Except.ok.inj ok⟩
    · rintro ⟨_, ⟨⟩, rfl⟩
      rfl

theorem mapError_eq_ok {result : Except ε α} {f : ε → δ} {a : α} :
    result.mapError f = .ok a ↔ result = .ok a := by
  cases result with
  | error e => exact ⟨nofun, nofun⟩
  | ok b =>
    constructor
    · exact fun ok => congrArg _ (Except.ok.inj ok)
    · exact fun ok => congrArg _ (Except.ok.inj ok)

theorem eq_ok_of_toOption {result : Except ε α} {a : α} (given : result.toOption = some a) :
    result = .ok a := by
  cases result with
  | error e => cases given
  | ok b => exact congrArg _ (Option.some.inj given)

theorem bind_eq_ok {first : Except ε α} {next : α → Except ε β} {b : β} :
    first >>= next = .ok b ↔ ∃ a, first = .ok a ∧ next a = .ok b := by
  cases first with
  | error e => exact ⟨nofun, nofun⟩
  | ok a =>
    constructor
    · exact fun ok => ⟨a, rfl, ok⟩
    · rintro ⟨_, ⟨⟩, ok⟩
      exact ok

/-- Each of several results is that of one piece of the work. -/
theorem mem_of_mapM_eq_ok {f : α → Except ε β} {xs : List α} {ys : List β}
    (ok : xs.mapM f = .ok ys) {y : β} (member : y ∈ ys) : ∃ x ∈ xs, f x = .ok y := by
  induction xs generalizing ys with
  | nil =>
    cases ok
    cases member
  | cons x rest ih =>
    rw [List.mapM_cons] at ok
    obtain ⟨z, made, ok⟩ := bind_eq_ok.mp ok
    obtain ⟨zs, others, ok⟩ := bind_eq_ok.mp ok
    cases ok
    rcases List.mem_cons.mp member with rfl | later
    · exact ⟨x, List.mem_cons_self, made⟩
    · obtain ⟨w, listed, made⟩ := ih others later
      exact ⟨w, List.mem_cons_of_mem x listed, made⟩

theorem Report.bind_of_pure (v : α) (next : α → Report β) :
    (pure v >>= next : Report β) = next v := rfl

theorem Report.result_bind (report : Report α) (next : α → Report β) :
    (report >>= next).result = report.result >>= fun v => (next v).result := by
  change (report.andThen next).result = _
  unfold Report.andThen
  cases report.result with
  | error misfit => rfl
  | ok v => rfl

theorem Report.bind_eq_ok {report : Report α} {next : α → Report β} {b : β} :
    (report >>= next).result = .ok b ↔ ∃ a, report.result = .ok a ∧ (next a).result = .ok b := by
  rw [Report.result_bind]
  exact RegisterMap.bind_eq_ok

end

end RegisterMap
