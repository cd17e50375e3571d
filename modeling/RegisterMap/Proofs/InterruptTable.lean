import RegisterMap.Device.Interrupts
import RegisterMap.Proofs.Fitting

/-!
The table of interrupts. The vector numbers of a reachable model are words that differ from each
other, so the table always exists, and it is the same for all orders in which the same interrupts
can have been added.
-/

set_option autoImplicit false

namespace RegisterMap

/-- The vector number under which an interrupt is listed. -/
def Interrupt.number (entry : Value × Interrupt) : Int := entry.1.whole?.getD 0

namespace Interrupt.Listed

variable {entries : List (Value × Interrupt)}

theorem key_eq (listed : Listed entries) {entry : Value × Interrupt} (member : entry ∈ entries) :
    entry.1 = .int (number entry) := by
  obtain ⟨n, key⟩ := listed.numbered entry member
  rw [number, key]
  rfl

theorem eq_of_number (listed : Listed entries) {a b : Value × Interrupt} (first : a ∈ entries)
    (second : b ∈ entries) (same : number a = number b) : a = b := by
  apply List.inj_on_of_nodup_map listed.distinct first second
  rw [listed.key_eq first, listed.key_eq second, same]

theorem of_perm {others : List (Value × Interrupt)} (listed : Listed entries)
    (perm : entries.Perm others) : Listed others where
  own entry member := listed.own entry (perm.mem_iff.mpr member)
  numbered entry member := listed.numbered entry (perm.mem_iff.mpr member)
  distinct := (perm.map Prod.fst).nodup_iff.mp listed.distinct

end Interrupt.Listed

open Interrupt (Listed number)

theorem numbered_eq {entries : List (Value × Interrupt)} (listed : Listed entries) :
    (entries.mapM fun entry => entry.1.whole?.map fun n => (n, entry)) =
      some (entries.map fun entry => (number entry, entry)) := by
  have found : ∀ entry ∈ entries,
      (entry.1.whole?.map fun n => (n, entry)) = some (number entry, entry) := by
    intro entry member
    rw [listed.key_eq member]
    rfl
  clear listed
  induction entries with
  | nil => rfl
  | cons entry rest ih =>
    rw [List.mapM_cons, found entry List.mem_cons_self,
      ih fun other member => found other (List.mem_cons_of_mem entry member)]
    rfl

/-- The interrupts in the order of their numbers. -/
def sortedInterrupts (entries : List (Value × Interrupt)) : List (Value × Interrupt) :=
  entries.mergeSort fun a b => decide (number a ≤ number b)

theorem sortedInterrupts_perm (entries : List (Value × Interrupt)) :
    (sortedInterrupts entries).Perm entries :=
  List.mergeSort_perm ..

theorem sortedInterrupts_pairwise (entries : List (Value × Interrupt)) :
    (sortedInterrupts entries).Pairwise fun a b => number a ≤ number b := by
  have sorted : (sortedInterrupts entries).Pairwise
      fun a b => decide (number a ≤ number b) = true := by
    apply List.pairwise_mergeSort
    · intro a b c first second
      simp only [decide_eq_true_eq] at first second ⊢
      omega
    · intro a b
      simp only [Bool.or_eq_true, decide_eq_true_eq]
      omega
  exact sorted.imp of_decide_eq_true

theorem interruptTable_eq {d : Device} (listed : Listed d.interrupts) :
    d.interruptTable = .ok ((sortedInterrupts d.interrupts).map Prod.snd) := by
  have sorted : ((d.interrupts.map fun entry => (number entry, entry)).mergeSort
      fun a b => decide (a.1 ≤ b.1)).map Prod.snd = sortedInterrupts d.interrupts := by
    have listed : (d.interrupts.map fun entry => (number entry, entry)).map Prod.snd =
        d.interrupts := by simp [Function.comp_def]
    rw [List.map_mergeSort, listed]
    · rfl
    · intro a first b second
      obtain ⟨x, -, rfl⟩ := List.mem_map.mp first
      obtain ⟨y, -, rfl⟩ := List.mem_map.mp second
      rfl
  unfold Device.interruptTable Value.sortBy
  rw [numbered_eq listed]
  dsimp only [Except.map]
  rw [sorted]

/-- The order in which interrupts were added does not show in their table. -/
theorem interruptTable_perm {d e : Device} (stored : Interrupt.Stored d.interrupts)
    (perm : d.interrupts.Perm e.interrupts) : e.interruptTable = d.interruptTable := by
  have sorted : sortedInterrupts e.interrupts = sortedInterrupts d.interrupts := by
    have before := sortedInterrupts_perm d.interrupts
    have after := sortedInterrupts_perm e.interrupts
    apply List.Perm.eq_of_pairwise ?_ (sortedInterrupts_pairwise e.interrupts)
      (sortedInterrupts_pairwise d.interrupts) (after.trans (perm.symm.trans before.symm))
    intro a b first second less greater
    apply stored.listed.eq_of_number
    · exact perm.mem_iff.mpr (after.mem_iff.mp first)
    · exact before.mem_iff.mp second
    · omega
  rw [interruptTable_eq stored.listed, interruptTable_eq (stored.listed.of_perm perm), sorted]

end RegisterMap
