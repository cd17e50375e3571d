import Mathlib.Logic.Basic
import RegisterMap.Files.Tree

/-!
Writing a file. Where a path leads, all directories on the way exist, so that a new file makes no
new directory: the file is at its place afterwards, and at every other place is what was there.
-/

set_option autoImplicit false

namespace RegisterMap.Files

/-- The files after bytes have been written to a path. -/
def write (files : Files) (p : Path) (content : Bytes) : Files :=
  if files.status p = .sink then files
  else { files with entries := (files.place p, .file content) :: files.entries }

theorem entry?_write_place {files : Files} {p : Path} (kept : files.status p ≠ .sink)
    (content : Bytes) :
    entry? (files.write p content) (files.place p) = some (.file content) := by
  unfold write entry?
  rw [if_neg kept, List.find?_cons_of_pos (by simp)]

/-! ## The way to a place -/

/-- Something is at the place, and at every place around it. -/
def Reaches (files : Files) (place : List String) : Prop :=
  ∀ outer, outer <+: place → files.entry? outer ≠ none

/-- Something is at every place around the place, whether or not it is itself there. -/
def Surrounds (files : Files) (place : List String) : Prop :=
  ∀ outer, outer <+: place → outer ≠ place → files.entry? outer ≠ none

section

variable {files : Files} {here : List String}

theorem Reaches.dropLast (reaches : files.Reaches here) : files.Reaches here.dropLast :=
  fun outer inside => reaches outer (inside.trans (List.dropLast_prefix here))

theorem Reaches.concat (reaches : files.Reaches here) {name : String}
    (found : files.entry? (here ++ [name]) ≠ none) : files.Reaches (here ++ [name]) := by
  intro outer inside
  rcases List.prefix_concat_iff.mp inside with rfl | before
  · exact found
  · exact reaches outer before

theorem Reaches.surrounds_concat (reaches : files.Reaches here) (name : String) :
    files.Surrounds (here ++ [name]) := by
  intro outer inside other
  rcases List.prefix_concat_iff.mp inside with same | before
  · exact absurd same other
  · exact reaches outer before

theorem Reaches.surrounds_follow (reaches : files.Reaches here) (parts : List String) :
    files.Surrounds (files.follow here parts).1 := by
  induction here, parts using follow.induct files with
  | case1 here => exact fun outer inside _ => reaches outer inside
  | case2 here rest ih =>
    rw [follow]
    exact ih reaches.dropLast
  | case3 here name rest named long =>
    simp only [follow, long]
    exact reaches.surrounds_concat name
  | case4 here name rest named there short found ih =>
    have next : follow files here (name :: rest) = follow files there rest := by
      simp [follow, short, there, found]
    rw [next]
    exact ih (reaches.concat (by rw [found]; nofun))
  | case5 here name rest named there short entry other found =>
    have stops : (follow files here (name :: rest)).1 = there := by
      rw [show files.entry? there = files.entry? (here ++ [name]) from rfl] at found
      cases entry with
      | directory => exact absurd rfl other
      | file | sink => simp [follow, short, there, found]
    rw [stops]
    exact reaches.surrounds_concat name
  | case6 here name rest named there short found =>
    have stops : (follow files here (name :: rest)).1 = there := by
      simp [follow, short, there, found]
    rw [stops]
    exact reaches.surrounds_concat name

theorem entry?_ne_none {place : List String}
    (around : (place.isEmpty || files.places.any fun other => place.isPrefixOf other) = true) :
    files.entry? place ≠ none := by
  unfold entry?
  split
  · exact Option.some_ne_none _
  · rw [if_pos around]
    exact Option.some_ne_none _

theorem reaches_start (files : Files) (p : Path) : files.Reaches (files.start p) := by
  intro outer inside
  apply entry?_ne_none
  rw [Bool.or_eq_true]
  unfold start at inside
  split at inside
  · refine .inr (List.any_eq_true.mpr ⟨files.directory, List.mem_cons_self, ?_⟩)
    exact List.isPrefixOf_iff_prefix.mpr inside
  · rw [List.prefix_nil.mp inside]
    exact .inl rfl

theorem surrounds_place (files : Files) (p : Path) : files.Surrounds (files.place p) :=
  (reaches_start files p).surrounds_follow p.parts

end

/-- Writing to a path changes nothing at other places. A place around that of the path was a
directory already. -/
theorem entry?_write_other {files : Files} {p : Path} {place : List String}
    (other : place ≠ files.place p) (content : Bytes) :
    entry? (files.write p content) place = entry? files place := by
  unfold write
  split
  · rfl
  have around := surrounds_place files p place
  unfold entry? at around ⊢
  rw [List.find?_cons_of_neg (by simpa using Ne.symm other)]
  cases found : files.entries.find? fun e => e.1 = place with
  | some e => rfl
  | none =>
    simp only [found] at around
    have known (inside : place.isPrefixOf (files.place p) = true) :
        (place.isEmpty || files.places.any fun outer => place.isPrefixOf outer) = true := by
      refine Decidable.byContradiction fun unknown => ?_
      exact around (List.isPrefixOf_iff_prefix.mp inside) other (if_neg unknown)
    refine if_congr ?_ rfl rfl
    simp only [places, List.map_cons, List.any_cons, Bool.or_eq_true] at known ⊢
    constructor
    · rintro (root | directory | inside | listed)
      · exact .inl root
      · exact .inr (.inl directory)
      · exact known inside
      · exact .inr (.inr listed)
    · rintro (root | directory | listed)
      · exact .inl root
      · exact .inr (.inl directory)
      · exact .inr (.inr (.inr listed))

end RegisterMap.Files
