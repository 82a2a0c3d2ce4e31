import Mathlib.Data.List.Nodup
import RobotCity.Proofs.Searches

/-!
# First repetitions

The search for a repetition keeps the place of every name that it has passed.  As long as nothing is
repeated these places are the only ones of their names, so that the search ends at the earliest place at
which a name stands again, and knows the one place before at which it stood.
-/

namespace RobotCity

/-- A name stands at a place, which is counted from one. -/
def StandsAt (names : List Text) (name : Text) (place : Nat) : Prop :=
  ∃ index, place = index + 1 ∧ names[index]? = some name

variable {names : List Text} {name last : Text} {place later : Nat}

theorem StandsAt.append (stands : StandsAt names name place) (others : List Text) :
    StandsAt (names ++ others) name place := by
  obtain ⟨index, rfl, found⟩ := stands
  have bound := (List.getElem?_eq_some_iff.mp found).1
  exact ⟨index, rfl, (List.getElem?_append_left bound).trans found⟩

theorem standsAt_append_cons (before after : List Text) (name : Text) :
    StandsAt (before ++ name :: after) name (before.length + 1) := by
  refine ⟨before.length, rfl, ?_⟩
  rw [List.getElem?_append_right (Nat.le_refl _), Nat.sub_self, List.getElem?_cons_zero]

theorem standsAt_append_singleton :
    StandsAt (names ++ [last]) name place ↔
      StandsAt names name place ∨ name = last ∧ place = names.length + 1 := by
  constructor
  · rintro ⟨index, rfl, found⟩
    rcases Nat.lt_or_ge index names.length with inside | behind
    · rw [List.getElem?_append_left inside] at found
      exact .inl ⟨index, rfl, found⟩
    · rw [List.getElem?_append_right behind, List.getElem?_singleton] at found
      split at found
      · rename_i at_end
        cases found
        exact .inr ⟨rfl, by omega⟩
      · cases found
  · rintro (stands | ⟨rfl, rfl⟩)
    · exact stands.append [last]
    · exact standsAt_append_cons names [] name

theorem StandsAt.le_length (stands : StandsAt names name place) : place ≤ names.length := by
  obtain ⟨index, rfl, found⟩ := stands
  exact (List.getElem?_eq_some_iff.mp found).1

/-- One name stands at a place. -/
theorem StandsAt.name_eq (stands : StandsAt names name place)
    (last_stands : StandsAt names last place) : name = last := by
  obtain ⟨index, rfl, found⟩ := stands
  obtain ⟨last_index, same, last_found⟩ := last_stands
  cases same
  exact Option.some.inj (found.symm.trans last_found)

/-- Among names of which none is repeated a name stands at one place only. -/
theorem StandsAt.eq_of_nodup (nodup : names.Nodup) (stands : StandsAt names name place)
    (stands_later : StandsAt names name later) : place = later := by
  obtain ⟨index, rfl, found⟩ := stands
  obtain ⟨later_index, rfl, later_found⟩ := stands_later
  have bound := (List.getElem?_eq_some_iff.mp found).1
  rw [(List.getElem?_inj bound nodup).mp (found.trans later_found.symm)]

/-- A name that stands in front of a place is among the names up to it. -/
theorem StandsAt.take (stands : StandsAt names name place) (in_front : place < later) :
    StandsAt (names.take (later - 1)) name place := by
  obtain ⟨index, rfl, found⟩ := stands
  exact ⟨index, rfl, (List.getElem?_take_of_lt (by omega)).trans found⟩

namespace Repetition

/-- A repetition is the first one among names: in front of its second place all names are distinct. -/
structure IsFirst (names : List Text) (repetition : Repetition) : Prop where
  stands_first : StandsAt names repetition.name repetition.first
  stands_again : StandsAt names repetition.name repetition.second
  ordered : repetition.first < repetition.second
  before_nodup : (names.take (repetition.second - 1)).Nodup
  /-- No name is repeated at an earlier place. -/
  least : ∀ name earlier later, StandsAt names name earlier → StandsAt names name later →
    earlier < later → repetition.second ≤ later
  /-- The name stands at no other place before. -/
  only : ∀ place, StandsAt names repetition.name place → place < repetition.second →
    place = repetition.first

variable {repetition other : Repetition}

theorem isFirst_of_nodup (stands_first : StandsAt names repetition.name repetition.first)
    (stands_again : StandsAt names repetition.name repetition.second)
    (ordered : repetition.first < repetition.second)
    (before_nodup : (names.take (repetition.second - 1)).Nodup) : repetition.IsFirst names where
  stands_first := stands_first
  stands_again := stands_again
  ordered := ordered
  before_nodup := before_nodup
  least name earlier later stands_earlier stands_later before := by
    by_contra too_early
    have in_front : later < repetition.second := Nat.lt_of_not_le too_early
    have same := StandsAt.eq_of_nodup before_nodup
      (stands_earlier.take (Nat.lt_trans before in_front)) (stands_later.take in_front)
    omega
  only place stands in_front :=
    StandsAt.eq_of_nodup before_nodup (stands.take in_front) (stands_first.take ordered)

/-- Names have one first repetition at most. -/
theorem IsFirst.eq (isFirst : repetition.IsFirst names) (other_isFirst : other.IsFirst names) :
    repetition = other := by
  have same_second : repetition.second = other.second := Nat.le_antisymm
    (isFirst.least _ _ _ other_isFirst.stands_first other_isFirst.stands_again other_isFirst.ordered)
    (other_isFirst.least _ _ _ isFirst.stands_first isFirst.stands_again isFirst.ordered)
  have stands_again := isFirst.stands_again
  rw [same_second] at stands_again
  have same_name : repetition.name = other.name := stands_again.name_eq other_isFirst.stands_again
  have stands_first := isFirst.stands_first
  have ordered := isFirst.ordered
  rw [same_name] at stands_first
  rw [same_second] at ordered
  have same_first : repetition.first = other.first := other_isFirst.only _ stands_first ordered
  obtain ⟨name, first, second⟩ := repetition
  obtain ⟨other_name, other_first, other_second⟩ := other
  rw [Repetition.mk.injEq]
  exact ⟨same_name, same_first, same_second⟩

theorem IsFirst.not_nodup (isFirst : repetition.IsFirst names) : ¬names.Nodup := by
  intro nodup
  have same := StandsAt.eq_of_nodup nodup isFirst.stands_first isFirst.stands_again
  exact Nat.ne_of_lt isFirst.ordered same

end Repetition

/-- A table gives the one place of every name, and of no other one. -/
def NameTable.Locates (seen : NameTable Nat) (names : List Text) : Prop :=
  ∀ name place, seen.find? name = some place ↔ StandsAt names name place

namespace NameTable.Locates

variable {seen : NameTable Nat} {before : List Text}

theorem nodup (locates : seen.Locates before) : before.Nodup := by
  rw [List.nodup_iff_getElem?_ne_getElem?]
  intro index later in_front bound same
  have found := List.getElem?_eq_getElem bound
  have here := (locates _ _).mpr ⟨index, rfl, same.trans found⟩
  have there := (locates _ _).mpr ⟨later, rfl, found⟩
  have same_place := Option.some.inj (here.symm.trans there)
  omega

/-- A name that has not been seen is located behind those that have been. -/
theorem declare (locates : seen.Locates before) (new : seen.find? name = none) :
    (seen.declare name (before.length + 1)).Locates (before ++ [name]) := by
  intro wanted place
  rw [find?_declare, standsAt_append_singleton, ← locates]
  by_cases same : wanted = name
  · simp [same, new, eq_comm]
  · simp [same]

end NameTable.Locates

/-- Behind names that are all located, a search ends at the first repetition among all names. -/
theorem isFirst_of_repetitionFrom? {seen : NameTable Nat} {before rest : List Text}
    {repetition : Repetition} (locates : seen.Locates before)
    (found : repetitionFrom? seen (before.length + 1) rest = some repetition) :
    repetition.IsFirst (before ++ rest) := by
  induction rest generalizing seen before with
  | nil => cases found
  | cons name rest ih =>
      rw [repetitionFrom?] at found
      cases looked_up : seen.find? name with
      | some first =>
          simp only [looked_up, Option.some.injEq] at found
          subst found
          have stands : StandsAt before name first := (locates name first).mp looked_up
          apply Repetition.isFirst_of_nodup
          · exact stands.append _
          · exact standsAt_append_cons before rest name
          · exact Nat.lt_succ_of_le stands.le_length
          · simpa using locates.nodup
      | none =>
          simp only [looked_up] at found
          rw [List.append_cons]
          apply ih (locates.declare looked_up)
          simpa using found

/-- The search for a repetition is exact: it finds nothing if and only if all names are distinct, and
otherwise the first repetition among them. -/
theorem repetition?_finds_first (names : List Text) :
    (repetition? names = none ↔ names.Nodup) ∧
      ∀ repetition, repetition? names = some repetition ↔ repetition.IsFirst names := by
  have none_seen : (NameTable.empty : NameTable Nat).Locates [] := by
    simp [NameTable.Locates, StandsAt]
  have finds_first : ∀ repetition, repetition? names = some repetition →
      repetition.IsFirst names :=
    fun _ found => isFirst_of_repetitionFrom? none_seen found
  refine ⟨repetition?_eq_none_iff names, fun repetition => ⟨finds_first repetition, ?_⟩⟩
  intro isFirst
  have some_found : repetition? names ≠ none :=
    fun nothing => isFirst.not_nodup ((repetition?_eq_none_iff names).mp nothing)
  obtain ⟨other, found⟩ := Option.ne_none_iff_exists'.mp some_found
  rw [found, isFirst.eq (finds_first other found)]

end RobotCity
