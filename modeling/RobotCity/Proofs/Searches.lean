import RobotCity.Check.Repetition
import RobotCity.Proofs.NameTable

/-!
# Searches in lists

No repetition is found among names exactly if all of them are distinct, and no fault among items
with positions exactly if no item has one; a fault that is found is that of the first item that has
one.  What at most one item can be is found at most once.
-/

namespace RobotCity

/-- Of items of which no two pass a test, the one that passes is all that a search keeps. -/
theorem filter_eq_singleton {α : Type} {test : α → Bool} {items : List α} {item : α}
    (apart : items.Pairwise fun first second => test first → ¬test second)
    (member : item ∈ items) (passes : test item) : items.filter test = [item] := by
  induction items with
  | nil => simp at member
  | cons first rest ih =>
      obtain ⟨first_apart, rest_apart⟩ := List.pairwise_cons.mp apart
      rcases List.mem_cons.mp member with rfl | later
      · have none_later := List.filter_eq_nil_iff.mpr fun other other_member =>
          first_apart other other_member passes
        rw [List.filter_cons, if_pos passes, none_later]
      · have first_fails : ¬test first := fun first_passes =>
          first_apart item later first_passes passes
        rw [List.filter_cons, if_neg first_fails, ih rest_apart later]

/-- Among items with names of their own, the one that a look-up finds is the only one of the name. -/
theorem exists_only_of_lookup {α β : Type} (name : α → Text) (value : α → β) {items : List α}
    (names_nodup : (items.map name).Nodup) {wanted : Text} {found : β}
    (looked_up : (items.map fun item => (name item, value item)).lookup wanted = some found) :
    ∃ item, items.filter (name · = wanted) = [item] ∧ value item = found := by
  have entries_nodup : ((items.map fun item => (name item, value item)).map (·.1)).Nodup := by
    simpa [Function.comp_def] using names_nodup
  have member := (NameTable.lookup_eq_some_iff_mem entries_nodup).mp looked_up
  obtain ⟨item, item_member, entry⟩ := List.mem_map.mp member
  obtain ⟨rfl, rfl⟩ := Prod.mk.inj entry
  refine ⟨item, filter_eq_singleton ?_ item_member (by simp), rfl⟩
  refine (List.pairwise_map.mp names_nodup).imp fun differ first_named second_named => differ ?_
  rw [of_decide_eq_true first_named, of_decide_eq_true second_named]

theorem findSome?_eq_of_forall {α β : Type} {search other : α → Option β} {items : List α}
    (same : ∀ item ∈ items, search item = other item) :
    items.findSome? search = items.findSome? other := by
  induction items with
  | nil => rfl
  | cons first rest ih =>
      obtain ⟨here, later⟩ := List.forall_mem_cons.mp same
      rw [List.findSome?_cons, List.findSome?_cons, here, ih later]

/-- A search ends at the first item in which something is found. -/
theorem findSome?_append_cons {α β : Type} {search : α → Option β} {before after : List α} {item : α}
    {found : β} (clear : ∀ other ∈ before, search other = none) (here : search item = some found) :
    (before ++ item :: after).findSome? search = some found :=
  List.findSome?_eq_some_iff.mpr ⟨before, item, after, rfl, here, clear⟩

/-- A search that looks at positions only to report them depends on the items alone. -/
theorem findSome?_zipIdx_eq_none_iff {α β : Type} {search : α × Nat → Option β}
    (clear : α → Prop) (search_iff : ∀ entry, search entry = none ↔ clear entry.1) (items : List α)
    (position : Nat) :
    (items.zipIdx position).findSome? search = none ↔ ∀ item ∈ items, clear item := by
  simp only [List.findSome?_eq_none_iff, search_iff]
  constructor
  · intro all_clear item member
    rw [← List.zipIdx_map_fst position items] at member
    obtain ⟨entry, entry_member, rfl⟩ := List.mem_map.mp member
    exact all_clear entry entry_member
  · exact fun all_clear entry member => all_clear entry.1 (List.fst_mem_of_mem_zipIdx member)

theorem getElem?_zipIdx_eq_some_iff {α : Type} {items : List α} {item : α} {position index : Nat} :
    items.zipIdx[position]? = some (item, index) ↔ items[position]? = some item ∧ index = position := by
  rw [List.getElem?_zipIdx]
  cases items[position]? <;> simp [eq_comm]

/-- What a search among items with positions finds, it finds at the first item that has something. -/
theorem findSome?_zipIdx_eq_some_iff {α β : Type} {search : α × Nat → Option β} {items : List α}
    {found : β} :
    items.zipIdx.findSome? search = some found ↔
      ∃ position item, items[position]? = some item ∧ search (item, position) = some found ∧
        ∀ earlier other, earlier < position → items[earlier]? = some other →
          search (other, earlier) = none := by
  rw [List.findSome?_eq_some_iff]
  constructor
  · rintro ⟨front, ⟨item, position⟩, back, split, here, none_before⟩
    have place : items.zipIdx[front.length]? = some (item, position) := by simp [split]
    obtain ⟨present, rfl⟩ := getElem?_zipIdx_eq_some_iff.mp place
    refine ⟨front.length, item, present, here, fun earlier other before other_present => ?_⟩
    have entry : items.zipIdx[earlier]? = some (other, earlier) :=
      getElem?_zipIdx_eq_some_iff.mpr ⟨other_present, rfl⟩
    rw [split, List.getElem?_append_left before] at entry
    exact none_before _ (List.mem_of_getElem? entry)
  · rintro ⟨position, item, present, here, none_before⟩
    have place := getElem?_zipIdx_eq_some_iff.mpr ⟨present, rfl⟩
    obtain ⟨bound, at_place⟩ := List.getElem?_eq_some_iff.mp place
    refine ⟨items.zipIdx.take position, (item, position), items.zipIdx.drop (position + 1), ?_,
      here, fun entry member => ?_⟩
    · rw [← at_place, ← List.drop_eq_getElem_cons bound, List.take_append_drop]
    · obtain ⟨earlier, earlier_bound, rfl⟩ := List.mem_take_iff_getElem.mp member
      rw [List.length_zipIdx] at earlier_bound
      rw [List.getElem_zipIdx, Nat.zero_add]
      exact none_before earlier _ (by omega) (List.getElem?_eq_getElem (by omega))

/-- Names that stand behind others show no repetition if they are distinct and all of them new. -/
theorem repetitionFrom?_eq_none_iff (seen : NameTable Nat) (position : Nat) (names : List Text) :
    repetitionFrom? seen position names = none ↔
      names.Nodup ∧ ∀ name ∈ names, seen.find? name = none := by
  induction names generalizing seen position with
  | nil => simp [repetitionFrom?]
  | cons name rest ih =>
      rw [repetitionFrom?]
      cases found : seen.find? name with
      | some first => simp [found]
      | none =>
          simp only [ih, NameTable.find?_declare, List.nodup_cons, List.forall_mem_cons, found,
            Option.or_eq_none_iff, ite_eq_right_iff, reduceCtorEq]
          constructor
          · rintro ⟨rest_nodup, rest_new⟩
            refine ⟨⟨fun member => ?_, rest_nodup⟩, trivial, fun other member => ?_⟩
            · exact (rest_new name member).2 rfl
            · exact (rest_new other member).1
          · rintro ⟨⟨name_new, rest_nodup⟩, -, rest_new⟩
            refine ⟨rest_nodup, fun other member => ⟨rest_new other member, ?_⟩⟩
            rintro rfl
            exact name_new member

theorem repetition?_eq_none_iff (names : List Text) : repetition? names = none ↔ names.Nodup := by
  simp [repetition?, repetitionFrom?_eq_none_iff]

end RobotCity
