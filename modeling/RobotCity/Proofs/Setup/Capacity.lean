import RobotCity.Proofs.Setup.Conditions

/-!
# Capacities of areas

A usage that is claimed again and again grants as many claims as robots may hold its area, one after the
other, and refuses every later one.  A refusal leaves no trace in the usage, which therefore counts the
claims that have been granted, however many have been made.
-/

namespace RobotCity
namespace AreaUsage

/-- A claim on a usage that is changed in place.  What is left of the usage is seen behind a refusal as
well, with all that had been changed in it. -/
def claimInPlace : EStateM BookError AreaUsage Unit := do
  let usage ← get
  if usage.isFull then throw (.areaFull usage.area.name usage.maximum)
  set { usage with current := usage.current + 1 }

/-- How many more robots may hold the area. -/
def room (usage : AreaUsage) : Nat :=
  (usage.maximum - usage.current).toNat

/-- The refusal of a claim. -/
def refusal (usage : AreaUsage) : BookError :=
  .areaFull usage.area.name usage.maximum

/-- A usage after more robots have come to hold its area. -/
def filled (usage : AreaUsage) (holders : Nat) : AreaUsage :=
  { usage with current := usage.current + holders }

variable (usage : AreaUsage)

theorem isFull_iff_room : usage.isFull ↔ usage.room = 0 := by
  rw [isFull, decide_eq_true_iff, room]
  omega

theorem run_claimInPlace_of_full (full : usage.isFull) :
    claimInPlace.run usage = .error usage.refusal usage := by
  simp [claimInPlace, full, refusal]

theorem run_claimInPlace_of_room (free : ¬usage.isFull) :
    claimInPlace.run usage = .ok () (usage.filled 1) := by
  simp [claimInPlace, free, filled]

/-- A claim in place comes to the same as one that gives the usage back, and keeps the usage that it was
made on if it is refused. -/
theorem run_claimInPlace :
    claimInPlace.run usage =
      match usage.claim with
      | .ok claimed => .ok () claimed
      | .error refused => .error refused usage := by
  by_cases full : usage.isFull
  · rw [run_claimInPlace_of_full usage full, claim, if_pos full]
    rfl
  · rw [run_claimInPlace_of_room usage full, claim, if_neg full]
    rfl

/-- Claim a usage a number of times, whether or not the claims are granted.  The result is the answer to
each claim, and what is left of the usage. -/
def claimRepeatedly : Nat → AreaUsage → List (Except BookError Unit) × AreaUsage
  | 0, usage => ([], usage)
  | count + 1, usage =>
    match claimInPlace.run usage with
    | .ok _ next =>
      let (answers, left) := claimRepeatedly count next
      (.ok () :: answers, left)
    | .error refused next =>
      let (answers, left) := claimRepeatedly count next
      (.error refused :: answers, left)

theorem room_filled (holders : Nat) : (usage.filled holders).room = usage.room - holders := by
  simp only [room, filled]
  omega

theorem filled_filled (holders more : Nat) :
    (usage.filled holders).filled more = usage.filled (holders + more) := by
  simp [filled, Nat.add_assoc]

/-- Claims are granted while there is room, and refused from then on. -/
theorem claimRepeatedly_eq (count : Nat) :
    claimRepeatedly count usage =
      (List.replicate (min count usage.room) (.ok ()) ++
        List.replicate (count - usage.room) (.error usage.refusal),
      usage.filled (min count usage.room)) := by
  induction count generalizing usage with
  | zero => simp [claimRepeatedly, filled]
  | succ count ih =>
      rw [claimRepeatedly]
      by_cases full : usage.isFull
      · have no_room := usage.isFull_iff_room.mp full
        rw [run_claimInPlace_of_full usage full]
        simp [ih, no_room, List.replicate_succ]
      · have free := mt usage.isFull_iff_room.mpr full
        have granted : min (count + 1) usage.room = min count (usage.room - 1) + 1 := by omega
        have refused : count + 1 - usage.room = count - (usage.room - 1) := by omega
        rw [run_claimInPlace_of_room usage full, granted, refused]
        simp only [ih, room_filled, filled_filled, Nat.add_comm 1, List.replicate_succ]
        rfl

/-- What comes of a number of claims on a fresh usage: as many are granted as robots may hold the area,
and the others are refused. -/
structure Counts (fresh : AreaUsage) (count : Nat) (answers : List (Except BookError Unit))
    (left : AreaUsage) : Prop where
  answered : answers.length = count
  /-- The claims are counted from one. -/
  granted_iff : ∀ position, 1 ≤ position → position ≤ count →
    (answers[position - 1]? = some (.ok ()) ↔ position ≤ fresh.maximum)
  refusal_eq : ∀ refused, .error refused ∈ answers →
    refused = .areaFull fresh.area.name fresh.maximum
  area_kept : left.area = fresh.area
  maximum_kept : left.maximum = fresh.maximum
  current_eq : (left.current : Int) = min (count : Int) fresh.maximum
  isFull_iff : left.isFull ↔ left.current = left.maximum
  isUsed_iff : left.isUsed ↔ 0 < left.current
  /-- A refused claim leaves everything as it was. -/
  left_kept : ∀ refused next, claimInPlace.run left = .error refused next → next = left

/-- A usage without holders counts the claims that are made on it, if its maximum is not negative. -/
theorem counts_of_unclaimed {fresh : AreaUsage} (unclaimed : fresh.current = 0)
    (maximum_nonneg : 0 ≤ fresh.maximum) (count : Nat) :
    Counts fresh count (claimRepeatedly count fresh).1 (claimRepeatedly count fresh).2 := by
  have room_eq : (fresh.room : Int) = fresh.maximum := by
    rw [room, unclaimed]
    omega
  have current_eq : (fresh.filled (min count fresh.room)).current = min count fresh.room := by
    simp [filled, unclaimed]
  have maximum_kept : (fresh.filled (min count fresh.room)).maximum = fresh.maximum := rfl
  rw [claimRepeatedly_eq]
  constructor
  case answered =>
    rw [List.length_append, List.length_replicate, List.length_replicate]
    omega
  case granted_iff =>
    intro position counted made
    rw [List.getElem?_append, List.length_replicate]
    split
    · rename_i granted
      rw [List.getElem?_replicate_of_lt granted]
      simp only [true_iff]
      omega
    · rename_i late
      rw [List.getElem?_replicate_of_lt (by omega)]
      simp only [Option.some.injEq, reduceCtorEq, false_iff]
      omega
  case refusal_eq =>
    intro refused answered
    rcases List.mem_append.mp answered with granted | late
    · cases List.eq_of_mem_replicate granted
    · cases List.eq_of_mem_replicate late
      rfl
  case area_kept => rfl
  case maximum_kept => rfl
  case current_eq =>
    rw [current_eq]
    omega
  case isFull_iff =>
    rw [isFull, decide_eq_true_iff, maximum_kept, current_eq]
    omega
  case isUsed_iff => exact decide_eq_true_iff
  case left_kept =>
    intro refused next answered
    rw [run_claimInPlace] at answered
    split at answered
    · cases answered
    · cases answered
      rfl

/-- An area is claimed as often as robots may hold it, and no more: of any number of claims on its fresh
usage the first ones are granted, and every later one is refused and changes nothing. -/
theorem claims_counted (area : Area) (robots count : Nat) :
    (∀ usage : AreaUsage, claimInPlace.run usage =
      match usage.claim with
      | .ok claimed => .ok () claimed
      | .error refused => .error refused usage) ∧
    ∃ answers left, claimRepeatedly count (ofArea robots area) = (answers, left) ∧
      Counts (ofArea robots area) count answers left := by
  have counts : Counts (ofArea robots area) count _ _ :=
    counts_of_unclaimed rfl (area.occupancy.capacity_nonneg robots) count
  exact ⟨run_claimInPlace, _, _, rfl, counts⟩

end AreaUsage
end RobotCity
