import RobotCity.Proofs.Setup.Passes

/-!
# Accepted setups

A setup is carried out exactly if it meets the conditions of all four passes.  Otherwise it is
refused by a fault of the first pass whose condition it does not meet.
-/

namespace RobotCity
namespace Roster

/-- The first pass whose condition a setup does not meet. -/
def firstFailure? (roster : Roster) (setup : Setup) : Option SetupPass :=
  SetupPass.all.find? fun pass => ¬roster.Meets setup pass

theorem firstFailure?_eq_none_iff {roster : Roster} {setup : Setup} :
    roster.firstFailure? setup = none ↔ ∀ pass, roster.Meets setup pass := by
  have complete : ∀ pass : SetupPass, pass ∈ SetupPass.all := by
    intro pass
    cases pass <;> decide
  simp [firstFailure?, complete]

variable {robots : List Robot} {areas : List Area} {kinds : List Text}

/-- The passes as they follow each other on the books of a roster. -/
theorem carryOut_eq (distinct : (ofDeclared robots areas kinds).Distinct) (setup : Setup) :
    setup.carryOut robots areas (kinds.map .string) =
      (((ofDeclared robots areas kinds).books .blank).grantAll setup.grants >>= fun ledger =>
        stopAt ledger.idle? >>= fun _ =>
        ledger.supplyAll ((ofDeclared robots areas kinds).kinds.map .string) setup.supplies >>=
          fun ledger =>
        ledger.placeAll setup.origins >>= fun ledger =>
        stopAt ledger.unplaced? >>= fun _ => .ok ledger) := by
  rw [Setup.carryOut, blank_eq_books distinct]
  rfl

/-- Carrying a setup out leads to its books if it meets all conditions. -/
theorem carryOut_of_meets (distinct : (ofDeclared robots areas kinds).Distinct) {setup : Setup}
    (meets : ∀ pass, (ofDeclared robots areas kinds).Meets setup pass) :
    setup.carryOut robots areas (kinds.map .string) =
      .ok ((ofDeclared robots areas kinds).books setup) := by
  have granted : GrantsAllowed _ setup.grants := meets .areas
  have ⟨fit, placed⟩ := originsAllowed_iff_fit.mp (meets .origins)
  rw [carryOut_eq distinct,
    (grantAll_decides distinct setup.grants).bind_goes_on granted,
    (idle?_decides _ { grants := setup.grants, supplies := [], origins := [] }).bind_goes_on
      (meets .participation),
    (supplyAll_decides distinct setup.grants setup.supplies).bind_goes_on (meets .items),
    (placeAll_decides distinct setup granted.area_declared).bind_goes_on fit,
    (unplaced?_decides _ setup).bind_goes_on placed]

/-- Carrying a setup out ends at a fault of the first pass whose condition it does not meet. -/
theorem carryOut_of_fails (distinct : (ofDeclared robots areas kinds).Distinct) {setup : Setup}
    {pass : SetupPass} (first : (ofDeclared robots areas kinds).firstFailure? setup = some pass) :
    ∃ fault : SetupFault, setup.carryOut robots areas (kinds.map .string) =
      .error (.fault fault) ∧ fault.category = pass.category := by
  have grants_decided := grantAll_decides distinct setup.grants
  have idle_decided := idle?_decides (ofDeclared robots areas kinds)
    { grants := setup.grants, supplies := [], origins := [] }
  have supplies_decided := supplyAll_decides distinct setup.grants setup.supplies
  rw [carryOut_eq distinct]
  by_cases granted : (ofDeclared robots areas kinds).Meets setup .areas
  case neg =>
    obtain rfl : .areas = pass := by simpa [firstFailure?, SetupPass.all, granted] using first
    exact grants_decided.bind_stops granted _
  rw [grants_decided.bind_goes_on granted]
  by_cases participating : (ofDeclared robots areas kinds).Meets setup .participation
  case neg =>
    obtain rfl : .participation = pass := by
      simpa [firstFailure?, SetupPass.all, granted, participating] using first
    exact idle_decided.bind_stops participating _
  rw [idle_decided.bind_goes_on participating]
  by_cases supplied : (ofDeclared robots areas kinds).Meets setup .items
  case neg =>
    obtain rfl : .items = pass := by
      simpa [firstFailure?, SetupPass.all, granted, participating, supplied] using first
    exact supplies_decided.bind_stops supplied _
  rw [supplies_decided.bind_goes_on supplied]
  obtain ⟨rfl, unplaced⟩ :
      .origins = pass ∧ ¬(ofDeclared robots areas kinds).Meets setup .origins := by
    by_cases placed : (ofDeclared robots areas kinds).Meets setup .origins <;>
      simp_all [firstFailure?, SetupPass.all]
  have placed_decided := placeAll_decides distinct setup (GrantsAllowed.area_declared granted)
  by_cases fit : (ofDeclared robots areas kinds).OriginsFit setup.grants setup.origins
  · rw [placed_decided.bind_goes_on fit]
    exact (unplaced?_decides _ setup).bind_stops
      (fun all => unplaced (originsAllowed_iff_fit.mpr ⟨fit, all⟩)) _
  · exact placed_decided.bind_stops fit _

end Roster

namespace Setup

open Roster (ofDeclared)

variable {robots : List Robot} {areas : List Area} {kinds : List Text}

theorem fault?_of_meets (distinct : (ofDeclared robots areas kinds).Distinct) {setup : Setup}
    (meets : ∀ pass, (ofDeclared robots areas kinds).Meets setup pass) :
    setup.fault? robots areas (kinds.map .string) = .ok none := by
  rw [fault?, Roster.carryOut_of_meets distinct meets]

theorem fault?_of_fails (distinct : (ofDeclared robots areas kinds).Distinct) {setup : Setup}
    {pass : SetupPass} (first : (ofDeclared robots areas kinds).firstFailure? setup = some pass) :
    ∃ fault, setup.fault? robots areas (kinds.map .string) = .ok (some fault) ∧
      fault.category = pass.category := by
  obtain ⟨fault, stopped, label⟩ := Roster.carryOut_of_fails distinct first
  exact ⟨fault, by rw [fault?, stopped], label⟩

theorem meets_of_faultless (distinct : (ofDeclared robots areas kinds).Distinct) {setup : Setup}
    (faultless : setup.fault? robots areas (kinds.map .string) = .ok none) :
    ∀ pass, (ofDeclared robots areas kinds).Meets setup pass := by
  cases first : (ofDeclared robots areas kinds).firstFailure? setup with
  | none => exact Roster.firstFailure?_eq_none_iff.mp first
  | some pass =>
      obtain ⟨fault, found, -⟩ := fault?_of_fails distinct first
      rw [found] at faultless
      cases faultless

/-- The books never refuse an entry; a setup is accepted exactly if it meets the conditions of all
passes, and is otherwise refused under the label of the first pass whose condition fails. -/
theorem fault?_decides_meets (areas_nodup : (areas.map (·.name)).Nodup)
    (robots_nodup : (robots.map (·.name)).Nodup) (setup : Setup) :
    ∃ found, setup.fault? robots areas (kinds.map .string) = .ok found ∧
      (found = none ↔ ∀ pass, (ofDeclared robots areas kinds).Meets setup pass) ∧
      found.map (·.report.category) =
        ((ofDeclared robots areas kinds).firstFailure? setup).map (·.category) := by
  have distinct : (ofDeclared robots areas kinds).Distinct := ⟨areas_nodup, robots_nodup⟩
  rw [← Roster.firstFailure?_eq_none_iff]
  cases first : (ofDeclared robots areas kinds).firstFailure? setup with
  | none =>
      have meets := Roster.firstFailure?_eq_none_iff.mp first
      exact ⟨none, fault?_of_meets distinct meets, by simp, rfl⟩
  | some pass =>
      obtain ⟨fault, found, label⟩ := fault?_of_fails distinct first
      exact ⟨some fault, found, by simp, congrArg some label⟩

/-- Two robots share an area and keep apart, but one of them is given paper twice, of which the
first time none at all. -/
def paperTwice : Setup :=
  { grants := [⟨"r1", "north"⟩, ⟨"r2", "north"⟩, ⟨"r2", "south"⟩]
    supplies := [⟨"r1", ["flower", "paper"], 0⟩, ⟨"r1", ["paper"], 2⟩]
    origins := [⟨"r2", ⟨4, 12⟩⟩, ⟨"r1", ⟨4, 9⟩⟩] }

/-- The robots of this setup. -/
def carriers : List Robot :=
  [⟨"r1", "carrier"⟩, ⟨"r2", "carrier"⟩]

/-- The areas of this setup. -/
def halves : List Area :=
  [⟨"north", .shared, ⟨⟨1, 1⟩, ⟨9, 9⟩⟩⟩, ⟨"south", .exclusive, ⟨⟨1, 10⟩, ⟨9, 19⟩⟩⟩]

theorem paperTwice_refused :
    (halves.map (·.name)).Nodup ∧ (carriers.map (·.name)).Nodup ∧
      ∃ found, paperTwice.fault? carriers halves [.string "flower", .string "paper"] = .ok found ∧
        found.map (·.report.category) = some "Invalid item assignment" := by
  have areas_nodup : (halves.map (·.name)).Nodup := by decide
  have robots_nodup : (carriers.map (·.name)).Nodup := by decide
  have first : (ofDeclared carriers halves ["flower", "paper"]).firstFailure? paperTwice =
      some .items := by decide
  obtain ⟨found, checked, -, label⟩ := fault?_decides_meets areas_nodup robots_nodup paperTwice
  rw [first] at label
  exact ⟨areas_nodup, robots_nodup, found, checked, label⟩

end Setup
end RobotCity
