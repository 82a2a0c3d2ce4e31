import RobotCity.Check.Setup
import RobotCity.Proofs.Outcomes

/-!
# Runs of a pass

Each step of the books is described once by what it needs to go on and what it then changes.  A step of
the check decides a condition if it goes on exactly where the condition holds and stops at a fault of one
category where it fails.  If every step of a pass decides whether one more record is in order, then the
whole pass decides whether all of its records are.
-/

namespace RobotCity

/-- What comes out of a list of computations comes out of one of them. -/
theorem exists_of_mem_mapM {ε α β : Type} {each : α → Except ε β} {items : List α}
    {results : List β} (ended : items.mapM each = .ok results) {result : β}
    (member : result ∈ results) : ∃ item ∈ items, each item = .ok result := by
  induction items generalizing results with
  | nil =>
      cases ended
      cases member
  | cons item rest ih =>
      rw [List.mapM_cons] at ended
      obtain ⟨first, first_ended, ended⟩ := bind_eq_ok ended
      obtain ⟨others, rest_ended, same⟩ := bind_eq_ok ended
      cases same
      rcases List.mem_cons.mp member with rfl | later
      · exact ⟨item, List.mem_cons_self, first_ended⟩
      · obtain ⟨other, other_member, other_ended⟩ := ih rest_ended later
        exact ⟨other, List.mem_cons_of_mem item other_member, other_ended⟩

/-- A run that comes to an end is followed by another one, if each of its steps is. -/
theorem foldlM_follows {σ τ α ε ε' : Type} (Follows : σ → τ → Prop) {step : σ → α → Except ε σ}
    {other : τ → α → Except ε' τ} {items : List α} {state last : σ} {followed : τ}
    (follows : Follows state followed) (ended : items.foldlM step state = .ok last)
    (step_follows : ∀ {state followed next} item, Follows state followed →
      step state item = .ok next → ∃ later, other followed item = .ok later ∧ Follows next later) :
    ∃ final, items.foldlM other followed = .ok final ∧ Follows last final := by
  induction items generalizing state followed with
  | nil =>
      cases ended
      exact ⟨followed, rfl, follows⟩
  | cons item rest ih =>
      rw [List.foldlM_cons] at ended
      cases first : step state item with
      | error stop =>
          rw [first] at ended
          cases ended
      | ok next =>
          rw [first] at ended
          obtain ⟨later, taken, next_follows⟩ := step_follows item follows first
          rw [List.foldlM_cons, taken]
          exact ih next_follows ended

namespace Ledger

variable {ledger next : Ledger} {position : Nat}

/-- An area is given out that is free, and new to the robot that gets it. -/
theorem grant_eq_ok_iff {record : Grant} :
    ledger.grant position record = .ok next ↔
      ∃ usage account, ledger.usages.find? record.area = some usage ∧
        ledger.accounts.find? record.robot = some account ∧
        usage.current < usage.maximum ∧ record.area ∉ account.areas ∧
        next =
          { usages := ledger.usages.set record.area { usage with current := usage.current + 1 }
            accounts := ledger.accounts.set record.robot
              { account with areas := account.areas ++ [record.area] } } := by
  rw [grant]
  cases ledger.usages.find? record.area with
  | none => simp
  | some usage =>
      cases ledger.accounts.find? record.robot with
      | none => simp
      | some account =>
          by_cases full : usage.isFull
          · have no_room : ¬(usage.current : Int) < usage.maximum := by
              simpa [AreaUsage.isFull] using full
            simp [full, no_room]
          · have room : (usage.current : Int) < usage.maximum := by
              simpa [AreaUsage.isFull] using full
            by_cases held : record.area ∈ account.areas
            · simp [full, held]
            · simp [full, held, room, AreaUsage.claim, eq_comm (a := next)]

/-- A kind of items is supplied that is known and has no quantity yet. -/
theorem supplyKind_eq_ok_iff {kinds : List Json} {quantity : Int} {account changed : Account}
    {kind : Text} :
    supplyKind kinds position quantity account kind = .ok changed ↔
      .string kind ∈ kinds ∧ (∃ own, account.inventory.find? (.string kind) = some (own, none)) ∧
        changed = { account with inventory := account.inventory.enter (.string kind) quantity } := by
  rw [supplyKind]
  by_cases known : .string kind ∈ kinds
  · rw [if_neg (not_not_intro known)]
    rcases account.inventory.find? (.string kind) with _ | ⟨own, _ | old⟩
    · simp
    · simp [known, eq_comm (a := changed)]
    · simp
  · simp [known]

/-- A robot starts that has no origin yet, at a free corner of one of its areas. -/
theorem place_eq_ok_iff {record : Origin} :
    ledger.place position record = .ok next ↔
      ∃ account, ledger.accounts.find? record.robot = some account ∧ account.origin = none ∧
        ledger.covers record.point account.areas = .ok true ∧
        ledger.starter? record.point = none ∧
        next = { ledger with
          accounts := ledger.accounts.set record.robot
            { account with origin := some record.point } } := by
  rw [place]
  cases ledger.accounts.find? record.robot with
  | none => simp
  | some account =>
      cases placed : account.origin with
      | some corner => simp [placed]
      | none =>
          rcases covered : ledger.covers record.point account.areas with error | _ | _
          · simp [placed, covered]
          · simp [placed, covered]
          · cases ledger.starter? record.point with
            | some other => simp [placed, covered]
            | none => simp [placed, covered, eq_comm (a := next)]

end Ledger

variable {σ τ α β : Type}

/-- A step goes on with a known state if a condition holds, and stops at a fault of a known category
if it fails. -/
structure Decides (outcome : Except SetupStop σ) (condition : Prop) (next : σ)
    (category : String) : Prop where
  goes_on : condition → outcome = .ok next
  stops : ¬condition →
    ∃ fault : SetupFault, outcome = .error (.fault fault) ∧ fault.category = category

namespace Decides

variable {outcome : Except SetupStop σ} {condition : Prop} {next : σ} {category : String}

theorem bind_goes_on (decides : Decides outcome condition next category) (holds : condition)
    (rest : σ → Except SetupStop τ) : (outcome >>= rest) = rest next := by
  rw [decides.goes_on holds]
  rfl

theorem bind_stops (decides : Decides outcome condition next category) (fails : ¬condition)
    (rest : σ → Except SetupStop τ) :
    ∃ fault : SetupFault, (outcome >>= rest) = .error (.fault fault) ∧
      fault.category = category := by
  obtain ⟨fault, stopped, label⟩ := decides.stops fails
  exact ⟨fault, by rw [stopped]; rfl, label⟩

end Decides

/-- Ending a check at a fault decides whatever holds exactly if there is no fault. -/
theorem stopAt_decides {found : Option SetupFault} {condition : Prop} {category : String}
    (none_iff : found = none ↔ condition)
    (label : ∀ fault, found = some fault → fault.category = category) :
    Decides (stopAt found) condition () category := by
  cases found with
  | none => exact ⟨fun _ => rfl, fun fails => absurd (none_iff.mp rfl) fails⟩
  | some fault =>
      refine ⟨fun holds => ?_, fun _ => ⟨fault, rfl, label fault rfl⟩⟩
      cases none_iff.mpr holds

/-- A pass keeps its state a function of the records behind it, as long as these are in order, and
each step decides whether the next record is admissible behind them. -/
structure Pass (step : σ → β → Except SetupStop σ) (record : β → α) (state : List α → σ)
    (InOrder : List α → Prop) (Admissible : List α → α → Prop) (category : String) : Prop where
  append_singleton_iff : ∀ done next,
    InOrder (done ++ [next]) ↔ InOrder done ∧ Admissible done next
  step_decides : ∀ done item, InOrder done →
    Decides (step (state done) item) (Admissible done (record item))
      (state (done ++ [record item])) category

namespace Pass

variable {step : σ → β → Except SetupStop σ} {record : β → α} {state : List α → σ}
  {InOrder : List α → Prop} {Admissible : List α → α → Prop} {category : String}

theorem inOrder_of_append (pass : Pass step record state InOrder Admissible category)
    {done : List α} (later : List α) (inOrder : InOrder (done ++ later)) : InOrder done := by
  induction later generalizing done with
  | nil => simpa using inOrder
  | cons next rest ih =>
      have front : InOrder (done ++ [next]) := by
        apply ih
        simpa using inOrder
      exact ((pass.append_singleton_iff done next).mp front).1

/-- A run of a pass decides whether all records are in order. -/
theorem run_decides (pass : Pass step record state InOrder Admissible category) (items : List β)
    (done : List α) (inOrder : InOrder done) :
    Decides (items.foldlM step (state done)) (InOrder (done ++ items.map record))
      (state (done ++ items.map record)) category := by
  -- The records behind the run stay in order, so the state before each step is known.
  induction items generalizing done with
  | nil => exact ⟨fun _ => by simp [pure, Except.pure], fun fails => by simp [inOrder] at fails⟩
  | cons item rest ih =>
      have next := pass.step_decides done item inOrder
      rw [List.foldlM_cons, List.map_cons, List.append_cons]
      by_cases admissible : Admissible done (record item)
      · rw [next.bind_goes_on admissible]
        exact ih (done ++ [record item])
          ((pass.append_singleton_iff done (record item)).mpr ⟨inOrder, admissible⟩)
      · refine ⟨fun all => ?_, fun _ => next.bind_stops admissible _⟩
        have front := pass.inOrder_of_append _ all
        exact absurd ((pass.append_singleton_iff done (record item)).mp front).2 admissible

end Pass

/-- A pass over records with their positions is a run over numbered records. -/
theorem eachRecord_eq_foldlM (action : Ledger → Nat → α → Except SetupStop Ledger)
    (ledger : Ledger) (position : Nat) (records : List α) :
    eachRecord action ledger position records =
      (records.zipIdx position).foldlM (fun ledger entry => action ledger entry.2 entry.1)
        ledger := by
  induction records generalizing ledger position with
  | nil => rfl
  | cons record rest ih =>
      rw [eachRecord, List.zipIdx_cons, List.foldlM_cons]
      cases action ledger position record with
      | error stop => rfl
      | ok next => exact ih next (position + 1)

/-- A pass that stops does so at one of its records, with those in front of it carried out. -/
theorem eachRecord_eq_error {action : Ledger → Nat → α → Except SetupStop Ledger} {ledger : Ledger}
    {position : Nat} {records : List α} {stop : SetupStop}
    (stopped : eachRecord action ledger position records = .error stop) :
    ∃ before record after next, records = before ++ record :: after ∧
      eachRecord action ledger position before = .ok next ∧
      action next (position + before.length) record = .error stop := by
  induction records generalizing ledger position with
  | nil => cases stopped
  | cons first rest ih =>
      rw [eachRecord] at stopped
      rcases bind_eq_error stopped with here | ⟨next, taken, later⟩
      · exact ⟨[], first, rest, ledger, rfl, rfl, here⟩
      · obtain ⟨before, record, after, last, rfl, ended, stops⟩ := ih later
        refine ⟨first :: before, record, after, last, rfl, ?_, ?_⟩
        · rw [eachRecord, taken]
          exact ended
        · rw [List.length_cons, Nat.add_comm before.length, ← Nat.add_assoc]
          exact stops

/-- A pass over records decides whether all of them are in order. -/
theorem eachRecord_decides {action : Ledger → Nat → α → Except SetupStop Ledger}
    {state : List α → Ledger} {InOrder : List α → Prop} {Admissible : List α → α → Prop}
    {category : String}
    (pass : Pass (fun ledger (entry : α × Nat) => action ledger entry.2 entry.1) (·.1) state
      InOrder Admissible category)
    (start : InOrder []) (position : Nat) (records : List α) :
    Decides (eachRecord action (state []) position records) (InOrder records) (state records)
      category := by
  have decides := pass.run_decides (records.zipIdx position) [] start
  rwa [← eachRecord_eq_foldlM, List.nil_append, List.zipIdx_map_fst] at decides

end RobotCity
