import RobotCity.Proofs.NameTable
import RobotCity.Proofs.Setup.Conditions
import RobotCity.Proofs.Setup.Runs

/-!
# Books as a function of the records

As long as the names on a roster are distinct, what the books say is determined by the records that
have been carried out: how often each area is given out, which areas a robot holds, what it carries
and where it starts.  The books have no memory of their own beside these.
-/

namespace RobotCity

/-- The setup without records. -/
def Setup.blank : Setup := { grants := [], supplies := [], origins := [] }

/-- The areas that a robot holds, in the order in which it got them. -/
def areasOf (grants : List Grant) (robot : Text) : List Text :=
  (grants.filter (·.robot = robot)).map (·.area)

@[simp]
theorem mem_areasOf {grants : List Grant} {robot area : Text} :
    area ∈ areasOf grants robot ↔ { robot, area : Grant } ∈ grants := by
  simp only [areasOf, List.mem_map, List.mem_filter, decide_eq_true_eq]
  constructor
  · rintro ⟨grant, ⟨member, rfl⟩, rfl⟩
    exact member
  · exact fun member => ⟨_, ⟨member, rfl⟩, rfl⟩

theorem areasOf_append_singleton (grants : List Grant) (grant : Grant) (robot : Text) :
    areasOf (grants ++ [grant]) robot =
      areasOf grants robot ++ if grant.robot = robot then [grant.area] else [] := by
  by_cases same : grant.robot = robot <;> simp [areasOf, List.filter_append, same]

/-- The corner at which a robot starts. -/
def originOf? (origins : List Origin) (robot : Text) : Option Point :=
  (origins.find? (·.robot = robot)).map (·.point)

theorem originOf?_append_singleton (origins : List Origin) (origin : Origin) (robot : Text) :
    originOf? (origins ++ [origin]) robot =
      (originOf? origins robot).or (if origin.robot = robot then some origin.point else none) := by
  simp only [originOf?, List.find?_append, Option.map_or, List.find?_singleton,
    decide_eq_true_eq]
  split <;> simp

theorem originOf?_eq_none_iff {origins : List Origin} {robot : Text} :
    originOf? origins robot = none ↔ robot ∉ origins.map (·.robot) := by
  simp [originOf?]

theorem originOf?_eq_some_iff {origins : List Origin} {robot : Text} {point : Point}
    (robots_nodup : (origins.map (·.robot)).Nodup) :
    originOf? origins robot = some point ↔ { robot, point : Origin } ∈ origins := by
  constructor
  · intro found
    obtain ⟨origin, origin_found, rfl⟩ := Option.map_eq_some_iff.mp found
    have same : origin.robot = robot := by simpa using List.find?_some origin_found
    subst same
    exact List.mem_of_find?_eq_some origin_found
  · intro member
    cases found : originOf? origins robot with
    | none =>
        rw [originOf?_eq_none_iff] at found
        exact absurd (List.mem_map_of_mem member) found
    | some other =>
        obtain ⟨origin, origin_found, rfl⟩ := Option.map_eq_some_iff.mp found
        have same : origin.robot = robot := by simpa using List.find?_some origin_found
        have equal := List.inj_on_of_nodup_map robots_nodup
          (List.mem_of_find?_eq_some origin_found) member same
        rw [equal]

namespace Roster

/-- What a robot carries. -/
def inventory (roster : Roster) (supplies : List Supply) (robot : Text) : Inventory :=
  roster.kinds.eraseDups.map fun kind => (.string kind, quantity? supplies robot kind)

/-- How an area is used. -/
def usage (roster : Roster) (grants : List Grant) (area : Area) : AreaUsage :=
  { area
    maximum := area.occupancy.capacity roster.headcount
    current := holderCount grants area.name }

/-- What a robot has been given. -/
def account (roster : Roster) (setup : Setup) (robot : Text) : Account :=
  { name := robot
    areas := areasOf setup.grants robot
    inventory := roster.inventory setup.supplies robot
    origin := originOf? setup.origins robot }

@[simp]
theorem account_name (roster : Roster) (setup : Setup) (robot : Text) :
    (roster.account setup robot).name = robot := rfl

/-- The books after all records of a setup, and no others, have been carried out. -/
def books (roster : Roster) (setup : Setup) : Ledger :=
  { usages := .tabulate (·.name) (roster.usage setup.grants) roster.areas
    accounts := .tabulate (fun robot => robot) (roster.account setup) roster.robots }

variable {roster : Roster}

theorem books_usage_of_mem (distinct : roster.Distinct) (setup : Setup) {area : Area}
    (member : area ∈ roster.areas) :
    (roster.books setup).usages.find? area.name = some (roster.usage setup.grants area) :=
  NameTable.find?_tabulate_of_mem _ _ distinct.areas_nodup member

theorem books_usage_of_notMem (setup : Setup) {name : Text}
    (absent : name ∉ roster.areas.map (·.name)) : (roster.books setup).usages.find? name = none :=
  NameTable.find?_tabulate_of_notMem _ _ absent

theorem books_account_of_mem (distinct : roster.Distinct) (setup : Setup) {robot : Text}
    (member : robot ∈ roster.robots) :
    (roster.books setup).accounts.find? robot = some (roster.account setup robot) :=
  NameTable.find?_tabulate_of_mem (fun robot => robot) _ (by simpa using distinct.robots_nodup)
    member

theorem books_account_of_notMem (setup : Setup) {robot : Text}
    (absent : robot ∉ roster.robots) : (roster.books setup).accounts.find? robot = none :=
  NameTable.find?_tabulate_of_notMem (fun robot => robot) _ (by simpa using absent)

theorem set_usage (distinct : roster.Distinct) {area : Area} (member : area ∈ roster.areas)
    (setup changed : Setup)
    (others : ∀ name, name ≠ area.name →
      holderCount changed.grants name = holderCount setup.grants name) :
    (roster.books setup).usages.set area.name (roster.usage changed.grants area) =
      (roster.books changed).usages := by
  apply NameTable.set_tabulate _ _ _ distinct.areas_nodup member
  intro other _ differs
  rw [usage, usage, others other.name differs]

theorem set_account (distinct : roster.Distinct) {robot : Text}
    (member : robot ∈ roster.robots) (setup changed : Setup)
    (others : ∀ other, other ≠ robot → roster.account changed other = roster.account setup other) :
    (roster.books setup).accounts.set robot (roster.account changed robot) =
      (roster.books changed).accounts :=
  NameTable.set_tabulate (fun robot => robot) _ _ (by simpa using distinct.robots_nodup) member
    fun other _ differs => others other differs

end Roster

namespace Inventory

/-- An inventory of kinds with their quantities. -/
theorem find?_strings (kinds : List Text) (quantity : Text → Option Int) (wanted : Text) :
    Inventory.find? (kinds.map fun kind => (.string kind, quantity kind)) (.string wanted) =
      if wanted ∈ kinds then some (.string wanted, quantity wanted) else none := by
  induction kinds with
  | nil => rfl
  | cons kind rest ih =>
      simp only [Inventory.find?, Json.asKey] at ih
      by_cases same : kind = wanted
      · simp [Inventory.find?, Json.asKey, same]
      · simp [Inventory.find?, Json.asKey, same, Ne.symm same, ih]

theorem extend_strings (known kinds : List Text) :
    extend (known.eraseDups.map fun kind => (.string kind, none)) (kinds.map .string) =
      .ok ((known ++ kinds).eraseDups.map fun kind => (.string kind, none)) := by
  induction kinds generalizing known with
  | nil => simp [extend]
  | cons kind rest ih =>
      have later := ih (known ++ [kind])
      rw [List.append_assoc, List.singleton_append, List.eraseDups_append,
        List.cons_removeAll] at later
      simp only [List.map_cons, extend, Json.isKey, if_true, find?_strings, List.mem_eraseDups]
      by_cases member : kind ∈ known
      · simpa [member] using later
      · simpa [member, List.eraseDups_cons] using later

/-- Every kind that is listed is entered once, without a quantity. -/
theorem ofKinds_strings (kinds : List Text) :
    ofKinds (kinds.map .string) = .ok (kinds.eraseDups.map fun kind => (.string kind, none)) :=
  extend_strings [] kinds

end Inventory

namespace Roster

variable {roster : Roster}

theorem find?_inventory (supplies : List Supply) (robot kind : Text) :
    (roster.inventory supplies robot).find? (.string kind) =
      if kind ∈ roster.kinds then some (.string kind, quantity? supplies robot kind)
      else none := by
  simp [inventory, Inventory.find?_strings]

theorem enter_inventory {supplies changed : List Supply} {robot kind : Text} {quantity : Int}
    (entered : quantity? changed robot kind = some quantity)
    (others : ∀ other, other ≠ kind →
      quantity? changed robot other = quantity? supplies robot other) :
    (roster.inventory supplies robot).enter (.string kind) quantity =
      roster.inventory changed robot := by
  simp only [inventory, Inventory.enter, List.map_map]
  refine List.map_congr_left fun other _ => ?_
  by_cases same : other = kind
  · simp [Json.asKey, same, entered]
  · simp [Json.asKey, same, others other same]

theorem ofRobot_strings (kinds : List Text) (robot : Robot) (areas : List Area)
    (robots : List Robot) :
    Account.ofRobot (kinds.map .string) robot =
      .ok ((ofDeclared robots areas kinds).account .blank robot.name) := by
  rw [Account.ofRobot, Inventory.ofKinds_strings]
  rfl

/-- Nothing has been carried out in the books that a check starts from. -/
theorem blank_eq_books {robots : List Robot} {areas : List Area} {kinds : List Text}
    (distinct : (ofDeclared robots areas kinds).Distinct) :
    Ledger.blank robots areas (kinds.map .string) =
      .ok ((ofDeclared robots areas kinds).books .blank) := by
  let roster := ofDeclared robots areas kinds
  have accounts_blank : robots.mapM (Account.ofRobot (kinds.map .string)) =
      .ok (robots.map fun robot => roster.account .blank robot.name) := by
    rw [funext fun robot => ofRobot_strings kinds robot areas robots]
    exact List.mapM_pure
  have usages_listed :
      NameTable.ofLast (areas.map fun area => (area.name, AreaUsage.ofArea robots.length area)) =
        (roster.books .blank).usages :=
    NameTable.ofLast_eq_tabulate (·.name) (roster.usage []) distinct.areas_nodup
  have accounts_listed :
      NameTable.ofFirst ((robots.map fun robot => roster.account .blank robot.name).map
          fun account => (account.name, account)) =
        (roster.books .blank).accounts := by
    have names_listed := NameTable.ofFirst_eq_tabulate (fun robot => robot)
      (roster.account .blank) (by simpa using distinct.robots_nodup)
    rw [List.map_map]
    rwa [ofDeclared, List.map_map] at names_listed
  rw [Ledger.blank, accounts_blank, usages_listed]
  refine congrArg Except.ok ?_
  rw [accounts_listed]

end Roster
end RobotCity
