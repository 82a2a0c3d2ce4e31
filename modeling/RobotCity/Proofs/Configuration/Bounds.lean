import RobotCity.Configuration.Source
import RobotCity.Proofs.Areas
import RobotCity.Proofs.Binary64
import RobotCity.Proofs.Json.Soundness
import RobotCity.Proofs.Outcomes

/-!
# Bounds of configurations that are loaded

The bounds of a city can always be shown if its configuration was loaded, be it from a file or from the
environment: no text of an integer, no integer of a document and no double gives a bound of too many digits.
-/

namespace RobotCity

theorem Text.readUnsigned_short {negative : Bool} {text : List Char} {value : Int}
    (read : readUnsigned negative text = .ok value) : IsShort value := by
  rw [readUnsigned] at read
  split at read
  · cases read
  · split at read
    · cases read
    · rename_i fits
      split at read
      · cases read
        exact isShort_of_numeral (fun c member => (List.mem_filter.mp member).2)
          (Nat.not_lt.mp fits) negative
      · cases read

theorem Text.readInteger_short {text : Text} {value : Int}
    (read : text.readInteger = .ok value) : IsShort value := by
  rw [readInteger] at read
  split at read <;> exact readUnsigned_short read

theorem boundOfText_short {text : Text} {bound : Int} (read : boundOfText text = .ok bound) :
    Text.IsShort bound :=
  Text.readInteger_short (mapError_eq_ok_iff.mp read)

theorem boundOfJson_short {value : Json} {bound : Int} (sound : value.Sound)
    (read : boundOfJson value = .ok bound) : Text.IsShort bound := by
  cases sound with
  | null => cases read
  | @boolean value =>
      cases read
      cases value <;> exact Nat.le_of_ble_eq_true rfl
  | integer short =>
      cases read
      exact short
  | float in_range =>
      cases in_range with
      | finite mantissa_lt least greatest =>
          cases read
          exact Binary64.truncated_short (.finite mantissa_lt least greatest)
      | _ => cases read
  | string => exact boundOfText_short read
  | array items_sound => cases read
  | object names_nodup values_sound => cases read

theorem Grid.standard_showable : Grid.standard.Showable :=
  ⟨Nat.le_of_ble_eq_true rfl, Nat.le_of_ble_eq_true rfl⟩

/-- Two bounds that can be shown give a city whose bounds can be shown. -/
theorem Grid.showable_of_bounds {low high : Except ConfigurationError Int} {grid : Grid}
    (read : (do return (⟨← low, ← high⟩ : Grid)) = .ok grid)
    (low_short : ∀ bound, low = .ok bound → Text.IsShort bound)
    (high_short : ∀ bound, high = .ok bound → Text.IsShort bound) : grid.Showable := by
  obtain ⟨low_bound, low_read, read⟩ := bind_eq_ok read
  obtain ⟨high_bound, high_read, read⟩ := bind_eq_ok read
  cases read
  exact ⟨low_short low_bound low_read, high_short high_bound high_read⟩

theorem Grid.showable_of_ofEnvironment {environment : Environment} {grid : Grid}
    (read : ofEnvironment environment = .ok grid) : grid.Showable := by
  have short {name : String} {standard bound : Int} (standard_short : Text.IsShort standard)
      (read : boundOfEnvironment environment name standard = .ok bound) : Text.IsShort bound := by
    rw [boundOfEnvironment] at read
    split at read
    · cases read
      exact standard_short
    · exact boundOfText_short read
  exact showable_of_bounds read (fun _ => short standard_showable.low_short)
    (fun _ => short standard_showable.high_short)

theorem eitherMember_sound {members : List (Text × Json)} {name other : Text} {standard : Json}
    (sound : (Json.object members).Sound) (standard_sound : standard.Sound) :
    (eitherMember members name other standard).Sound := by
  rw [eitherMember]
  cases found : Json.member? members name with
  | some value => exact sound.of_member? found
  | none =>
      cases found : Json.member? members other with
      | some value => exact sound.of_member? found
      | none => exact standard_sound

theorem Grid.showable_of_ofJson {document : Json} {grid : Grid} (sound : document.Sound)
    (read : ofJson document = .ok grid) : grid.Showable := by
  obtain ⟨members, is_object, read⟩ := bind_eq_ok read
  cases document with
  | object listed =>
      cases is_object
      exact showable_of_bounds read
        (fun _ => boundOfJson_short (eitherMember_sound sound (.integer standard_showable.low_short)))
        (fun _ => boundOfJson_short (eitherMember_sound sound (.integer standard_showable.high_short)))
  | _ => cases is_object

namespace Configuration

variable {configuration : Configuration}

theorem showable_of_ofJson {document : Json} (sound : document.Sound)
    (read : ofJson document = .ok configuration) : configuration.grid.Showable := by
  obtain ⟨members, is_object, read⟩ := bind_eq_ok read
  obtain ⟨grid, grid_read, read⟩ := bind_eq_ok read
  obtain ⟨settings, -, read⟩ := bind_eq_ok read
  cases read
  cases document with
  | object listed =>
      cases is_object
      refine Grid.showable_of_ofJson ?_ grid_read
      cases found : Json.member? members "grid" with
      | some value => exact sound.of_member? found
      | none => exact .object List.nodup_nil (List.forall_mem_nil _)
  | _ => cases is_object

theorem showable_of_ofText {text : List Char} (read : ofText text = .ok configuration) :
    configuration.grid.Showable := by
  rw [ofText] at read
  split at read
  · cases read
  · cases read
  · rename_i document scanned
    exact showable_of_ofJson (Json.readChars_sound scanned) (mapError_eq_ok_iff.mp read)

theorem showable_of_ofEnvironment {environment : Environment}
    (read : ofEnvironment environment = .ok configuration) : configuration.grid.Showable := by
  obtain ⟨grid, grid_read, read⟩ := bind_eq_ok read
  cases read
  exact Grid.showable_of_ofEnvironment grid_read

/-- The bounds of every configuration that is loaded can be shown. -/
theorem showable_of_loaded {machine : Machine} {asked : Option String}
    (loads : machine.loadConfiguration asked = .ok configuration) : configuration.grid.Showable := by
  rw [Machine.loadConfiguration] at loads
  generalize machine.source asked = source at loads
  cases source with
  | environment => exact showable_of_ofEnvironment (mapError_eq_ok_iff.mp loads)
  | file path =>
      rw [Machine.loadSource] at loads
      split at loads
      · cases loads
      · cases loads
      · exact showable_of_ofText loads

end Configuration

end RobotCity
