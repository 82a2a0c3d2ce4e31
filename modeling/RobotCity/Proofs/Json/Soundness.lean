import Mathlib.Data.List.Nodup
import Mathlib.Data.List.TakeWhile
import RobotCity.Json.Reader
import RobotCity.Proofs.Binary64
import RobotCity.Proofs.Json.Characters

/-!
# Values that are read

Whatever text the reader accepts, the value that it gives can be written again and read back, unless
it holds doubles: its integers are short, its doubles are those of double precision, and none of its
objects has two members under one name.
-/

namespace RobotCity

namespace Json

/-- A value whose integers are short enough to be converted, whose doubles double precision has and whose
objects have one member under a name. -/
inductive Sound : Json → Prop
  | null : Sound .null
  | boolean {value : Bool} : Sound (.boolean value)
  | integer {value : Int} : Text.IsShort value → Sound (.integer value)
  | float {value : Binary64} : value.InRange → Sound (.float value)
  | string {text : Text} : Sound (.string text)
  | array {items : List Json} : (∀ item ∈ items, Sound item) → Sound (.array items)
  | object {members : List (Text × Json)} : (members.map (·.1)).Nodup →
    (∀ entry ∈ members, Sound entry.2) → Sound (.object members)

/-- A value without doubles. -/
inductive FloatFree : Json → Prop
  | null : FloatFree .null
  | boolean {value : Bool} : FloatFree (.boolean value)
  | integer {value : Int} : FloatFree (.integer value)
  | string {text : Text} : FloatFree (.string text)
  | array {items : List Json} : (∀ item ∈ items, FloatFree item) → FloatFree (.array items)
  | object {members : List (Text × Json)} : (∀ entry ∈ members, FloatFree entry.2) →
    FloatFree (.object members)

theorem Sound.plain {value : Json} (sound : value.Sound) (float_free : value.FloatFree) :
    value.Plain := by
  induction sound with
  | null => exact .null
  | boolean => exact .boolean
  | integer short => exact .integer short
  | float in_range => cases float_free
  | string => exact .string
  | array items_sound ih =>
      cases float_free with
      | array items_free => exact .array fun item member => ih item member (items_free item member)
  | object names_nodup values_sound ih =>
      cases float_free with
      | object values_free =>
          exact .object names_nodup fun entry member => ih entry member (values_free entry member)

theorem Sound.showable {value : Json} (sound : value.Sound) : value.Showable := by
  induction sound with
  | integer short => exact showable_integer_iff.mpr short
  | array items_sound ih => exact showable_array_iff.mpr ih
  | object names_nodup values_sound ih => exact showable_object_iff.mpr ih
  | _ => exact List.forall_mem_nil _

theorem Sound.of_item {items : List Json} (sound : (Json.array items).Sound) :
    ∀ item ∈ items, item.Sound := by
  cases sound with
  | array items_sound => exact items_sound

theorem Sound.of_member? {members : List (Text × Json)} {name : Text} {value : Json}
    (sound : (Json.object members).Sound) (found : member? members name = some value) :
    value.Sound := by
  cases sound with
  | object names_nodup values_sound =>
      rw [member?, List.lookup_eq_some_iff] at found
      obtain ⟨before, after, rfl, -⟩ := found
      exact values_sound (name, value) (by simp)

theorem Sound.of_member {members : List (Text × Json)} (sound : (Json.object members).Sound)
    (name : Text) : (member members name).Sound := by
  rw [member]
  cases found : member? members name with
  | none => exact .null
  | some value => exact sound.of_member? found

/-- A token gives nothing but a sound value. -/
def Token.Sound : Token → Prop
  | .atom value => value.Sound
  | _ => True

theorem NumberText.token_sound (number : NumberText) (some_digit : number.whole ≠ [])
    (all_digits : ∀ c ∈ number.whole, c.isDigit) : number.token.Sound := by
  obtain ⟨negative, whole, fraction, power⟩ := number
  rw [NumberText.token.eq_def]
  dsimp only
  split
  · split
    · trivial
    · rename_i fits
      exact .integer
        (Text.isShort_of_numeral all_digits (Nat.not_lt.mp fits) negative)
  · exact .float (Binary64.ofDecimal_inRange _ _ _)

theorem scanWhole_digits (input : List Char) : ∀ c ∈ (scanWhole input).1, c.isDigit := by
  rw [scanWhole]
  split
  · simp
  · exact fun c member => List.mem_takeWhile_imp member

theorem scanUnsigned?_sound {negative : Bool} {position : Nat} {input : List Char}
    {scanned : Scanned Token} (read : scanUnsigned? negative position input = some scanned) :
    scanned.value.Sound := by
  unfold scanUnsigned? at read
  dsimp only at read
  split at read
  · cases read
  · rename_i some_digit
    cases read
    exact NumberText.token_sound _ some_digit (scanWhole_digits input)

theorem scanNumber?_sound {position : Nat} {input : List Char} {scanned : Scanned Token}
    (read : scanNumber? position input = some scanned) : scanned.value.Sound := by
  rw [scanNumber?] at read
  split at read <;> exact scanUnsigned?_sound read

theorem scanWord?_sound {position : Nat} {input : List Char} {scanned : Scanned Token}
    (read : scanWord? position input = some scanned) : scanned.value.Sound := by
  obtain ⟨word, is_word, found⟩ := List.exists_of_findSome?_eq_some read
  obtain ⟨rest, -, rfl⟩ := Option.map_eq_some_iff.mp found
  simp only [words, List.mem_cons, List.not_mem_nil, or_false] at is_word
  rcases is_word with rfl | rfl | rfl | rfl | rfl | rfl
  · exact .null
  · exact .boolean
  · exact .boolean
  · exact .float .nan
  · exact .float .infinite
  · exact .float .infinite

theorem punctuation?_sound {c : Char} {token : Token} (mark : punctuation? c = some token) :
    token.Sound := by
  simp only [punctuation?] at mark
  split_ifs at mark <;> cases mark <;> trivial

theorem scanText_sound (start : Nat) (input : List Char) : (scanText start input).value.Sound := by
  rw [scanText]
  split <;> trivial

theorem scanToken_sound (position : Nat) (c : Char) (rest : List Char) :
    (scanToken position c rest).value.Sound := by
  rw [scanToken]
  cases mark : punctuation? c with
  | some token => exact punctuation?_sound mark
  | none =>
      dsimp only
      split
      · exact scanText_sound position rest
      · cases word : scanWord? position (c :: rest) with
        | some scanned => exact scanWord?_sound word
        | none =>
            cases number : scanNumber? position (c :: rest) with
            | some scanned => exact scanNumber?_sound number
            | none => trivial

theorem lexemes_sound (position : Nat) (input : List Char) :
    ∀ lexeme ∈ lexemes position input, lexeme.token.Sound := by
  fun_induction lexemes position input with
  | case1 => simp
  | case2 position c rest space ih => exact ih
  | case3 position c rest ink scanned ih =>
      exact List.forall_mem_cons.mpr ⟨scanToken_sound position c rest, ih⟩

/-- The members of an object that is still open are sound, and have names of their own. -/
structure SoundMembers (members : List (Text × Json)) : Prop where
  names_nodup : (members.map (·.1)).Nodup
  values_sound : ∀ entry ∈ members, entry.2.Sound

theorem SoundMembers.nil : SoundMembers [] :=
  ⟨List.nodup_nil, by simp⟩

theorem names_setMember (name : Text) (value : Json) (members : List (Text × Json)) :
    (setMember name value members).map (·.1) =
      if name ∈ members.map (·.1) then members.map (·.1) else members.map (·.1) ++ [name] := by
  induction members with
  | nil => rfl
  | cons entry rest ih =>
      obtain ⟨other, old⟩ := entry
      by_cases same : other = name
      · simp [setMember, same]
      · by_cases member : name ∈ rest.map (·.1) <;>
          simp_all [setMember, Ne.symm same]

theorem SoundMembers.set {members : List (Text × Json)} {value : Json}
    (sound : SoundMembers members) (name : Text) (value_sound : value.Sound) :
    SoundMembers (setMember name value members) := by
  constructor
  · rw [names_setMember]
    split
    · exact sound.names_nodup
    · rename_i fresh
      exact List.nodup_append.mpr ⟨sound.names_nodup, List.nodup_singleton name,
        fun other member last is_last same => fresh (List.mem_singleton.mp is_last ▸ same ▸ member)⟩
  · have values_sound := sound.values_sound
    clear sound
    induction members with
    | nil => simpa [setMember] using value_sound
    | cons entry rest ih =>
        obtain ⟨other, old⟩ := entry
        obtain ⟨old_sound, rest_sound⟩ := List.forall_mem_cons.mp values_sound
        rw [setMember]
        split
        · exact List.forall_mem_cons.mpr ⟨value_sound, rest_sound⟩
        · exact List.forall_mem_cons.mpr ⟨old_sound, ih rest_sound⟩

/-- What an open array or object holds so far is sound. -/
def Frame.Sound : Frame → Prop
  | .array items => ∀ item ∈ items, item.Sound
  | .object members _ => SoundMembers members

/-- All that the reader has read so far is sound. -/
def ReaderState.Sound : ReaderState → Prop
  | .valueDue frames | .itemDue frames | .memberDue frames => ∀ frame ∈ frames, frame.Sound
  | .nameDue frames members | .colonDue frames members _ =>
    (∀ frame ∈ frames, frame.Sound) ∧ SoundMembers members
  | .valueRead frames value => (∀ frame ∈ frames, frame.Sound) ∧ value.Sound

theorem startValue_sound {frames : List Frame} {lexeme : Lexeme} {state : ReaderState}
    (frames_sound : ∀ frame ∈ frames, frame.Sound) (token_sound : lexeme.token.Sound)
    (taken : startValue frames lexeme = .ok state) : state.Sound := by
  obtain ⟨token, position⟩ := lexeme
  cases token with
  | openObject | openArray =>
      cases taken
      exact frames_sound
  | atom value =>
      cases taken
      exact ⟨frames_sound, token_sound⟩
  | text content =>
      cases taken
      exact ⟨frames_sound, .string⟩
  | _ => cases taken

theorem startMember_sound {frames : List Frame} {members : List (Text × Json)} {lexeme : Lexeme}
    {state : ReaderState} (frames_sound : ∀ frame ∈ frames, frame.Sound)
    (members_sound : SoundMembers members)
    (taken : startMember frames members lexeme = .ok state) : state.Sound := by
  obtain ⟨token, position⟩ := lexeme
  cases token with
  | text name =>
      cases taken
      exact ⟨frames_sound, members_sound⟩
  | _ => cases taken

theorem closeValue_sound {value : Json} {lexeme : Lexeme} {frames : List Frame}
    {state : ReaderState} (frames_sound : ∀ frame ∈ frames, frame.Sound)
    (value_sound : value.Sound) (taken : closeValue value lexeme frames = .ok state) :
    state.Sound := by
  obtain ⟨token, position⟩ := lexeme
  cases frames with
  | nil => cases taken
  | cons frame frames =>
      obtain ⟨frame_sound, outer_sound⟩ := List.forall_mem_cons.mp frames_sound
      cases frame with
      | array items =>
          have items_sound : ∀ item ∈ value :: items, item.Sound :=
            List.forall_mem_cons.mpr ⟨value_sound, frame_sound⟩
          cases token with
          | comma =>
              cases taken
              exact List.forall_mem_cons.mpr ⟨items_sound, outer_sound⟩
          | closeArray =>
              cases taken
              exact ⟨outer_sound, .array fun item member =>
                items_sound item (List.mem_reverse.mp member)⟩
          | _ => cases taken
      | object members name =>
          have members_sound := SoundMembers.set frame_sound name value_sound
          cases token with
          | comma =>
              cases taken
              exact ⟨outer_sound, members_sound⟩
          | closeObject =>
              cases taken
              exact ⟨outer_sound, .object members_sound.names_nodup members_sound.values_sound⟩
          | _ => cases taken

theorem next_sound {state next : ReaderState} {lexeme : Lexeme} (state_sound : state.Sound)
    (token_sound : lexeme.token.Sound) (taken : state.next lexeme = .ok next) : next.Sound := by
  cases state with
  | valueDue frames => exact startValue_sound state_sound token_sound taken
  | itemDue frames =>
      have opened : ∀ frame ∈ Frame.array [] :: frames, frame.Sound :=
        List.forall_mem_cons.mpr ⟨by simp [Frame.Sound], state_sound⟩
      rw [ReaderState.next] at taken
      split at taken
      · cases taken
        exact ⟨state_sound, .array (by simp)⟩
      · exact startValue_sound opened token_sound taken
  | memberDue frames =>
      rw [ReaderState.next] at taken
      split at taken
      · cases taken
        exact ⟨state_sound, .object List.nodup_nil (by simp)⟩
      · exact startMember_sound state_sound .nil taken
  | nameDue frames members => exact startMember_sound state_sound.1 state_sound.2 taken
  | colonDue frames members name =>
      rw [ReaderState.next] at taken
      split at taken
      · cases taken
        exact List.forall_mem_cons.mpr ⟨state_sound.2, state_sound.1⟩
      · cases taken
  | valueRead frames value => exact closeValue_sound state_sound.1 state_sound.2 taken

/-- The reader keeps to sound values over all tokens. -/
theorem run_sound {lexemes : List Lexeme} {state last : ReaderState}
    (tokens_sound : ∀ lexeme ∈ lexemes, lexeme.token.Sound) (state_sound : state.Sound)
    (run : lexemes.foldlM ReaderState.next state = .ok last) : last.Sound := by
  induction lexemes generalizing state with
  | nil =>
      cases run
      exact state_sound
  | cons lexeme rest ih =>
      obtain ⟨token_sound, rest_sound⟩ := List.forall_mem_cons.mp tokens_sound
      rw [List.foldlM_cons] at run
      cases taken : state.next lexeme with
      | error reason =>
          rw [taken] at run
          cases run
      | ok next =>
          rw [taken] at run
          exact ih rest_sound (next_sound state_sound token_sound taken) run

theorem finish_sound {state : ReaderState} {position : Nat} {value : Json}
    (state_sound : state.Sound) (finished : state.finish position = .ok value) :
    value.Sound := by
  cases state with
  | valueRead frames read =>
      cases frames with
      | nil =>
          cases finished
          exact state_sound.2
      | cons frame frames => cases finished
  | _ => cases finished

/-- Every value that is read is sound. -/
theorem readChars_sound {text : List Char} {value : Json} (read : readChars text = .ok value) :
    value.Sound := by
  rw [readChars] at read
  split at read
  · cases read
  · cases run : (lexemes 0 text).foldlM ReaderState.next (.valueDue []) with
    | error reason =>
        rw [run] at read
        cases read
    | ok last =>
        rw [run] at read
        have start_sound : (ReaderState.valueDue []).Sound := by simp [ReaderState.Sound]
        exact finish_sound (run_sound (lexemes_sound 0 text) start_sound run) read

end Json
end RobotCity
