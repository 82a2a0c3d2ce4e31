import Mathlib.Tactic.SplitIfs
import RobotCity.Text.Utf8

/-!
# Characters and their bytes

A text is what its bytes hold: each character is decoded from the bytes that encode it, whatever stands
behind them.
-/

namespace RobotCity
namespace Utf8

theorem toNat_toUInt8 (number : Nat) (small : number < 0x100) : number.toUInt8.toNat = number := by
  rw [Nat.toUInt8, UInt8.toNat_ofNat']
  exact Nat.mod_eq_of_lt small

theorem toNat_continuation (number : Nat) :
    (continuation number).toNat = 0x80 + number % 0x40 := by
  rw [continuation, toNat_toUInt8 _ (by omega)]

theorem isContinuation_continuation (number : Nat) : isContinuation (continuation number) := by
  simp only [isContinuation, Bool.and_eq_true, decide_eq_true_eq, UInt8.le_iff_toNat_le,
    toNat_continuation]
  change 0x80 ≤ _ ∧ _ ≤ 0xbf
  omega

theorem payload_continuation (number : Nat) : payload (continuation number) = number % 0x40 := by
  rw [payload, toNat_continuation]
  omega

/-- What a second byte must not do, in numbers. -/
theorem maySecond_of_bounds {first second : UInt8} (continues : isContinuation second)
    (not_short : first.toNat = 0xe0 → 0xa0 ≤ second.toNat)
    (no_surrogate : first.toNat = 0xed → second.toNat < 0xa0)
    (not_short_either : first.toNat = 0xf0 → 0x90 ≤ second.toNat)
    (not_beyond : first.toNat = 0xf4 → second.toNat < 0x90) : maySecond first second := by
  rw [maySecond, continues, Bool.true_and]
  split_ifs with is_e0 is_ed is_f0 is_f4
  · exact decide_eq_true (UInt8.le_iff_toNat_le.mpr (not_short (by rw [is_e0]; rfl)))
  · exact decide_eq_true (UInt8.lt_iff_toNat_lt.mpr (no_surrogate (by rw [is_ed]; rfl)))
  · exact decide_eq_true (UInt8.le_iff_toNat_le.mpr (not_short_either (by rw [is_f0]; rfl)))
  · exact decide_eq_true (UInt8.lt_iff_toNat_lt.mpr (not_beyond (by rw [is_f4]; rfl)))
  · rfl

section Decoding

variable {first second third fourth : UInt8}

theorem decodeFrom_one (small : first.toNat < 0x80) (position : Nat) (rest : List UInt8) :
    decodeFrom position (first :: rest) =
      prepend first.toNat (decodeFrom (position + 1) rest) := by
  have one_byte : first < 0x80 := UInt8.lt_iff_toNat_lt.mpr small
  rw [decodeFrom.eq_def]
  dsimp only
  rw [if_pos one_byte]

/-- The first byte of several is neither a character of its own nor refused. -/
theorem leads_of_bounds (first : UInt8) (low : 0xc2 ≤ first.toNat) (high : first.toNat < 0xf5) :
    ¬first < 0x80 ∧ ¬(first < 0xc2 || 0xf5 ≤ first) = true := by
  simp only [Bool.or_eq_true, decide_eq_true_eq, UInt8.lt_iff_toNat_lt, UInt8.le_iff_toNat_le]
  change ¬first.toNat < 0x80 ∧ ¬(first.toNat < 0xc2 ∨ 0xf5 ≤ first.toNat)
  omega

theorem decodeFrom_two (low : 0xc2 ≤ first.toNat) (high : first.toNat < 0xe0)
    (second_fits : maySecond first second) (position : Nat) (rest : List UInt8) :
    decodeFrom position (first :: second :: rest) =
      prepend (first.toNat % 0x20 * 0x40 + payload second) (decodeFrom (position + 2) rest) := by
  obtain ⟨not_one, accepted⟩ := leads_of_bounds first low (by omega)
  have two_bytes : first < 0xe0 := UInt8.lt_iff_toNat_lt.mpr high
  rw [decodeFrom.eq_def]
  dsimp only
  rw [if_neg not_one, if_neg accepted]
  rw [second_fits, if_neg (by decide), if_pos two_bytes]

theorem decodeFrom_three (low : 0xe0 ≤ first.toNat) (high : first.toNat < 0xf0)
    (second_fits : maySecond first second) (third_continues : isContinuation third)
    (position : Nat) (rest : List UInt8) :
    decodeFrom position (first :: second :: third :: rest) =
      prepend ((first.toNat % 0x10 * 0x40 + payload second) * 0x40 + payload third)
        (decodeFrom (position + 3) rest) := by
  obtain ⟨not_one, accepted⟩ := leads_of_bounds first (by omega) (by omega)
  have not_two : ¬first < 0xe0 := mt UInt8.lt_iff_toNat_lt.mp (Nat.not_lt.mpr low)
  have three_bytes : first < 0xf0 := UInt8.lt_iff_toNat_lt.mpr high
  rw [decodeFrom.eq_def]
  dsimp only
  rw [if_neg not_one, if_neg accepted]
  rw [second_fits, if_neg (by decide), if_neg not_two]
  rw [third_continues, if_neg (by decide), if_pos three_bytes]

theorem decodeFrom_four (low : 0xf0 ≤ first.toNat) (high : first.toNat < 0xf5)
    (second_fits : maySecond first second) (third_continues : isContinuation third)
    (fourth_continues : isContinuation fourth) (position : Nat) (rest : List UInt8) :
    decodeFrom position (first :: second :: third :: fourth :: rest) =
      prepend
        (((first.toNat % 0x08 * 0x40 + payload second) * 0x40 + payload third) * 0x40 +
          payload fourth)
        (decodeFrom (position + 4) rest) := by
  obtain ⟨not_one, accepted⟩ := leads_of_bounds first (by omega) (by omega)
  have not_two : ¬first < 0xe0 :=
    mt UInt8.lt_iff_toNat_lt.mp (Nat.not_lt.mpr (Nat.le_trans (by decide) low))
  have not_three : ¬first < 0xf0 := mt UInt8.lt_iff_toNat_lt.mp (Nat.not_lt.mpr low)
  rw [decodeFrom.eq_def]
  dsimp only
  rw [if_neg not_one, if_neg accepted]
  rw [second_fits, if_neg (by decide), if_neg not_two]
  rw [third_continues, if_neg (by decide), if_neg not_three]
  rw [fourth_continues, if_neg (by decide)]

end Decoding

/-- A character is no surrogate and lies within the code points. -/
theorem toNat_bounds (c : Char) :
    c.toNat < 0xd800 ∨ 0xdfff < c.toNat ∧ c.toNat < 0x110000 :=
  c.valid

/-- The bytes of a character are decoded as this character, whatever stands behind them. -/
theorem decodeFrom_encodeChar (position : Nat) (c : Char) (rest : List UInt8) :
    ∃ behind, decodeFrom position (encodeChar c ++ rest) =
      (decodeFrom behind rest).map (c :: ·) := by
  have bounds := toNat_bounds c
  have whole : ∀ behind, (decodeFrom behind rest).map (c :: ·) =
      prepend c.toNat (decodeFrom behind rest) := fun behind => by rw [prepend, Char.ofNat_toNat]
  simp only [whole]
  rw [encodeChar]
  generalize c.toNat = code at bounds
  split_ifs with one two three
  · have first := toNat_toUInt8 (code) (by omega)
    refine ⟨position + 1, (decodeFrom_one (by omega) position rest).trans ?_⟩
    rw [first]
  · have first := toNat_toUInt8 (0xc0 + code / 0x40) (by omega)
    have second_fits : maySecond (0xc0 + code / 0x40).toUInt8 (continuation code) :=
      maySecond_of_bounds (isContinuation_continuation code) (by omega) (by omega) (by omega)
        (by omega)
    refine ⟨position + 2, (decodeFrom_two (by omega) (by omega) second_fits position rest).trans ?_⟩
    rw [first, payload_continuation]
    congr 1
    omega
  · have first := toNat_toUInt8 (0xe0 + code / 0x1000) (by omega)
    have second := toNat_continuation (code / 0x40)
    have second_fits : maySecond (0xe0 + code / 0x1000).toUInt8 (continuation (code / 0x40)) :=
      maySecond_of_bounds (isContinuation_continuation _) (by omega) (by omega) (by omega)
        (by omega)
    refine ⟨position + 3, (decodeFrom_three (by omega) (by omega) second_fits
      (isContinuation_continuation _) position rest).trans ?_⟩
    rw [first, payload_continuation, payload_continuation]
    congr 1
    omega
  · have first := toNat_toUInt8 (0xf0 + code / 0x40000) (by omega)
    have second := toNat_continuation (code / 0x1000)
    have second_fits : maySecond (0xf0 + code / 0x40000).toUInt8 (continuation (code / 0x1000)) :=
      maySecond_of_bounds (isContinuation_continuation _) (by omega) (by omega) (by omega)
        (by omega)
    refine ⟨position + 4, (decodeFrom_four (by omega) (by omega) second_fits
      (isContinuation_continuation _) (isContinuation_continuation _) position rest).trans ?_⟩
    rw [first, payload_continuation, payload_continuation, payload_continuation]
    congr 1
    omega

theorem decodeFrom_encode (position : Nat) (text : List Char) :
    decodeFrom position (encode text) = .ok text := by
  induction text generalizing position with
  | nil => rfl
  | cons c rest ih =>
      obtain ⟨behind, decoded⟩ := decodeFrom_encodeChar position c (encode rest)
      rw [encode, List.flatMap_cons]
      change decodeFrom position (encodeChar c ++ encode rest) = _
      rw [decoded, ih]
      rfl

/-- Every text is what its bytes hold. -/
theorem decode_encode (text : List Char) : decode (encode text) = .ok text :=
  decodeFrom_encode 0 text

end Utf8
end RobotCity
