import Mathlib.Data.Nat.Digits.Defs
import Mathlib.Tactic.Ring

/-!
# Packed decimal numbers

A byte of a packed decimal has two digits, the lower one in its lower half, and
is so a digit to the base 100. A list of such bytes, the least first, is the
number `decimalValue` says; `packDecimal` cuts a number into as many bytes as it
is asked for.

Every list of valid bytes is what its own value packs into
(`packDecimal_decimalValue`), and the value is zero only when every byte is.
-/

namespace Seven.Lib

/-- Both halves of a byte are decimal digits. -/
def DecimalPair (b : BitVec 8) : Prop := b.toNat % 16 < 10 ∧ b.toNat / 16 < 10

instance (b : BitVec 8) : Decidable (DecimalPair b) := by
  unfold DecimalPair
  infer_instance

/-- The number of a byte. -/
def pairValue (b : BitVec 8) : Nat := b.toNat / 16 * 10 + b.toNat % 16

/-- The byte of the two lowest digits. -/
def packPair (v : Nat) : BitVec 8 := BitVec.ofNat 8 (v / 10 % 10 * 16 + v % 10)

/-- The number the pairs stand for, low pair first. -/
def decimalValue (bytes : List (BitVec 8)) : Nat := Nat.ofDigits 100 (bytes.map pairValue)

/-- `n` pairs of a number. -/
def packDecimal : Nat → Nat → List (BitVec 8)
  | 0, _ => []
  | n + 1, v => packPair v :: packDecimal n (v / 100)

/-- No pairs. -/
theorem decimalValue_nil : decimalValue [] = 0 := rfl

/-- A pair more, at the low end. -/
theorem decimalValue_cons (b : BitVec 8) (bytes : List (BitVec 8)) :
    decimalValue (b :: bytes) = pairValue b + 100 * decimalValue bytes := by
  unfold decimalValue
  rw [List.map_cons, Nat.ofDigits_cons]

/-- A pair is below a hundred. -/
theorem pairValue_lt {b : BitVec 8} (h : DecimalPair b) : pairValue b < 100 := by
  obtain ⟨hlow, hhigh⟩ := h
  unfold pairValue
  omega

/-- Only the zero byte is zero. -/
theorem pairValue_eq_zero {b : BitVec 8} (h : pairValue b = 0) : b = 0#8 := by
  unfold pairValue at h
  apply BitVec.eq_of_toNat_eq
  show b.toNat = 0
  omega

/-- A valid byte is read off the two lowest digits. -/
theorem packPair_pairValue {b : BitVec 8} (h : DecimalPair b) (k : Nat) :
    packPair (pairValue b + 100 * k) = b := by
  obtain ⟨hlow, hhigh⟩ := h
  have hdigits : (pairValue b + 100 * k) / 10 % 10 * 16 + (pairValue b + 100 * k) % 10 =
      b.toNat := by
    unfold pairValue
    omega
  unfold packPair
  rw [hdigits, BitVec.ofNat_toNat, BitVec.setWidth_eq]

/-- Read and packed again. -/
theorem packDecimal_decimalValue {bytes : List (BitVec 8)} (h : ∀ b ∈ bytes, DecimalPair b) :
    packDecimal bytes.length (decimalValue bytes) = bytes := by
  induction bytes with
  | nil => rfl
  | cons b bytes ih =>
    have hb := h b List.mem_cons_self
    have hlt := pairValue_lt hb
    have hrest : (pairValue b + 100 * decimalValue bytes) / 100 = decimalValue bytes := by omega
    rw [decimalValue_cons, List.length_cons]
    unfold packDecimal
    rw [packPair_pairValue hb, hrest, ih fun c hc => h c (List.mem_cons_of_mem _ hc)]

/-- `n` pairs bound the number. -/
theorem decimalValue_lt {bytes : List (BitVec 8)} (h : ∀ b ∈ bytes, DecimalPair b) :
    decimalValue bytes < 100 ^ bytes.length := by
  have hlt : ∀ d ∈ bytes.map pairValue, d < 100 := by
    intro d hd
    obtain ⟨b, hb, rfl⟩ := List.mem_map.mp hd
    exact pairValue_lt (h b hb)
  have hvalue := Nat.ofDigits_lt_base_pow_length (by decide) hlt
  rw [List.length_map] at hvalue
  exact hvalue

/-- The number is zero when every byte is. -/
theorem decimalValue_eq_zero {bytes : List (BitVec 8)} :
    decimalValue bytes = 0 ↔ ∀ b ∈ bytes, b = 0#8 := by
  induction bytes with
  | nil => exact iff_of_true rfl fun b hb => absurd hb List.not_mem_nil
  | cons b bytes ih =>
    rw [decimalValue_cons, List.forall_mem_cons, ← ih]
    constructor
    · intro h
      exact ⟨pairValue_eq_zero (by omega), by omega⟩
    · rintro ⟨rfl, hrest⟩
      rw [hrest]
      rfl

end Seven.Lib
