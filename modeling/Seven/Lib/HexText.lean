import Mathlib.Algebra.Ring.Nat
import Mathlib.Tactic.Common

/-!
# Bytes as hexadecimal text

A text is a list of character codes. `HexText` are the texts of whole bytes,
two digits for each, and `denotedBytes` what they say; `hexText_renderHex`
and `denotedBytes_renderHex` are the way back from a rendering.

`fromChars16` is the number parser of the C++ library at base 16. It takes the
longest prefix that has digits only and does not mind what comes after it, so
on a pair of characters it is right exactly when both are digits
(`fromChars16_pair`) and silent when only the second is not
(`fromChars16_first`).
-/

namespace Seven.Lib

variable {α : Type}

/-! ## Digits -/

/-- The value of a hexadecimal digit, of either case. -/
def hexValue (c : BitVec 8) : Option Nat :=
  let n := c.toNat
  if 48 ≤ n ∧ n ≤ 57 then some (n - 48)
  else if 97 ≤ n ∧ n ≤ 102 then some (n - 87)
  else if 65 ≤ n ∧ n ≤ 70 then some (n - 55)
  else none

/-- `c` is a hex digit. -/
def IsHexDigit (c : BitVec 8) : Prop := (hexValue c).isSome = true

instance (c : BitVec 8) : Decidable (IsHexDigit c) := inferInstanceAs (Decidable (_ = true))

/-- Its value, zero where it has none. -/
def hexDigitValue (c : BitVec 8) : Nat := (hexValue c).getD 0

/-- The character of a digit. -/
def renderDigit (upper : Bool) (d : Nat) : BitVec 8 :=
  if d < 10 then BitVec.ofNat 8 (48 + d)
  else if upper then BitVec.ofNat 8 (55 + d)
  else BitVec.ofNat 8 (87 + d)

/-- A digit has its value. -/
theorem hexValue_eq {c : BitVec 8} (h : IsHexDigit c) : hexValue c = some (hexDigitValue c) := by
  obtain ⟨d, hd⟩ := Option.isSome_iff_exists.mp h
  unfold hexDigitValue
  rw [hd]
  rfl

/-- Another character has none. -/
theorem hexValue_eq_none {c : BitVec 8} (h : ¬ IsHexDigit c) : hexValue c = none :=
  Option.not_isSome_iff_eq_none.mp h

/-- A digit is below sixteen. -/
theorem hexDigitValue_lt (c : BitVec 8) : hexDigitValue c < 16 := by
  unfold hexDigitValue hexValue
  dsimp only
  split
  next => show c.toNat - 48 < 16; omega
  next =>
    split
    next => show c.toNat - 87 < 16; omega
    next =>
      split
      next => show c.toNat - 55 < 16; omega
      next => decide

/-- Rendering a digit and reading it back, in either case. -/
theorem hexValue_renderDigit (upper : Bool) {d : Nat} (hd : d < 16) :
    hexValue (renderDigit upper d) = some d := by
  have hall : ∀ upper : Bool, ∀ d < 16, hexValue (renderDigit upper d) = some d := by decide
  exact hall upper d hd

/-! ## Pairs of characters -/

/-- The neighbours of a list, two by two. -/
def pairsOf : List α → List (α × α)
  | a :: b :: rest => (a, b) :: pairsOf rest
  | _ => []

/-- The pairs of a list of even length have all its members. -/
theorem forall_mem_pairsOf {q : α → Prop} (l : List α) (heven : l.length % 2 = 0) :
    (∀ c ∈ l, q c) ↔ ∀ p ∈ pairsOf l, q p.1 ∧ q p.2 := by
  induction l using pairsOf.induct with
  | case1 a b rest ih =>
    have hrest : rest.length % 2 = 0 := by
      rw [List.length_cons, List.length_cons] at heven
      omega
    unfold pairsOf
    rw [List.forall_mem_cons, List.forall_mem_cons, List.forall_mem_cons, ih hrest, and_assoc]
  | case2 l hshort =>
    match l, hshort, heven with
    | [], _, _ => simp [pairsOf]
    | [_], _, heven => exact absurd heven (by simp)
    | a :: b :: rest, hshort, _ => exact absurd rfl (hshort a b rest)

/-- A text of whole bytes: an even number of hexadecimal digits. -/
def HexText (text : List (BitVec 8)) : Prop := text.length % 2 = 0 ∧ ∀ c ∈ text, IsHexDigit c

/-- The byte of two digits. -/
def pairByte (p : BitVec 8 × BitVec 8) : BitVec 8 :=
  BitVec.ofNat 8 (16 * hexDigitValue p.1 + hexDigitValue p.2)

/-- The bytes that a text of whole bytes stands for. -/
def denotedBytes (text : List (BitVec 8)) : List (BitVec 8) := (pairsOf text).map pairByte

/-- The two-digit rendering of a list of bytes. -/
def renderHex (upper : Bool) (bytes : List (BitVec 8)) : List (BitVec 8) :=
  bytes.flatMap fun b => [renderDigit upper (b.toNat / 16), renderDigit upper (b.toNat % 16)]

/-- A byte is two digits. -/
theorem byte_digits_lt (b : BitVec 8) : b.toNat / 16 < 16 ∧ b.toNat % 16 < 16 := by
  have hlt := b.isLt
  omega

/-- The rendering is digits only. -/
theorem mem_renderHex {upper : Bool} {bytes : List (BitVec 8)} {c : BitVec 8}
    (h : c ∈ renderHex upper bytes) : ∃ d < 16, c = renderDigit upper d := by
  unfold renderHex at h
  obtain ⟨b, -, hc⟩ := List.mem_flatMap.mp h
  obtain ⟨hhigh, hlow⟩ := byte_digits_lt b
  rcases List.mem_cons.mp hc with rfl | hc
  · exact ⟨_, hhigh, rfl⟩
  · obtain rfl := List.mem_singleton.mp hc
    exact ⟨_, hlow, rfl⟩

/-- The rendering is hex text. -/
theorem hexText_renderHex (upper : Bool) (bytes : List (BitVec 8)) :
    HexText (renderHex upper bytes) := by
  constructor
  · induction bytes with
    | nil => rfl
    | cons b rest ih =>
      show ([_, _] ++ renderHex upper rest).length % 2 = 0
      rw [List.length_append]
      show (2 + (renderHex upper rest).length) % 2 = 0
      omega
  · intro c hc
    obtain ⟨d, hd, rfl⟩ := mem_renderHex hc
    unfold IsHexDigit
    rw [hexValue_renderDigit upper hd]
    rfl

/-- And denotes the bytes. -/
theorem denotedBytes_renderHex (upper : Bool) (bytes : List (BitVec 8)) :
    denotedBytes (renderHex upper bytes) = bytes := by
  induction bytes with
  | nil => rfl
  | cons b rest ih =>
    obtain ⟨hhigh, hlow⟩ := byte_digits_lt b
    have hbyte : pairByte (renderDigit upper (b.toNat / 16), renderDigit upper (b.toNat % 16)) = b := by
      unfold pairByte hexDigitValue
      rw [hexValue_renderDigit upper hhigh, hexValue_renderDigit upper hlow]
      show BitVec.ofNat 8 (16 * (b.toNat / 16) + b.toNat % 16) = b
      rw [Nat.div_add_mod, BitVec.ofNat_toNat, BitVec.setWidth_eq]
    show pairByte _ :: denotedBytes (renderHex upper rest) = b :: rest
    rw [hbyte, ih]

/-! ## The number parser -/

/-- The two errors of `std::from_chars`. -/
inductive Errc where
  | invalidArgument | resultOutOfRange
deriving DecidableEq, Repr

/-- The digits in front of the first character that is none. -/
def leadingDigits : List (BitVec 8) → List Nat
  | [] => []
  | c :: rest =>
    match hexValue c with
    | some d => d :: leadingDigits rest
    | none => []

/-- `std::from_chars` at base 16 into an unsigned of so many bits. It tells
nothing of where it stopped: no caller here looks at that. -/
def fromChars16 (bits : Nat) (text : List (BitVec 8)) : Except Errc Nat :=
  let digits := leadingDigits text
  let value := digits.foldl (fun n d => 16 * n + d) 0
  if digits = [] then .error .invalidArgument
  else if 2 ^ bits ≤ value then .error .resultOutOfRange
  else .ok value

section

variable {a b : BitVec 8}

/-- A pair of digits. -/
theorem fromChars16_pair {bits : Nat} (hbits : 8 ≤ bits) (ha : IsHexDigit a) (hb : IsHexDigit b) :
    fromChars16 bits [a, b] = .ok (16 * hexDigitValue a + hexDigitValue b) := by
  have hpow : 2 ^ 8 ≤ 2 ^ bits := Nat.pow_le_pow_right (by decide) hbits
  have hlow := hexDigitValue_lt a
  have hhigh := hexDigitValue_lt b
  have hdigits : leadingDigits [a, b] = [hexDigitValue a, hexDigitValue b] := by
    simp only [leadingDigits, hexValue_eq ha, hexValue_eq hb]
  have hvalue : [hexDigitValue a, hexDigitValue b].foldl (fun n d => 16 * n + d) 0 =
      16 * hexDigitValue a + hexDigitValue b := by
    show 16 * (16 * 0 + hexDigitValue a) + hexDigitValue b = _
    omega
  unfold fromChars16
  dsimp only
  rw [hdigits, if_neg (List.cons_ne_nil _ _), hvalue, if_neg (by omega)]

/-- The second character is passed over when it is no digit. -/
theorem fromChars16_first {bits : Nat} (hbits : 8 ≤ bits) (ha : IsHexDigit a) (hb : ¬ IsHexDigit b) :
    fromChars16 bits [a, b] = .ok (hexDigitValue a) := by
  have hpow : 2 ^ 8 ≤ 2 ^ bits := Nat.pow_le_pow_right (by decide) hbits
  have hlow := hexDigitValue_lt a
  have hdigits : leadingDigits [a, b] = [hexDigitValue a] := by
    simp only [leadingDigits, hexValue_eq ha, hexValue_eq_none hb]
  have hvalue : [hexDigitValue a].foldl (fun n d => 16 * n + d) 0 = hexDigitValue a := by
    show 16 * 0 + hexDigitValue a = _
    omega
  unfold fromChars16
  dsimp only
  rw [hdigits, if_neg (List.cons_ne_nil _ _), hvalue, if_neg (by omega)]

/-- A first character that is no digit. -/
theorem fromChars16_invalid (bits : Nat) (ha : ¬ IsHexDigit a) :
    fromChars16 bits [a, b] = .error .invalidArgument := by
  have hdigits : leadingDigits [a, b] = [] := by
    simp only [leadingDigits, hexValue_eq_none ha]
  unfold fromChars16
  rw [hdigits]
  rfl

end

end Seven.Lib
