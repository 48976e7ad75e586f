import Seven.Cpu.State
import Seven.Lib.ByteQueue

/-!
# The x87 scalar

`Float80` is an 80-bit extended number by its bits: the significand in the
low 64, sign and exponent in the 16 above. Its arithmetic is softfloat's and
the C library's, which are not part of the repository: `SoftFloat` names the
functions that are called, and everything above them is defined here.

In memory a scalar is its ten little-endian bytes, so `decodeExt80` undoes
`encodeExt80`.
-/

namespace Seven

open Seven.Lib

/-- An x87 register: sign and exponent in the high 16 bits, the significand in the low 64. -/
abbrev Float80 := BitVec 80

/-- The rounding modes that are asked of softfloat. -/
inductive SoftRounding where
  | minMag
  | min
  | max
deriving DecidableEq

/-- The functions that `Float80` calls elsewhere; floats and doubles are
their bits. -/
structure SoftFloat where
  extF80Eq : Float80 → Float80 → Bool
  extF80Lt : Float80 → Float80 → Bool
  extF80Le : Float80 → Float80 → Bool
  extF80Add : Float80 → Float80 → Float80
  extF80Sub : Float80 → Float80 → Float80
  extF80Mul : Float80 → Float80 → Float80
  extF80Div : Float80 → Float80 → Float80
  extF80Rem : Float80 → Float80 → Float80
  extF80Sqrt : Float80 → Float80
  extF80RoundToInt : Float80 → SoftRounding → Float80
  f64ToExtF80 : BitVec 64 → Float80
  i32ToExtF80 : BitVec 32 → Float80
  i64ToExtF80 : BitVec 64 → Float80
  ui64ToExtF80 : BitVec 64 → Float80
  extF80ToF64 : Float80 → BitVec 64
  extF80ToI64 : Float80 → BitVec 64
  extF80ToUi64 : Float80 → BitVec 64
  /-- The conversions between `float` and `double`. -/
  f32ToF64 : BitVec 32 → BitVec 64
  f64ToF32 : BitVec 64 → BitVec 32
  sin : BitVec 64 → BitVec 64
  cos : BitVec 64 → BitVec 64
  tan : BitVec 64 → BitVec 64
  atan2 : BitVec 64 → BitVec 64 → BitVec 64
  pow : BitVec 64 → BitVec 64 → BitVec 64
  log2 : BitVec 64 → BitVec 64
  ldexp : BitVec 64 → BitVec 32 → BitVec 64
deriving Inhabited

namespace Float80

/-- `signif`. -/
def signif (x : Float80) : BitVec 64 := x.setWidth 64

/-- `signExp`. -/
def signExp (x : Float80) : BitVec 16 := (x >>> 64).setWidth 16

/-- The two halves put together. -/
def make (signExp : BitVec 16) (signif : BitVec 64) : Float80 := signExp ++ signif

/-- Unary minus: the sign bit turned, NaN or not. -/
def neg (x : Float80) : Float80 := make (x.signExp ^^^ 0x8000#16) x.signif

/-- `isnan`. -/
def isnan (x : Float80) : Bool :=
  x.signExp &&& 0x7FFF#16 == 0x7FFF#16 && x.signif != 0x8000000000000000#64

/-- `isinf`. -/
def isinf (x : Float80) : Bool :=
  x.signExp &&& 0x7FFF#16 == 0x7FFF#16 && x.signif == 0x8000000000000000#64

/-- `signbit`. -/
def signbit (x : Float80) : Bool := x.signExp &&& 0x8000#16 != 0#16

/-- `fabs`. -/
def abs (x : Float80) : Float80 := make (x.signExp &&& 0x7FFF#16) x.signif

/-- Positive infinity. -/
def infinity : Float80 := make 0x7FFF#16 0x8000000000000000#64

/-- The default NaN. -/
def quietNaN : Float80 := make 0x7FFF#16 0xC000000000000000#64

/-- `numeric_limits::min`, the smallest normal number. -/
def minNormal : Float80 := make 1#16 0x8000000000000000#64

/-! ### The sign and the rest -/

/-- The significand of the halves. -/
theorem signif_make (signExp : BitVec 16) (signif : BitVec 64) :
    (make signExp signif).signif = signif := BitVec.setWidth_append_eq_right

/-- Sign and exponent of the halves. -/
theorem signExp_make (signExp : BitVec 16) (signif : BitVec 64) :
    (make signExp signif).signExp = signExp := by
  unfold make Float80.signExp
  apply BitVec.eq_of_getLsbD_eq
  intro i hi
  rw [BitVec.getLsbD_setWidth, BitVec.getLsbD_ushiftRight, BitVec.getLsbD_append,
    if_neg (by omega), decide_eq_true hi, Bool.true_and, Nat.add_sub_cancel_left]

/-- A number is its halves. -/
theorem make_parts (x : Float80) : make x.signExp x.signif = x := by
  unfold make Float80.signExp Float80.signif
  apply BitVec.eq_of_getLsbD_eq
  intro i hi
  rw [BitVec.getLsbD_append]
  by_cases hlow : i < 64
  · rw [if_pos hlow, BitVec.getLsbD_setWidth, decide_eq_true hlow, Bool.true_and]
  · rw [if_neg hlow, BitVec.getLsbD_setWidth, BitVec.getLsbD_ushiftRight,
      decide_eq_true (by omega), Bool.true_and, Nat.add_sub_cancel' (by omega)]

/-- Minus is an involution. -/
theorem neg_neg (x : Float80) : x.neg.neg = x := by
  have hsign : x.signExp ^^^ 0x8000#16 ^^^ 0x8000#16 = x.signExp := by
    rw [BitVec.xor_assoc, BitVec.xor_self, BitVec.xor_zero]
  unfold neg
  rw [signExp_make, signif_make, hsign, make_parts]

/-- Minus turns the sign bit. -/
theorem signExp_neg (x : Float80) : x.neg.signExp = x.signExp ^^^ 0x8000#16 :=
  signExp_make _ _

/-- Minus leaves the significand. -/
theorem signif_neg (x : Float80) : x.neg.signif = x.signif := signif_make _ _

/-- A mask of a difference. -/
theorem xor_and_distrib (a b c : BitVec 16) : (a ^^^ b) &&& c = (a &&& c) ^^^ (b &&& c) := by
  apply BitVec.eq_of_toNat_eq
  rw [BitVec.toNat_and, BitVec.toNat_xor, BitVec.toNat_xor, BitVec.toNat_and, BitVec.toNat_and,
    Nat.and_xor_distrib_right]

/-- The exponent does not see the sign. -/
theorem exponent_neg (x : Float80) : x.neg.signExp &&& 0x7FFF#16 = x.signExp &&& 0x7FFF#16 := by
  rw [signExp_neg, xor_and_distrib, show 0x8000#16 &&& 0x7FFF#16 = 0#16 by decide,
    BitVec.xor_zero]

/-- Minus of a NaN is a NaN. -/
theorem isnan_neg (x : Float80) : x.neg.isnan = x.isnan := by
  unfold isnan
  rw [exponent_neg, signif_neg]

/-- The absolute value does not see the sign. -/
theorem abs_neg (x : Float80) : x.neg.abs = x.abs := by
  unfold abs
  rw [exponent_neg, signif_neg]

end Float80

namespace SoftFloat

variable (F : SoftFloat)

/-- The constructor from `int32_t`. -/
def ofInt (i : BitVec 32) : Float80 := F.i32ToExtF80 i

/-- The constructor from `double`. -/
def ofDouble (d : BitVec 64) : Float80 := F.f64ToExtF80 d

/-- The constructor from `float`, through `double`. -/
def ofFloat (f : BitVec 32) : Float80 := F.ofDouble (F.f32ToF64 f)

/-- The conversion to `float`, through `double`. -/
def toFloat (x : Float80) : BitVec 32 := F.f64ToF32 (F.extF80ToF64 x)

/-- `0`, as the constructor makes it. -/
def zero : Float80 := F.ofInt 0#32

/-- `value == 0`. -/
def isZero (x : Float80) : Bool := F.extF80Eq x F.zero

/-- `trunc`. -/
def trunc (x : Float80) : Float80 := F.extF80RoundToInt x .minMag

/-- `floor`. -/
def floor (x : Float80) : Float80 := F.extF80RoundToInt x .min

/-- `ceil`. -/
def ceil (x : Float80) : Float80 := F.extF80RoundToInt x .max

/-- `fmod`: one quotient, truncated. -/
def fmod (a b : Float80) : Float80 :=
  if a.isnan || b.isnan || a.isinf || F.isZero b then Float80.quietNaN
  else F.extF80Sub a (F.extF80Mul (F.trunc (F.extF80Div a b)) b)

/-- A function of doubles, by a round trip. -/
def viaDouble (f : BitVec 64 → BitVec 64) (x : Float80) : Float80 :=
  F.ofDouble (f (F.extF80ToF64 x))

/-- `atan2`, in double precision. -/
def atan2OfDoubles (y x : Float80) : Float80 :=
  F.ofDouble (F.atan2 (F.extF80ToF64 y) (F.extF80ToF64 x))

/-- `pow`, in double precision. -/
def powOfDoubles (base exponent : Float80) : Float80 :=
  F.ofDouble (F.pow (F.extF80ToF64 base) (F.extF80ToF64 exponent))

/-- `ldexp`: through `double` where the exponent allows it. -/
def ldexp80 (x : Float80) (n : BitVec 32) : Float80 :=
  if x.isnan || x.isinf || F.isZero x then x
  else
    let biased := x.signExp &&& 0x7FFF#16
    let viaDouble := F.ofDouble (F.ldexp (F.extF80ToF64 x) n)
    if biased = 0#16 then viaDouble
    else
      let newexp := biased.setWidth 32 + n
      if BitVec.sle 0x7FFF#32 newexp then
        Float80.make ((x.signExp &&& 0x8000#16) ||| 0x7FFF#16) 0x8000000000000000#64
      else if BitVec.sle newexp 0#32 then viaDouble
      else Float80.make ((x.signExp &&& 0x8000#16) ||| newexp.setWidth 16) x.signif

end SoftFloat

/-! ## In memory -/

/-- The ten bytes, in a slot of sixteen. -/
def Float80.encodeExt80 (x : Float80) : List (BitVec 8) := toLE 10 x.toNat ++ List.replicate 6 0#8

/-- The scalar in the first ten bytes. -/
def Float80.decodeExt80 (raw : List (BitVec 8)) : Float80 := BitVec.ofNat 80 (ofLE (raw.take 10))

/-- Ten bytes and six of padding. -/
theorem length_encodeExt80 (x : Float80) : (Float80.encodeExt80 x).length = 16 := by
  unfold Float80.encodeExt80
  rw [List.length_append, length_toLE, List.length_replicate]

/-- Encoding keeps every bit. -/
theorem decodeExt80_encodeExt80 (x : Float80) : Float80.decodeExt80 (Float80.encodeExt80 x) = x := by
  have htake : (Float80.encodeExt80 x).take 10 = toLE 10 x.toNat := by
    unfold Float80.encodeExt80
    rw [List.take_append_of_le_length (by rw [length_toLE]), List.take_of_length_le
      (by rw [length_toLE])]
  unfold Float80.decodeExt80
  rw [htake, ofLE_toLE]
  apply BitVec.eq_of_toNat_eq
  have hlt := x.isLt
  rw [BitVec.toNat_ofNat, Nat.mod_eq_of_lt (by omega : x.toNat < 256 ^ 10), Nat.mod_eq_of_lt hlt]

end Seven
