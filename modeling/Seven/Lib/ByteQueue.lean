import Mathlib.Data.Fin.Tuple.Basic
import Mathlib.Data.Nat.ModEq

/-!
# Writing to and reading from a byte queue

A hand-written serializer appends the bytes of one field after the other; the
matching deserializer reads the same fields off the front of the queue. A
`Reader` takes bytes from the front or fails when there are too few.

`Reads r bs a` says that the reader `r` turns the bytes `bs` into `a` and
leaves what follows them alone. Readers in sequence read concatenated bytes
(`Reads.bind`), so a round trip is proved field by field, along the reader.
-/

namespace Seven.Lib

/-- Takes bytes from the front of the queue. -/
abbrev Reader (α : Type) := StateT (List (BitVec 8)) Option α

/-- The reader turns these bytes into this value, whatever follows. -/
def Reads {α : Type} (r : Reader α) (bs : List (BitVec 8)) (a : α) : Prop :=
  ∀ rest, r (bs ++ rest) = some (a, rest)

/-- Nothing read. -/
theorem Reads.pure {α : Type} (a : α) : Reads (Pure.pure a) [] a := fun _ => rfl

/-- One after the other. -/
theorem Reads.bind {α β : Type} {r : Reader α} {f : α → Reader β} {bs cs : List (BitVec 8)} {a : α}
    {b : β} (h : Reads r bs a) (h' : Reads (f a) cs b) : Reads (r >>= f) (bs ++ cs) b := by
  intro rest
  show (r (bs ++ cs ++ rest) >>= fun p => f p.1 p.2) = some (b, rest)
  rw [List.append_assoc, h]
  exact h' rest

/-- The last field of a sequence. -/
theorem Reads.bind_pure {α β : Type} {r : Reader α} {f : α → β} {bs : List (BitVec 8)} {a : α}
    (h : Reads r bs a) : Reads (r >>= fun x => Pure.pure (f x)) bs (f a) := by
  intro rest
  show (r (bs ++ rest) >>= fun p => some (f p.1, p.2)) = some (f a, rest)
  rw [h]
  rfl

/-- A whole queue, read to its end. -/
theorem Reads.run {α : Type} {r : Reader α} {bs : List (BitVec 8)} {a : α} (h : Reads r bs a) :
    r bs = some (a, []) := by
  have hrun := h []
  rw [List.append_nil] at hrun
  exact hrun

/-- Bytes are read as one value. -/
theorem Reads.unique {α : Type} {r : Reader α} {bs : List (BitVec 8)} {a b : α} (h : Reads r bs a)
    (h' : Reads r bs b) : a = b := by
  have hboth := (h []).symm.trans (h' [])
  exact congrArg Prod.fst (Option.some.inj hboth)

/-! ## Words -/

/-- The little-endian bytes of a number. -/
def toLE : Nat → Nat → List (BitVec 8)
  | 0, _ => []
  | n + 1, v => BitVec.ofNat 8 v :: toLE n (v / 256)

/-- The number with these little-endian bytes. -/
def ofLE : List (BitVec 8) → Nat
  | [] => 0
  | b :: bs => b.toNat + 256 * ofLE bs

/-- As many bytes as asked for. -/
theorem length_toLE (n v : Nat) : (toLE n v).length = n := by
  induction n generalizing v with
  | zero => rfl
  | succ n ih => exact congrArg Nat.succ (ih (v / 256))

/-- Written and read back, up to the bytes there are. -/
theorem ofLE_toLE (n v : Nat) : ofLE (toLE n v) = v % 256 ^ n := by
  induction n generalizing v with
  | zero => exact (Nat.mod_one v).symm
  | succ n ih =>
    show (BitVec.ofNat 8 v).toNat + 256 * ofLE (toLE n (v / 256)) = v % 256 ^ (n + 1)
    have hbyte : (BitVec.ofNat 8 v).toNat = v % 256 := BitVec.toNat_ofNat v 8
    rw [ih, hbyte, Nat.pow_succ']
    exact Nat.mod_mul.symm

/-- Read and written back. -/
theorem toLE_ofLE (bs : List (BitVec 8)) : toLE bs.length (ofLE bs) = bs := by
  induction bs with
  | nil => rfl
  | cons b bs ih =>
    have hb := b.isLt
    show BitVec.ofNat 8 (b.toNat + 256 * ofLE bs) ::
      toLE bs.length ((b.toNat + 256 * ofLE bs) / 256) = b :: bs
    have hbyte : BitVec.ofNat 8 (b.toNat + 256 * ofLE bs) = b := by
      apply BitVec.eq_of_toNat_eq
      rw [BitVec.toNat_ofNat]
      omega
    rw [hbyte, show (b.toNat + 256 * ofLE bs) / 256 = ofLE bs by omega, ih]

/-- The bytes bound the number. -/
theorem ofLE_lt (bs : List (BitVec 8)) : ofLE bs < 256 ^ bs.length := by
  induction bs with
  | nil => exact Nat.one_pos
  | cons b bs ih =>
    have hb := b.isLt
    show b.toNat + 256 * ofLE bs < 256 ^ (bs.length + 1)
    rw [Nat.pow_succ']
    omega

/-- Zero bytes at the top do not count. -/
theorem ofLE_append_zeros (bs : List (BitVec 8)) (n : Nat) :
    ofLE (bs ++ List.replicate n 0#8) = ofLE bs := by
  induction bs with
  | nil =>
    induction n with
    | zero => rfl
    | succ n ih =>
      show 0 + 256 * ofLE (List.replicate n 0#8) = 0
      rw [show ofLE (List.replicate n 0#8) = 0 from ih]
  | cons b bs ih =>
    show b.toNat + 256 * ofLE (bs ++ List.replicate n 0#8) = b.toNat + 256 * ofLE bs
    rw [ih]

/-- Only the bytes that are written count. -/
theorem toLE_mod (n v : Nat) : toLE n (v % 256 ^ n) = toLE n v := by
  have hbytes := toLE_ofLE (toLE n v)
  rw [length_toLE, ofLE_toLE] at hbytes
  exact hbytes

/-- The first bytes are those of fewer bytes. -/
theorem take_toLE {k n : Nat} (h : k ≤ n) (v : Nat) : (toLE n v).take k = toLE k v := by
  induction k generalizing n v with
  | zero => rfl
  | succ k ih =>
    obtain ⟨n, rfl⟩ : ∃ m, n = m + 1 := ⟨n - 1, by omega⟩
    show BitVec.ofNat 8 v :: (toLE n (v / 256)).take k = BitVec.ofNat 8 v :: toLE k (v / 256)
    rw [ih (by omega)]

/-- The first `n` bytes of a number, zeros after those it was read from. -/
theorem toLE_ofLE_pad (n : Nat) (bs : List (BitVec 8)) :
    toLE n (ofLE bs) = bs.take n ++ List.replicate (n - bs.length) 0#8 := by
  have hbytes := toLE_ofLE (bs ++ List.replicate (n - bs.length) 0#8)
  rw [ofLE_append_zeros, List.length_append, List.length_replicate] at hbytes
  rw [← take_toLE (by omega : n ≤ bs.length + (n - bs.length)), hbytes, List.take_append,
    List.take_replicate, Nat.min_self]

/-- The first `n` bytes. -/
def readBytes (n : Nat) : Reader (List (BitVec 8)) := fun queue =>
  if n ≤ queue.length then some (queue.take n, queue.drop n) else none

/-- Raw bytes. -/
theorem readBytes_reads (bs : List (BitVec 8)) : Reads (readBytes bs.length) bs bs := by
  intro rest
  unfold readBytes
  rw [if_pos (by rw [List.length_append]; omega), List.take_left, List.drop_left]

/-- A word of `w` bits, as it lies in memory. -/
def writeWord {w : Nat} (v : BitVec w) : List (BitVec 8) := toLE (w / 8) v.toNat

/-- A word of `w` bits, low byte first. -/
def readWord (w : Nat) : Reader (BitVec w) := do
  let bs ← readBytes (w / 8)
  pure (BitVec.ofNat w (ofLE bs))

/-- **A word of whole bytes round trips.** -/
theorem readWord_reads {w : Nat} (hw : 8 ∣ w) (v : BitVec w) :
    Reads (readWord w) (writeWord v) v := by
  have hbytes : Reads (readBytes (w / 8)) (writeWord v) (writeWord v) := by
    have hlen : (writeWord v).length = w / 8 := length_toLE _ _
    rw [← hlen]
    exact readBytes_reads _
  have hvalue : BitVec.ofNat w (ofLE (writeWord v)) = v := by
    have hpow : 256 ^ (w / 8) = 2 ^ w := by
      rw [show 256 = 2 ^ 8 from rfl, ← Nat.pow_mul, Nat.mul_div_cancel' hw]
    apply BitVec.eq_of_toNat_eq
    rw [BitVec.toNat_ofNat, writeWord, ofLE_toLE, hpow, Nat.mod_mod, Nat.mod_eq_of_lt v.isLt]
  have hread := @Reads.bind_pure _ _ _ (fun bs => BitVec.ofNat w (ofLE bs)) _ _ hbytes
  rw [hvalue] at hread
  exact hread

/-! ## Arrays and lists -/

/-- `for (auto& v : array) write(v)`. -/
def writeArray {α : Type} {n : Nat} (write : α → List (BitVec 8)) (values : Fin n → α) :
    List (BitVec 8) :=
  (List.ofFn values).flatMap write

/-- `for (auto& v : array) read(v)`. -/
def readArray {α : Type} (read : Reader α) : (n : Nat) → Reader (Fin n → α)
  | 0 => pure Fin.elim0
  | n + 1 => do
    let v ← read
    let values ← readArray read n
    pure (Fin.cons v values)

/-- An array, its elements one after the other. -/
theorem readArray_reads {α : Type} {read : Reader α} {write : α → List (BitVec 8)}
    (h : ∀ v, Reads read (write v) v) {n : Nat} (values : Fin n → α) :
    Reads (readArray read n) (writeArray write values) values := by
  induction n with
  | zero =>
    have hempty : values = Fin.elim0 := funext fun i => i.elim0
    rw [hempty]
    exact Reads.pure _
  | succ n ih =>
    have hsplit : writeArray write values =
        write (values 0) ++ writeArray write (Fin.tail values) := by
      unfold writeArray
      rw [List.ofFn_succ, List.flatMap_cons]
      rfl
    have hcons : values = Fin.cons (values 0) (Fin.tail values) := (Fin.cons_self_tail values).symm
    rw [hsplit]
    nth_rewrite 3 [hcons]
    exact (h (values 0)).bind (ih (Fin.tail values)).bind_pure

/-- The loop `for (i = 0; i < count; ++i)` around a read. -/
def readMany {α : Type} (read : Reader α) : Nat → Reader (List α)
  | 0 => pure []
  | n + 1 => do
    let v ← read
    let values ← readMany read n
    pure (v :: values)

/-- A list of elements. -/
theorem readMany_reads {α : Type} {read : Reader α} {write : α → List (BitVec 8)} (values : List α)
    (h : ∀ v ∈ values, Reads read (write v) v) :
    Reads (readMany read values.length) (values.flatMap write) values := by
  induction values with
  | nil => exact Reads.pure _
  | cons v values ih =>
    rw [List.flatMap_cons]
    have htail := ih fun x hx => h x (List.mem_cons_of_mem v hx)
    exact (h v List.mem_cons_self).bind htail.bind_pure

/-! ## What a reader can yield -/

/-- Every value the reader yields has the property, whatever the bytes. -/
def Yields {α : Type} (r : Reader α) (P : α → Prop) : Prop :=
  ∀ bs a rest, r bs = some (a, rest) → P a

/-- A reader yields something. -/
theorem Yields.any {α : Type} (r : Reader α) : Yields r fun _ => True := fun _ _ _ _ => trivial

/-- Nothing read, `a` yielded. -/
theorem Yields.pure {α : Type} {P : α → Prop} {a : α} (h : P a) : Yields (Pure.pure a) P := by
  intro bs b rest hb
  cases hb
  exact h

/-- One after the other. -/
theorem Yields.bind {α β : Type} {r : Reader α} {f : α → Reader β} {P : α → Prop} {Q : β → Prop}
    (h : Yields r P) (h' : ∀ a, P a → Yields (f a) Q) : Yields (r >>= f) Q := by
  intro bs b rest hb
  obtain ⟨⟨a, mid⟩, ha, hf⟩ := Option.bind_eq_some_iff.mp hb
  exact h' a (h bs a mid ha) mid b rest hf

/-- Every element of a list. -/
theorem Yields.readMany {α : Type} {read : Reader α} {P : α → Prop} (h : Yields read P) (n : Nat) :
    Yields (readMany read n) fun values => ∀ v ∈ values, P v := by
  induction n with
  | zero => exact Yields.pure fun v hv => absurd hv List.not_mem_nil
  | succ n ih =>
    refine h.bind fun v hv => ih.bind fun values hvalues => Yields.pure ?_
    intro x hx
    rcases List.mem_cons.mp hx with rfl | hx
    · exact hv
    · exact hvalues x hx

end Seven.Lib
