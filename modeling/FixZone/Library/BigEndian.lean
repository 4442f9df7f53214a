import Mathlib.Algebra.Order.Ring.Nat
import Mathlib.Algebra.Order.Group.Nat
import Mathlib.Data.Nat.Bitwise

/-!
# Digits of a fixed length, and bit accumulators

The last `len` digits of a number in a base, the first of them first, and the number that a list of
digits continues. A codec that packs digits of one width into digits of another is a pair of these:
it reads the number of its input and writes that number's digits.

Such a codec keeps an accumulator: a digit is shifted in at the bottom, a group of bits is taken
out at the top, and what was taken out is never cleared. An accumulator of `w` bits that wraps
around is then as good as an unbounded one, as long as a group lies within its low `w` bits
(`ofNat_shiftIn`, `toNat_group`).
-/

namespace FixZone.Library.BigEndian

/-! ### Digits and numbers -/

/-- The last `len` digits of `v` in base `b`, the first of them first. -/
def digits (b : ℕ) : ℕ → ℕ → List ℕ
  | 0, _ => []
  | len + 1, v => digits b len (v / b) ++ [v % b]

/-- The number whose digits are those of `v` and then `ds`. -/
def number (b v : ℕ) (ds : List ℕ) : ℕ := ds.foldl (fun v d => v * b + d) v

variable {b : ℕ}

@[simp] theorem digits_zero (v : ℕ) : digits b 0 v = [] := rfl

@[simp] theorem number_nil (v : ℕ) : number b v [] = v := rfl

@[simp] theorem number_cons (v d : ℕ) (ds : List ℕ) :
    number b v (d :: ds) = number b (v * b + d) ds := rfl

theorem number_append_singleton (v : ℕ) (ds : List ℕ) (d : ℕ) :
    number b v (ds ++ [d]) = number b v ds * b + d := by
  simp [number]

/-- The first digits are those of the number without its last ones. -/
theorem digits_add (first last v : ℕ) :
    digits b (first + last) v = digits b first (v / b ^ last) ++ digits b last v := by
  induction last generalizing v with
  | zero => simp
  | succ last ih =>
    have hdiv : v / b / b ^ last = v / b ^ (last + 1) := by
      rw [Nat.div_div_eq_div_mul, pow_succ']
    rw [← Nat.add_assoc, digits, digits, ih, hdiv, List.append_assoc]

/-- The first digit, and the others. -/
theorem digits_succ (len v : ℕ) :
    digits b (len + 1) v = v / b ^ len % b :: digits b len v := by
  rw [Nat.add_comm, digits_add]
  rfl

theorem digits_lt (hb : 0 < b) (len v : ℕ) : ∀ d ∈ digits b len v, d < b := by
  induction len generalizing v with
  | zero => simp
  | succ len ih =>
    intro d hd
    rcases List.mem_append.mp hd with hd | hd
    · exact ih (v / b) d hd
    · obtain rfl := List.mem_singleton.mp hd
      exact Nat.mod_lt v hb

@[simp] theorem length_digits (len v : ℕ) : (digits b len v).length = len := by
  induction len generalizing v with
  | zero => rfl
  | succ len ih => simp [digits, ih]

/-- Without the digits it was continued with, a number is what it was. -/
theorem number_div (v : ℕ) {ds : List ℕ} (hds : ∀ d ∈ ds, d < b) :
    number b v ds / b ^ ds.length = v := by
  induction ds generalizing v with
  | nil => simp
  | cons d ds ih =>
    have hd : d < b := hds d List.mem_cons_self
    have hrest := ih (v * b + d) fun d hd => hds d (List.mem_cons_of_mem _ hd)
    rw [number_cons, List.length_cons, pow_succ, ← Nat.div_div_eq_div_mul, hrest, Nat.mul_comm,
      Nat.mul_add_div (by omega), Nat.div_eq_of_lt hd, Nat.add_zero]

/-- The digits of the number that digits make are those digits. -/
theorem digits_number (v : ℕ) {ds : List ℕ} (hds : ∀ d ∈ ds, d < b) :
    digits b ds.length (number b v ds) = ds := by
  induction ds generalizing v with
  | nil => rfl
  | cons d ds ih =>
    have hd : d < b := hds d List.mem_cons_self
    have hrest : ∀ d ∈ ds, d < b := fun d hd => hds d (List.mem_cons_of_mem _ hd)
    rw [List.length_cons, digits_succ, number_cons, number_div _ hrest, ih _ hrest,
      Nat.mul_add_mod', Nat.mod_eq_of_lt hd]

/-- The number that the digits of `x` make is `x`, up to the digits that were left out. -/
theorem number_digits (len x : ℕ) : number b 0 (digits b len x) = x % b ^ len := by
  induction len generalizing x with
  | zero => simp [Nat.mod_one]
  | succ len ih =>
    rw [digits, number_append_singleton, ih, pow_succ', Nat.mod_mul, Nat.mul_comm, Nat.add_comm]

theorem number_lt (hb : 0 < b) {ds : List ℕ} (hds : ∀ d ∈ ds, d < b) :
    number b 0 ds < b ^ ds.length :=
  (Nat.div_eq_zero_iff_lt (Nat.pow_pos hb)).mp (number_div 0 hds)

/-! ### Accumulators -/

/-- Shifting a digit in at the bottom. -/
theorem shiftIn_eq {m d : ℕ} (v : ℕ) (hd : d < 2 ^ m) : (v <<< m) ||| d = v * 2 ^ m + d := by
  rw [← Nat.shiftLeft_add_eq_or_of_lt hd, Nat.shiftLeft_eq]

/-- Taking a group of `n` bits out, over `k` others. -/
theorem group_eq (n k v : ℕ) : (v >>> k) &&& (2 ^ n - 1) = v / 2 ^ k % 2 ^ n := by
  rw [Nat.and_two_pow_sub_one_eq_mod, Nat.shiftRight_eq_div_pow]

variable {w : ℕ}

/-- The low bits of a number are shifted with the number. -/
theorem ofNat_shiftLeft (m v : ℕ) : BitVec.ofNat w v <<< m = BitVec.ofNat w (v <<< m) := by
  apply BitVec.eq_of_toNat_eq
  rw [BitVec.toNat_shiftLeft, BitVec.toNat_ofNat, BitVec.toNat_ofNat, Nat.shiftLeft_eq,
    Nat.shiftLeft_eq, Nat.mod_mul_mod]

/-- What is shifted into the low bits of a number is shifted into the number. -/
theorem ofNat_shiftIn (m v d : ℕ) :
    (BitVec.ofNat w v <<< m) ||| BitVec.ofNat w d = BitVec.ofNat w ((v <<< m) ||| d) := by
  rw [ofNat_shiftLeft]
  apply BitVec.eq_of_toNat_eq
  rw [BitVec.toNat_or, BitVec.toNat_ofNat, BitVec.toNat_ofNat, BitVec.toNat_ofNat,
    Nat.or_mod_two_pow]

/-- A group within the low bits of a number is that group of the number. -/
theorem toNat_group {n k : ℕ} (v : ℕ) (hw : k + n ≤ w) :
    ((BitVec.ofNat w v >>> k) &&& BitVec.ofNat w (2 ^ n - 1)).toNat =
      (v >>> k) &&& (2 ^ n - 1) := by
  have hmask : (2 ^ n - 1) % 2 ^ w = 2 ^ n - 1 := by
    have : 2 ^ n ≤ 2 ^ w := Nat.pow_le_pow_right (by omega) (by omega)
    exact Nat.mod_eq_of_lt (by have := Nat.two_pow_pos n; omega)
  have hlow : v % 2 ^ w / 2 ^ k % 2 ^ n = v / 2 ^ k % 2 ^ n := by
    obtain ⟨rest, rfl⟩ := Nat.exists_eq_add_of_le hw
    rw [Nat.add_assoc, pow_add, Nat.mod_mul_right_div_self, pow_add, Nat.mod_mul_right_mod]
  rw [BitVec.toNat_and, BitVec.toNat_ushiftRight, BitVec.toNat_ofNat, BitVec.toNat_ofNat, hmask,
    group_eq, group_eq, hlow]

end FixZone.Library.BigEndian
