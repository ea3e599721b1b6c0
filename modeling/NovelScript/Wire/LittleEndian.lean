/-!
# Little-endian numbers

Numbers on the wire stand low byte first. `LittleEndian.read` takes a number from all bytes it is
given and `LittleEndian.write` puts one into a given number of bytes; each undoes the other on
numbers that fit (`read_write`) and on all bytes (`write_read`). What fits is what is below the
number of values that so many bytes have (`capacity`).
-/

set_option autoImplicit false

namespace NovelScript.LittleEndian

/-- The number that bytes spell, low byte first. -/
def read : List UInt8 → Nat
  | [] => 0
  | b :: rest => b.toNat + 256 * read rest

/-- A number in `width` bytes, low byte first; what does not fit is dropped. -/
def write : (width : Nat) → Nat → List UInt8
  | 0, _ => []
  | width + 1, n => UInt8.ofNat n :: write width (n / 256)

/-- How many values a number of bytes has. -/
def capacity : (width : Nat) → Nat
  | 0 => 1
  | width + 1 => 256 * capacity width

@[simp] theorem length_write (width n : Nat) : (write width n).length = width := by
  induction width generalizing n with
  | zero => rfl
  | succ width ih => simp [write, ih]

/-- Reading undoes writing, up to what does not fit. -/
theorem read_write (width n : Nat) : read (write width n) = n % capacity width := by
  induction width generalizing n with
  | zero => simp [read, write, capacity, Nat.mod_one]
  | succ width ih =>
    have low : (UInt8.ofNat n).toNat = n % 256 := by simp
    rw [write, read, ih, low, capacity, Nat.mod_mul]

/-- Writing undoes reading. -/
theorem write_read (bytes : List UInt8) : write bytes.length (read bytes) = bytes := by
  induction bytes with
  | nil => rfl
  | cons b rest ih =>
    have low : b.toNat < 256 := b.toNat_lt
    have high : (b.toNat + 256 * read rest) / 256 = read rest := by omega
    simp only [read, List.length_cons, write, high, ih, List.cons.injEq, and_true]
    apply UInt8.toNat_inj.mp
    simp

/-- The number that bytes spell fits them. -/
theorem read_lt (bytes : List UInt8) : read bytes < capacity bytes.length := by
  induction bytes with
  | nil => decide
  | cons b rest ih =>
    have low : b.toNat < 256 := b.toNat_lt
    simp only [read, List.length_cons, capacity]
    omega

end NovelScript.LittleEndian
