import Mathlib.Data.List.Basic
import Mathlib.Data.Nat.Notation

/-!
# Fixed-size buffers

A buffer of `size` bytes, such as an array on the stack.  Before anything has been written to it its contents
are arbitrary, and writing fewer than `size` bytes leaves the rest as it was.

* `Buffer.fill` — write to the front of the buffer;
* `Buffer.front` — the bytes that a caller gets who is given the buffer and a length;
* `front_fill_eq_iff` — the front is exactly what has been written only for the length that has been written;
* `flatMap_take_eq_iff` — a concatenation of prefixes is the concatenation of the whole lists only if each
  prefix is whole.
-/

set_option autoImplicit false

namespace AceSamples.ByteBuffer

variable {α β : Type*}

/-- A buffer of `size` bytes. -/
structure Buffer (β : Type*) (size : ℕ) where
  bytes : List β
  full : bytes.length = size

namespace Buffer

variable {size : ℕ}

/-- A buffer that has the same byte everywhere. -/
def replicate (size : ℕ) (b : β) : Buffer β size := ⟨List.replicate size b, List.length_replicate⟩

/-- Write `data` to the front of the buffer. -/
def fill (buffer : Buffer β size) (data : List β) (h : data.length ≤ size) : Buffer β size :=
  ⟨data ++ buffer.bytes.drop data.length, by
    rw [List.length_append, List.length_drop, buffer.full]
    omega⟩

/-- The first `n` bytes. -/
def front (buffer : Buffer β size) (n : ℕ) : List β := buffer.bytes.take n

theorem front_length {n : ℕ} (buffer : Buffer β size) (hn : n ≤ size) : (buffer.front n).length = n := by
  rw [front, List.length_take, buffer.full]
  omega

/-- The whole of the buffer. -/
theorem front_size (buffer : Buffer β size) : buffer.front size = buffer.bytes :=
  List.take_of_length_le (Nat.le_of_eq buffer.full)

/-- Nothing old is read within the length that has been written. -/
theorem front_fill {n : ℕ} (buffer : Buffer β size) {data : List β} (h : data.length ≤ size)
    (hn : n ≤ data.length) : (buffer.fill data h).front n = data.take n := by
  show (data ++ buffer.bytes.drop data.length).take n = data.take n
  exact List.take_append_of_le_length hn

theorem front_fill_eq_iff {n : ℕ} (buffer : Buffer β size) {data : List β} (h : data.length ≤ size)
    (hn : n ≤ size) : (buffer.fill data h).front n = data ↔ n = data.length := by
  constructor
  · intro heq
    rw [← front_length (buffer.fill data h) hn, heq]
  · intro heq
    subst heq
    rw [front_fill buffer h (Nat.le_refl _), List.take_length]

end Buffer

/-! ### Concatenations of prefixes -/

theorem length_flatMap_take_le (f : α → List β) (k : α → ℕ) (xs : List α) :
    (xs.flatMap fun x => (f x).take (k x)).length ≤ (xs.flatMap f).length := by
  induction xs with
  | nil => exact Nat.le_refl _
  | cons x xs ih =>
    rw [List.flatMap_cons, List.flatMap_cons, List.length_append, List.length_append, List.length_take]
    omega

/-- Nothing missing from a prefix is made up for by the ones after it. -/
theorem flatMap_take_eq_iff (f : α → List β) (k : α → ℕ) (xs : List α) :
    (xs.flatMap fun x => (f x).take (k x)) = xs.flatMap f ↔ ∀ x ∈ xs, (f x).length ≤ k x := by
  induction xs with
  | nil => exact iff_of_true rfl (fun x hx => nomatch hx)
  | cons x xs ih =>
    rw [List.flatMap_cons, List.flatMap_cons, List.forall_mem_cons, ← ih]
    constructor
    · intro h
      have hwhole : (f x).length ≤ k x := by
        have hlen := congrArg List.length h
        have hle := length_flatMap_take_le f k xs
        rw [List.length_append, List.length_append, List.length_take] at hlen
        omega
      rw [List.take_of_length_le hwhole] at h
      exact ⟨hwhole, List.append_cancel_left h⟩
    · intro hboth
      obtain ⟨hwhole, h⟩ := hboth
      rw [List.take_of_length_le hwhole, h]

end AceSamples.ByteBuffer
