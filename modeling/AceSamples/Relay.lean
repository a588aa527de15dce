import Mathlib.Data.List.Basic
import Mathlib.Data.List.Perm.Subperm

/-!
# Relays in series

A relay takes bytes in at one end, holds some of them, and gives bytes out at the other end.  How well it does so
is a comparison of what it has given and still holds, in this order, with what it has taken.

* `Grade` — the comparisons that work for relays in series: preorders that respect `++` on both sides.  Equality
  (nothing lost, the order kept), `Sublist` (the order kept) and `Subperm` (nothing invented or duplicated) are
  three of them;
* `Ends`, `Keeps` — a relay as seen from outside, and the comparison;
* `Ends.andThen` — two relays with a first-in first-out wire between them;
* `Keeps.andThen` — **composition rule**: what two relays keep, the two of them in series keep.

Nothing here refers to a particular system.
-/

set_option autoImplicit false

namespace AceSamples.Relay

variable {β : Type*} {R : List β → List β → Prop}

/-! ### Grades of service -/

/-- A comparison of byte sequences that works for relays in series. -/
structure Grade (R : List β → List β → Prop) : Prop where
  refl : ∀ l, R l l
  trans : ∀ {l₁ l₂ l₃}, R l₁ l₂ → R l₂ l₃ → R l₁ l₃
  append_left : ∀ {l₁ l₂} (l), R l₁ l₂ → R (l ++ l₁) (l ++ l₂)
  append_right : ∀ {l₁ l₂} (l), R l₁ l₂ → R (l₁ ++ l) (l₂ ++ l)

/-- Nothing is lost and the order is kept. -/
theorem grade_eq : Grade (fun l₁ l₂ : List β => l₁ = l₂) where
  refl _ := rfl
  trans h h' := h.trans h'
  append_left l h := congrArg (l ++ ·) h
  append_right l h := congrArg (· ++ l) h

/-- The order is kept. -/
theorem grade_sublist : Grade (List.Sublist (α := β)) where
  refl := List.Sublist.refl
  trans h h' := h.trans h'
  append_left l h := h.append_left l
  append_right l h := h.append_right l

/-- Nothing is invented or duplicated. -/
theorem grade_subperm : Grade (List.Subperm (α := β)) where
  refl := List.Subperm.refl
  trans h h' := h.trans h'
  append_left l h := (List.subperm_append_left l).mpr h
  append_right l h := (List.subperm_append_right l).mpr h

/-! ### Relays -/

/-- A relay, as seen from outside. -/
structure Ends (β : Type*) where
  taken : List β
  held : List β
  given : List β

/-- What the relay has given, followed by what it holds, compares with what it has taken. -/
def Keeps (R : List β → List β → Prop) (a : Ends β) : Prop := R (a.given ++ a.held) a.taken

namespace Ends

/-- The end of a series, where bytes come out. -/
def sink (received : List β) : Ends β := ⟨received, [], received⟩

/-- On the wire from `a` to `b` is what `a` has given and `b` has not taken. -/
def wire (a b : Ends β) : List β := a.given.drop b.taken.length

/-- Relay `a`, a wire, and relay `b`. -/
def andThen (a b : Ends β) : Ends β := ⟨a.taken, b.held ++ (wire a b ++ a.held), b.given⟩

end Ends

theorem keeps_sink (hR : Grade R) (received : List β) : Keeps R (.sink received) := by
  show R (received ++ []) received
  rw [List.append_nil]
  exact hR.refl received

/-- What has arrived, followed by what is on the wire, is what has been given. -/
theorem taken_append_wire {a b : Ends β} (h : b.taken <+: a.given) : b.taken ++ a.wire b = a.given := by
  obtain ⟨rest, hrest⟩ := h
  rw [Ends.wire, ← hrest, List.drop_left]

/-- **Composition rule.** -/
theorem Keeps.andThen (hR : Grade R) {a b : Ends β} (ha : Keeps R a) (hb : Keeps R b)
    (hwire : b.taken <+: a.given) : Keeps R (a.andThen b) := by
  show R (b.given ++ (b.held ++ (a.wire b ++ a.held))) a.taken
  have hsecond : R (b.given ++ b.held ++ (a.wire b ++ a.held)) (b.taken ++ (a.wire b ++ a.held)) :=
    hR.append_right _ hb
  rw [← List.append_assoc b.taken, taken_append_wire hwire, List.append_assoc] at hsecond
  exact hR.trans hsecond ha

end AceSamples.Relay
