/-!
# Blocks of eight by eight

A picture is coded in blocks of 8 rows of 8 samples. `Eight` is eight values in order, so that a
block is eight rows of eight and no index can leave it.

* `Block.transpose` exchanges rows and columns;
* `Block.zigzag` lists a block along its diagonals, from the lowest frequencies to the highest.
-/

namespace Nv12Jpeg.Jpeg

/-- Eight values in order. -/
structure Eight (α : Type) where
  (v0 v1 v2 v3 v4 v5 v6 v7 : α)
  deriving DecidableEq, Repr

namespace Eight

variable {α β γ : Type}

/-- The values of a function at 0 to 7. -/
def ofFn (f : Nat → α) : Eight α := ⟨f 0, f 1, f 2, f 3, f 4, f 5, f 6, f 7⟩

/-- The value at an index; an index beyond the last one stands for the last one. -/
def get (e : Eight α) : Nat → α
  | 0 => e.v0
  | 1 => e.v1
  | 2 => e.v2
  | 3 => e.v3
  | 4 => e.v4
  | 5 => e.v5
  | 6 => e.v6
  | _ => e.v7

/-- Applies a function to each value. -/
def map (f : α → β) (e : Eight α) : Eight β :=
  ⟨f e.v0, f e.v1, f e.v2, f e.v3, f e.v4, f e.v5, f e.v6, f e.v7⟩

/-- Joins the values of two eights pairwise. -/
def zipWith (f : α → β → γ) (e : Eight α) (e' : Eight β) : Eight γ :=
  ⟨f e.v0 e'.v0, f e.v1 e'.v1, f e.v2 e'.v2, f e.v3 e'.v3,
   f e.v4 e'.v4, f e.v5 e'.v5, f e.v6 e'.v6, f e.v7 e'.v7⟩

/-- The values as a list. -/
def toList (e : Eight α) : List α := [e.v0, e.v1, e.v2, e.v3, e.v4, e.v5, e.v6, e.v7]

@[simp] theorem length_toList (e : Eight α) : e.toList.length = 8 := rfl

end Eight

/-- Eight rows of eight values. -/
abbrev Block (α : Type) := Eight (Eight α)

namespace Block

variable {α β γ : Type}

/-- The block with a value for each row and column. -/
def ofFn (f : (row column : Nat) → α) : Block α := Eight.ofFn fun row => Eight.ofFn (f row)

/-- Applies a function to each value of a block. -/
def map (f : α → β) (block : Block α) : Block β := Eight.map (Eight.map f) block

/-- Joins the values of two blocks cell by cell. -/
def zipWith (f : α → β → γ) (block : Block α) (other : Block β) : Block γ :=
  Eight.zipWith (Eight.zipWith f) block other

/-- Exchanges rows and columns. -/
def transpose (block : Block α) : Block α :=
  Eight.ofFn fun column => Eight.map (·.get column) block

/-- The cells of the diagonal on which row and column add up to `d`, top row first. -/
def diagonal (d : Nat) : List (Nat × Nat) :=
  (List.range 8).filterMap fun row =>
    if row ≤ d ∧ d - row < 8 then some (row, d - row) else none

/-- The cells in zigzag order: diagonal after diagonal, the even ones from the bottom up. -/
def zigzagOrder : List (Nat × Nat) :=
  (List.range 15).flatMap fun d => if d % 2 = 0 then (diagonal d).reverse else diagonal d

/-- The values of a block in zigzag order. -/
def zigzag (block : Block α) : List α :=
  zigzagOrder.map fun (row, column) => (block.get row).get column

@[simp] theorem length_zigzag (block : Block α) : block.zigzag.length = 64 := by
  simp only [zigzag, List.length_map]
  decide

end Block

end Nv12Jpeg.Jpeg
