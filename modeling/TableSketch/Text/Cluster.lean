import TableSketch.Text.Width

/-!
# Clusters

A cluster is a character together with those that are drawn with it: combining marks,
selectors, and what joiners join to it. A text can be cut between clusters only.
The items of the text may carry more than their characters.
-/

namespace TableSketch.Text

/-- The items of a text that are drawn together, and the cells that they take. -/
structure Cluster (α : Type) where
  items : List α
  cells : Nat

namespace Cluster

variable {α : Type}

/-- Puts items into the last cluster, which comes first in the list; without one they make up a
cluster that takes no cells. -/
def grow (items : List α) (cells : Nat) : List (Cluster α) → List (Cluster α)
  | [] => [⟨items, 0⟩]
  | g :: gs => ⟨g.items ++ items, g.cells + cells⟩ :: gs

/-- The clusters of a text behind those that are `done`, all with the last one first. `last` is the
character that takes cells and can still be changed. -/
def collect (char : α → Char) (last : Option Char) (done : List (Cluster α)) :
    List α → List (Cluster α)
  | [] => done
  | x :: xs =>
    if char x = joiner then
      if done.isEmpty then collect char last (grow [x] 0 done) xs
      else
        match xs with
        | [] => grow [x] 0 done
        | y :: ys => collect char last (grow [x, y] 0 done) ys
    else if char x = emojiSelector then
      if last.any isEmojiSymbol then collect char none (grow [x] 1 done) xs
      else collect char last (grow [x] 0 done) xs
    else if charWidth (char x) = 0 then collect char last (grow [x] 0 done) xs
    else collect char (some (char x)) (⟨[x], charWidth (char x)⟩ :: done) xs

end Cluster

/-- The clusters of a text. -/
def clusters {α : Type} (char : α → Char) (xs : List α) : List (Cluster α) :=
  (Cluster.collect char none [] xs).reverse

end TableSketch.Text
