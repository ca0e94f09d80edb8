/-!
Similarity of words, for suggestions. Two words are compared by the total size of their common
blocks: the longest common block first (the earliest in the first word, then in the second, among
equals), then the blocks to its left and to its right. The ratio of two words is twice that size
over the sum of their lengths, kept here as an exact fraction.
-/

set_option autoImplicit false

namespace ScopedSql.Text

structure Block where
  left : Nat
  right : Nat
  size : Nat

/-- The lengths of the common runs that end at one character `c` of the first word, one for each
character of the second, from the lengths for the character before; only seeds start a run. -/
def runsEndingAt (seed : Char → Bool) (c : Char) : Nat → List Nat → List Char → List Nat
  | _, _, [] => []
  | diagonal, before, d :: ds =>
    (if c = d && seed d then diagonal + 1 else 0) ::
      runsEndingAt seed c (before.headD 0) before.tail ds

/-- The best of the blocks seen so far and the runs that end at one row; `row` and `column` count
the characters up to and including the current ones. -/
def bestInRow (row : Nat) : Block → Nat → List Nat → Block
  | best, _, [] => best
  | best, column, run :: runs =>
    bestInRow row
      (if best.size < run then ⟨row - run, column - run, run⟩ else best) (column + 1) runs

def longestSeeded (seed : Char → Bool) (ys : List Char) :
    Nat → List Nat → Block → List Char → Block
  | _, _, best, [] => best
  | row, before, best, x :: xs =>
    let runs := runsEndingAt seed x 0 before ys
    longestSeeded seed ys (row + 1) runs (bestInRow row best 1 runs) xs

def commonPrefix : List Char → List Char → Nat
  | x :: xs, y :: ys => if x = y then commonPrefix xs ys + 1 else 0
  | _, _ => 0

def longestBlock (seed : Char → Bool) (xs ys : List Char) : Block :=
  let best := longestSeeded seed ys 1 [] ⟨0, 0, 0⟩ xs
  let back := commonPrefix (xs.take best.left).reverse (ys.take best.right).reverse
  let ahead := commonPrefix (xs.drop (best.left + best.size)) (ys.drop (best.right + best.size))
  ⟨best.left - back, best.right - back, best.size + back + ahead⟩

/-- The total size of the common blocks of two words. Every block shortens the first word on
either side of it, so its length bounds the depth. -/
def commonSize (seed : Char → Bool) : Nat → List Char → List Char → Nat
  | 0, _, _ => 0
  | depth + 1, xs, ys =>
    let block := longestBlock seed xs ys
    if block.size = 0 then 0
    else
      block.size + commonSize seed depth (xs.take block.left) (ys.take block.right) +
        commonSize seed depth (xs.drop (block.left + block.size))
          (ys.drop (block.right + block.size))

/-- In a word of 200 characters or more, a character that makes up more than one place and a
hundredth of the word seeds no block. -/
def isSeed (word : List Char) (c : Char) : Bool :=
  word.length < 200 || word.count c ≤ word.length / 100 + 1

/-- How alike two words are, as a fraction: equal empty words are wholly alike. -/
def likeness (option word : List Char) : Nat × Nat :=
  let total := option.length + word.length
  if total = 0 then (1, 1)
  else (2 * commonSize (isSeed word) option.length option word, total)

/-- Descending order of suggestions: the more alike first, then the later word. -/
def suggestionBefore {α : Type} (text : α → String) (x y : (Nat × Nat) × α) : Bool :=
  let left := x.1.1 * y.1.2
  let right := y.1.1 * x.1.2
  right < left || (left == right && text y.2 ≤ text x.2)

/-- At most three of the options, all with a text at least three fifths like the word, best
first. -/
def suggestions {α : Type} (text : α → String) (word : String) (options : List α) : List α :=
  let scored := options.map fun option => (likeness (text option).toList word.toList, option)
  let close := scored.filter fun entry => 3 * entry.1.2 ≤ 5 * entry.1.1
  ((close.mergeSort (suggestionBefore text)).take 3).map (·.2)

end ScopedSql.Text
