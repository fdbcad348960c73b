namespace Highlight.Text

namespace Similarity

def agreement : List Char → List Char → Nat
  | a :: as, b :: bs => if a = b then agreement as bs + 1 else 0
  | _, _ => 0

theorem agreement_le_left (as bs : List Char) : agreement as bs ≤ as.length := by
  fun_induction agreement as bs <;> simp_all

structure Block where
  left : Nat := 0
  right : Nat := 0
  size : Nat := 0
  deriving DecidableEq, Repr

def blocks (as bs : List Char) : List Block :=
  (List.range as.length).flatMap fun i =>
    (List.range bs.length).map fun j => ⟨i, j, agreement (as.drop i) (bs.drop j)⟩

theorem fits_of_mem_blocks {as bs : List Char} {b : Block} (h : b ∈ blocks as bs) :
    b.left + b.size ≤ as.length := by
  simp only [blocks, List.mem_flatMap, List.mem_range, List.mem_map] at h
  obtain ⟨i, hi, j, _, rfl⟩ := h
  have := agreement_le_left (as.drop i) (bs.drop j)
  simp only [List.length_drop] at this
  simp only
  omega

def Block.longer (a b : Block) : Block :=
  if a.size < b.size then b else a

-- The longest common block; of several the first in the left text, then in the right one.
def longest (as bs : List Char) : Block :=
  (blocks as bs).foldl Block.longer {}

theorem longest_fits (as bs : List Char) :
    (longest as bs).left + (longest as bs).size ≤ as.length := by
  suffices ∀ (l : List Block) (start : Block), start.left + start.size ≤ as.length →
      (∀ b ∈ l, b.left + b.size ≤ as.length) →
      (l.foldl Block.longer start).left + (l.foldl Block.longer start).size ≤ as.length from
    this _ _ (Nat.zero_le _) fun _ => fits_of_mem_blocks
  intro l
  induction l with
  | nil => intro start hs _; exact hs
  | cons b l ih =>
    intro start hs hl
    simp only [List.mem_cons, forall_eq_or_imp] at hl
    refine ih (start.longer b) ?_ hl.2
    unfold Block.longer
    split
    · exact hl.1
    · exact hs

-- How many characters two texts share, block by block.
def shared (as bs : List Char) : Nat :=
  if 0 < (longest as bs).size then
    let b := longest as bs
    b.size + shared (as.take b.left) (bs.take b.right) +
      shared (as.drop (b.left + b.size)) (bs.drop (b.right + b.size))
  else 0
termination_by as.length
decreasing_by
  all_goals
    have := longest_fits as bs
    simp only [List.length_take, List.length_drop]
    omega

structure Likeness where
  word : String
  common : Nat
  total : Nat

namespace Likeness

def of (written word : String) : Likeness :=
  ⟨word, shared word.toList written.toList, word.length + written.length⟩

-- Whether the words are alike: of all characters of both, at least six in ten stand in shared
-- blocks.
def isClose (l : Likeness) : Bool :=
  3 * l.total ≤ 10 * l.common

-- The closer word first; of equally close words the later one in the alphabet.
def before (a b : Likeness) : Bool :=
  if a.common * b.total = b.common * a.total then b.word ≤ a.word
  else b.common * a.total < a.common * b.total

end Likeness

end Similarity

-- The known words closest to a written one, in alphabetical order; no more than three.
def suggestions (written : String) (known : List String) : List String :=
  let close := (known.map (Similarity.Likeness.of written)).filter (·.isClose)
  (((close.mergeSort Similarity.Likeness.before).take 3).map (·.word)).mergeSort (· ≤ ·)

end Highlight.Text
