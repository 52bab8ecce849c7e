-- How alike two texts are: how many of their characters are in common blocks. The longest common
-- block counts first, then the blocks on its left and on its right, so that order matters. Of some
-- names, those that are much like a text are what a reader may have meant by it.

namespace Stencil.Text

/-! ## Common blocks -/

/-- A block that two texts have in common: where it begins in either, and how long it is. -/
structure CommonBlock where
  left : Nat
  right : Nat
  size : Nat
  deriving DecidableEq, Repr

/-- How many characters two texts have in common at their beginnings. -/
def commonStart : List Char → List Char → Nat
  | a :: as, b :: bs => if a = b then commonStart as bs + 1 else 0
  | _, _ => 0

theorem commonStart_le_left (as bs : List Char) : commonStart as bs ≤ as.length := by
  fun_induction commonStart as bs with
  | case1 a as bs ih => simpa using ih
  | case2 => simp
  | case3 => simp

theorem commonStart_le_right (as bs : List Char) : commonStart as bs ≤ bs.length := by
  fun_induction commonStart as bs with
  | case1 a as bs ih => simpa using ih
  | case2 => simp
  | case3 => simp

/-- The common block at every pair of places. -/
def commonBlocks (as bs : List Char) : List CommonBlock :=
  (List.range as.length).flatMap fun i =>
    (List.range bs.length).map fun j => ⟨i, j, commonStart (as.drop i) (bs.drop j)⟩

/-- A common block begins in both texts and ends in them. -/
theorem fits_of_mem_commonBlocks {as bs : List Char} {b : CommonBlock}
    (h : b ∈ commonBlocks as bs) :
    b.left < as.length ∧ b.left + b.size ≤ as.length ∧ b.right + b.size ≤ bs.length := by
  simp only [commonBlocks, List.mem_flatMap, List.mem_range, List.mem_map] at h
  obtain ⟨i, hi, j, hj, rfl⟩ := h
  have left := commonStart_le_left (as.drop i) (bs.drop j)
  have right := commonStart_le_right (as.drop i) (bs.drop j)
  simp only [List.length_drop] at left right
  simp only
  omega

/-- The longest of some blocks, and the first one of those that are equally long. -/
def longest? : List CommonBlock → Option CommonBlock
  | [] => none
  | b :: rest =>
    match longest? rest with
    | some c => if b.size < c.size then some c else some b
    | none => some b

theorem mem_of_longest? {l : List CommonBlock} {b : CommonBlock} (h : longest? l = some b) :
    b ∈ l := by
  induction l with
  | nil => simp [longest?] at h
  | cons a rest ih =>
    simp only [longest?] at h
    split at h
    · split at h <;> simp_all
    · simp_all

/-! ## Likeness -/

/-- How many characters two texts have in common: those of the longest common block, and those on
either side of it. -/
def commonCount (as bs : List Char) : Nat :=
  match _ : longest? (commonBlocks as bs) with
  | none => 0
  | some b =>
    if _ : b.size = 0 then 0
    else
      commonCount (as.take b.left) (bs.take b.right) + b.size +
        commonCount (as.drop (b.left + b.size)) (bs.drop (b.right + b.size))
termination_by as.length
decreasing_by
  all_goals
    have fits := fits_of_mem_commonBlocks (mem_of_longest? ‹_ = some b›)
    simp only [List.length_take, List.length_drop]
    omega

/-- No text has more characters in common than it has. -/
theorem commonCount_le (as bs : List Char) :
    commonCount as bs ≤ as.length ∧ commonCount as bs ≤ bs.length := by
  fun_induction commonCount as bs with
  | case1 => simp
  | case2 => simp
  | case3 as bs b h size before after =>
    have fits := fits_of_mem_commonBlocks (mem_of_longest? h)
    simp only [List.length_take, List.length_drop] at before after
    omega

/-- Whether three fifths of the characters of two texts, or more, are in common. Where one of them
is too short for that, nothing is counted. -/
def areAlike (as bs : List Char) : Bool :=
  let total := as.length + bs.length
  3 * total ≤ 10 * min as.length bs.length && 3 * total ≤ 10 * commonCount as bs

/-- The length of the shorter text decides nothing that the count would not. -/
theorem areAlike_iff (as bs : List Char) :
    areAlike as bs = true ↔ 3 * (as.length + bs.length) ≤ 10 * commonCount as bs := by
  have le := commonCount_le as bs
  simp only [areAlike, Bool.and_eq_true, decide_eq_true_eq]
  omega

/-- Whether a name has a larger share of its characters in common with a text than another one has;
with equal shares, whether it comes later in the alphabet. -/
def isLiker (text : List Char) (a b : String) : Bool :=
  let share (name : String) := commonCount name.toList text
  let total (name : String) := name.length + text.length
  share b * total a < share a * total b || (share a * total b = share b * total a && b ≤ a)

/-- The three names that are most like a text, or fewer if fewer are like it, in the order of the
alphabet. -/
def alikeNames (names : List String) (text : String) : List String :=
  let alike := names.filter fun name => areAlike name.toList text.toList
  ((alike.mergeSort (isLiker text.toList)).take 3).mergeSort fun a b => a ≤ b

end Stencil.Text
