-- Keys of indexed sequences. A number as a key finds an item among those that a section goes
-- through, counted from the front or from the end, and three names give the count and the ends.
import Mathlib.Data.List.Basic
import Mathlib.Data.List.TakeWhile
import Stencil.Value.Key

namespace Stencil

/-! ## Numerals -/

namespace Text

theorem decimal?_eq {c : Char} (h : c.isDigit = true) : decimal? c = some (c.toNat - 48) := by
  simp only [Char.isDigit, Bool.and_eq_true, decide_eq_true_eq] at h
  have lower : 48 ≤ c.toNat := h.1
  have upper : c.toNat ≤ 57 := h.2
  have below : c.toNat < 48 + 10 := by omega
  simp [decimal?, zeros, lower, below]

theorem ofDigits_eq {cs : List Char} (h : ∀ c ∈ cs, c.isDigit = true) :
    ofDigits cs = Nat.ofDigitChars 10 cs 0 := by
  unfold ofDigits Nat.ofDigitChars
  refine List.foldl_ext _ _ _ fun n c hc => ?_
  rw [decimal?_eq (h c hc)]
  rfl

/-- The numeral of a number spells it. -/
theorem ofDigits_toDigits (n : Nat) : ofDigits (Nat.toDigits 10 n) = n := by
  rw [ofDigits_eq fun c hc => Nat.isDigit_of_mem_toDigits (by decide) (by decide) hc]
  exact Nat.ofDigitChars_ten_toDigits

theorem decimal_of_mem_toDigits {n : Nat} {c : Char} (h : c ∈ Nat.toDigits 10 n) :
    (decimal? c).isSome = true ∧ isDigit c = true ∧ c ≠ '-' := by
  have ascii := Nat.isDigit_of_mem_toDigits (by decide) (by decide) h
  have decimal := decimal?_of_isDigit ascii
  refine ⟨decimal, by rw [isDigit, decimal, Bool.true_or], ?_⟩
  rintro rfl
  cases ascii

/-- Decimal digits are read as the number that they spell, and behind a minus as its opposite. -/
theorem Numeral.read_digits {cs : List Char} (some : cs ≠ []) (short : cs.length ≤ longestNumeral)
    (digits : ∀ c ∈ cs, (decimal? c).isSome = true ∧ isDigit c = true ∧ c ≠ '-') :
    Numeral.read cs = .number (ofDigits cs) ∧
      Numeral.read ('-' :: cs) = .number (-ofDigits cs) := by
  have decimals : cs.takeWhile (fun c => (decimal? c).isSome) = cs :=
    List.takeWhile_eq_self_iff.2 fun c hc => (digits c hc).1
  have all : cs.all isDigit = true := List.all_eq_true.2 fun c hc => (digits c hc).2.1
  obtain ⟨c, rest, rfl⟩ := List.exists_cons_of_ne_nil some
  have front : (c == '-') = false := beq_eq_false_iff_ne.2 (digits c List.mem_cons_self).2.2
  have before : (c :: rest).takeWhile (· == '-') = [] := by simp [front]
  have behind : (c :: rest).dropWhile (· == '-') = c :: rest := by simp [front]
  constructor
  · simp only [Numeral.read, before, behind, all, decimals]
    simpa using short
  · have before' : ('-' :: c :: rest).takeWhile (· == '-') = ['-'] := by simp [front]
    have behind' : ('-' :: c :: rest).dropWhile (· == '-') = c :: rest := by simp [front]
    simp only [Numeral.read, before', behind', all, decimals]
    simpa using short

/-- A number is read back from its numeral. -/
theorem Numeral.read_numeral {i : Int} (short : isWritable i = true) :
    Numeral.read (numeral i).toList = .number i := by
  have digits : ∀ c ∈ Nat.toDigits 10 i.natAbs, _ := fun c hc => decimal_of_mem_toDigits hc
  obtain ⟨plain, behind⟩ :=
    Numeral.read_digits Nat.toDigits_ne_nil (of_decide_eq_true short) digits
  rw [numeral, String.toList_ofList]
  by_cases negative : i < 0
  · have value : -(i.natAbs : Int) = i := by omega
    rw [if_pos negative, List.singleton_append, behind, ofDigits_toDigits, value]
  · have value : (i.natAbs : Int) = i := by omega
    rw [if_neg negative, List.nil_append, plain, ofDigits_toDigits, value]

end Text

/-! ## Going through ranges -/

namespace Value

/-- Whether a number lies before the end of a range, seen in the direction of the step. -/
def Before (stop step number : Int) : Prop :=
  0 < step ∧ number < stop ∨ step < 0 ∧ stop < number

/-- Going from a number on by steps, as long as the end of the range lies ahead. -/
inductive Walks (stop step : Int) : Int → List Value → Prop
  | ended {number : Int} : ¬ Before stop step number → Walks stop step number []
  | next {number : Int} {rest : List Value} : Before stop step number →
    Walks stop step (number + step) rest → Walks stop step number (.int number :: rest)

variable {start stop step : Int}

theorem rangeSize_eq_zero (ended : ¬ Before stop step start) : rangeSize start stop step = 0 := by
  unfold rangeSize Before at *
  split
  · rename_i up
    exact Int.toNat_of_nonpos (Int.le_of_lt_add_one (Int.ediv_lt_of_lt_mul up (by omega)))
  · split
    · rename_i down
      have up : 0 < -step := by omega
      exact Int.toNat_of_nonpos (Int.le_of_lt_add_one (Int.ediv_lt_of_lt_mul up (by omega)))
    · rfl

/-- One step less remains behind a number of the range. -/
theorem rangeSize_succ (before : Before stop step start) :
    rangeSize start stop step = rangeSize (start + step) stop step + 1 := by
  -- The quotient by a positive step, before and after the step.
  have quotient {a d : Int} (positive : 0 < d) (enough : 0 ≤ a) :
      ((a + d) / d).toNat = (a / d).toNat + 1 := by
    rw [Int.add_ediv_of_dvd_right (Int.dvd_refl d), Int.ediv_self (Int.ne_of_gt positive)]
    have := Int.ediv_nonneg enough (Int.le_of_lt positive)
    omega
  rcases before with ⟨up, ahead⟩ | ⟨down, ahead⟩
  · have same : stop - start + step - 1 = (stop - (start + step) + step - 1) + step := by omega
    rw [rangeSize, if_pos up, rangeSize, if_pos up, same, quotient up (by omega)]
  · have up : ¬ 0 < step := by omega
    have same : start - stop - step - 1 = (start + step - stop - step - 1) + -step := by omega
    rw [rangeSize, if_neg up, if_pos down, rangeSize, if_neg up, if_pos down, same,
      quotient (by omega) (by omega)]

theorem rangeItems_cons (before : Before stop step start) :
    rangeItems start stop step = .int start :: rangeItems (start + step) stop step := by
  rw [rangeItems, rangeSize_succ before, List.range_succ_eq_map, List.map_cons, List.map_map,
    rangeItems]
  refine congrArg₂ List.cons (by simp) (List.map_congr_left fun n _ => ?_)
  simp only [Function.comp_apply, Int.natCast_succ, Int.add_mul, Int.one_mul]
  congr 1
  omega

/-- A range holds what going through it by steps comes to. -/
theorem walks_iff {items : List Value} :
    Walks stop step start items ↔ items = rangeItems start stop step := by
  constructor
  · intro walk
    induction walk with
    | ended ended => rw [rangeItems, rangeSize_eq_zero ended, List.range_zero, List.map_nil]
    | next before _ ih => rw [rangeItems_cons before, ih]
  · rintro rfl
    generalize size : rangeSize start stop step = n
    induction n generalizing start with
    | zero =>
      have ended : ¬ Before stop step start := fun before => by
        rw [rangeSize_succ before] at size
        cases size
      rw [rangeItems, size, List.range_zero, List.map_nil]
      exact .ended ended
    | succ n ih =>
      have before : Before stop step start := Classical.byContradiction fun ended => by
        rw [rangeSize_eq_zero ended] at size
        cases size
      rw [rangeItems_cons before]
      rw [rangeSize_succ before] at size
      exact .next before (ih (Nat.succ.inj size))

/-! ## Keys of sequences -/

/-- Sequences whose items are found by number. -/
def isIndexed : Value → Bool
  | .list _ | .tuple _ | .range .. => true
  | .collection traits .. => traits.indexed
  | _ => false

/-- What going through an indexed sequence yields. -/
inductive Yields : Value → List Value → Prop
  | list (items : List Value) : Yields (.list items) items
  | tuple (items : List Value) : Yields (.tuple items) items
  | range {start stop step : Int} {items : List Value} : Walks stop step start items →
    Yields (.range start stop step) items
  | collection {traits : SequenceTraits} (indexed : traits.indexed = true) (items : List Value)
    (attributes : List (String × Value)) : Yields (.collection traits items attributes) items

/-- The keys of a sequence that has these items: they are found by number from the front and from
the end, there is nothing beyond either end, and names give the count and the two ends, if the items
can be counted. -/
structure Numbers (xs : Value) (items : List Value) : Prop where
  count : items.length ≤ longestSequence → xs.lookup "count" = .ok (.int items.length)
  front : ∀ i : Int, Text.isWritable i = true → 0 ≤ i → i < items.length →
    ∃ u, items[i.toNat]? = some u ∧ xs.lookup (Text.numeral i) = .ok u
  back : ∀ i : Int, Text.isWritable i = true → -items.length ≤ i → i < 0 →
    ∃ u, items[(items.length + i).toNat]? = some u ∧ xs.lookup (Text.numeral i) = .ok u
  beyond : ∀ i : Int, Text.isWritable i = true → i < -items.length ∨ items.length ≤ i →
    xs.lookup (Text.numeral i) = .ok .missing
  first : items.length ≤ longestSequence → items ≠ [] → xs.lookup "first" = xs.lookup "0"
  last : items.length ≤ longestSequence → items ≠ [] → xs.lookup "last" = xs.lookup "-1"

variable {xs : Value} {items : List Value}

theorem item?_front {i : Int} (h : 0 ≤ i) : item? items i = items[i.toNat]? := if_pos h

theorem item?_back {i : Int} (least : -items.length ≤ i) (negative : i < 0) :
    item? items i = items[(items.length + i).toNat]? := by
  rw [item?, if_neg (by omega), if_pos (by omega), Int.add_comm]

theorem item?_beyond {i : Int} (beyond : i < -items.length ∨ items.length ≤ i) :
    item? items i = none := by
  unfold item?
  split
  · exact List.getElem?_eq_none (by omega)
  · exact if_neg (by omega)

theorem exists_item? {i : Int} (least : -items.length ≤ i) (most : i < items.length) :
    ∃ u, item? items i = some u := by
  by_cases front : 0 ≤ i
  · have inside : i.toNat < items.length := by omega
    exact ⟨_, (item?_front front).trans (List.getElem?_eq_getElem inside)⟩
  · have inside : (items.length + i).toNat < items.length := by omega
    exact ⟨_, (item?_back least (by omega)).trans (List.getElem?_eq_getElem inside)⟩

/-- An item of a range is computed where that of a list is looked up. -/
theorem rangeItem?_eq (start stop step i : Int) :
    rangeItem? start stop step i = item? (rangeItems start stop step) i := by
  have size : (rangeItems start stop step).length = rangeSize start stop step := by
    simp [rangeItems]
  have found {n : Int} (h : 0 ≤ n) : (rangeItems start stop step)[n.toNat]? =
      if n < rangeSize start stop step then some (.int (start + n * step)) else none := by
    have same : (n.toNat : Int) = n := Int.toNat_of_nonneg h
    split
    · have inside : n.toNat < rangeSize start stop step := by omega
      simp [rangeItems, inside, same]
    · exact List.getElem?_eq_none (by omega)
  unfold rangeItem? item?
  by_cases front : 0 ≤ i
  · simp [front, found]
  · by_cases least : 0 ≤ i + rangeSize start stop step
    · simp [front, least, found, size]
    · simp [front, least, size]

/-- A number as a key finds the item with that number. -/
theorem ofSequence_numeral {size : Nat} {other : Except HostError Value} {i : Int}
    (short : Text.isWritable i = true) :
    ofSequence size (item? items) other (Text.numeral i) =
      .ok ((item? items i).getD .missing) := by
  rw [ofSequence, Text.Numeral.read_numeral short]

/-- A sequence whose keys are looked up among these items is numbered by them. -/
theorem numbers_of_lookup {other : String → Except HostError Value}
    (h : ∀ key, xs.lookup key = ofSequence items.length (item? items) (other key) key) :
    xs.Numbers items := by
  have numeral {i : Int} {o : Option Value} (short : Text.isWritable i = true)
      (found : item? items i = o) : xs.lookup (Text.numeral i) = .ok (o.getD .missing) := by
    rw [h, ofSequence_numeral short, found]
  have name {key : String} {v : Value} (counted : items.length ≤ longestSequence)
      (none : Text.Numeral.read key.toList = .none)
      (named : endKey? items.length (item? items) key = some v) : xs.lookup key = .ok v := by
    rw [h, ofSequence, none]
    simp only [named, if_pos counted]
  have size (some : items ≠ []) : 0 < items.length := List.length_pos_iff.2 some
  constructor
  · exact fun counted => name counted (by decide) rfl
  · intro i short front bound
    have inside : i.toNat < items.length := by omega
    have found := (item?_front front).trans (List.getElem?_eq_getElem inside)
    exact ⟨_, List.getElem?_eq_getElem inside, numeral short found⟩
  · intro i short least negative
    have inside : (items.length + i).toNat < items.length := by omega
    have found := (item?_back least negative).trans (List.getElem?_eq_getElem inside)
    exact ⟨_, List.getElem?_eq_getElem inside, numeral short found⟩
  · intro i short beyond
    exact numeral short (item?_beyond beyond)
  · intro counted some
    have pos := size some
    obtain ⟨u, found⟩ : ∃ u, item? items 0 = .some u := exists_item? (by omega) (by omega)
    have spelled : Text.numeral 0 = "0" := by decide
    rw [name counted (by decide) rfl, ← spelled, numeral (by decide) found, found]
    rfl
  · intro counted some
    have pos := size some
    obtain ⟨u, found⟩ : ∃ u, item? items (-1) = .some u := exists_item? (by omega) (by omega)
    have spelled : Text.numeral (-1) = "-1" := by decide
    rw [name counted (by decide) rfl, ← spelled, numeral (by decide) found, found]
    rfl

/-- The items of an indexed sequence are what going through it yields, and its keys find them. -/
theorem exists_yields (indexed : xs.isIndexed = true) :
    ∃ items, xs.Yields items ∧ xs.items? = some (.fixed items) ∧ xs.Numbers items := by
  cases xs with
  | list items => exact ⟨items, .list items, rfl, numbers_of_lookup fun _ => rfl⟩
  | tuple items => exact ⟨items, .tuple items, rfl, numbers_of_lookup fun _ => rfl⟩
  | range start stop step =>
    have items : rangeItem? start stop step = item? (rangeItems start stop step) :=
      funext (rangeItem?_eq start stop step)
    have looked (key : String) : (Value.range start stop step).lookup key =
        ofSequence (rangeItems start stop step).length (item? (rangeItems start stop step))
          (.ok .missing) key := by
      rw [lookup, items]
      simp [rangeItems]
    exact ⟨_, .range (walks_iff.2 rfl), rfl, numbers_of_lookup looked⟩
  | collection traits items attributes =>
    have numbered : traits.indexed = true := indexed
    refine ⟨items, .collection numbered items attributes, rfl, ?_⟩
    exact numbers_of_lookup fun _ => by rw [lookup, if_pos numbered]
  | _ => cases indexed

end Value

end Stencil
