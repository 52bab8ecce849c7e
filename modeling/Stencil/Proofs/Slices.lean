-- Slices of a batch. Whatever the size of the slices and whichever of them is finished first, the
-- report has the text of each context in its place, the faults in order, and all of the progress.
import Mathlib.Algebra.GroupWithZero.Nat
import Stencil.Batch
import Stencil.Proofs.Endings
import Stencil.Proofs.Pieces

namespace Stencil

/-! ## Cutting a list -/

section Slices

variable {α : Type} {size : Nat} {l : List α}

theorem slices_nil (size : Nat) : slices size ([] : List α) = [] := by
  cases size <;> simp [slices]

theorem slices_of_ne_nil (hs : 0 < size) (hl : l ≠ []) :
    slices size l =
      (0, l.take size) :: (slices size (l.drop size)).map fun s => (s.1 + size, s.2) := by
  have length := List.length_pos_iff.2 hl
  have count : (l.length + size - 1) / size = ((l.drop size).length + size - 1) / size + 1 := by
    rw [List.length_drop, ← Nat.add_div_right _ hs]
    by_cases h : size ≤ l.length
    · congr 1
      omega
    · rw [Nat.div_eq_of_lt_le (k := 1) (by omega) (by omega),
        Nat.div_eq_of_lt_le (k := 1) (by omega) (by omega)]
  unfold slices
  rw [count, List.range_succ_eq_map, List.map_cons, List.map_map, List.map_map]
  congr 1
  · simp
  · refine List.map_congr_left fun k _ => ?_
    simp only [Function.comp_apply, Nat.succ_eq_add_one, Nat.add_mul, Nat.one_mul, List.drop_drop,
      Nat.add_comm size]

/-- What holds without items and with each slice more holds of every list. -/
theorem slices_induction {P : List α → Prop} (hs : 0 < size) (nil : P [])
    (cons : ∀ l, l ≠ [] → P (l.drop size) → P l) (l : List α) : P l := by
  induction hn : l.length using Nat.strongRecOn generalizing l with
  | _ n ih =>
    by_cases hl : l = []
    · exact hl ▸ nil
    · have length := List.length_pos_iff.2 hl
      exact cons l hl (ih _ (by rw [List.length_drop]; omega) _ rfl)

theorem sum_slices (hs : 0 < size) (l : List α) :
    ((slices size l).map fun s => s.2.length).sum = l.length := by
  induction l using slices_induction hs with
  | nil => rw [slices_nil]; rfl
  | cons l hl ih =>
    rw [slices_of_ne_nil hs hl, List.map_cons, List.map_map, List.sum_cons]
    simp only [Function.comp_def, ih, List.length_take, List.length_drop]
    omega

theorem mem_slices {s : Nat × List α} (h : s ∈ slices size l) :
    s.1 + s.2.length ≤ l.length ∧ s.2 = (l.drop s.1).take size := by
  obtain ⟨k, hk, rfl⟩ := List.mem_map.1 h
  have start : k * size ≤ l.length := by
    have below := List.mem_range.1 hk
    rcases Nat.eq_zero_or_pos size with rfl | hs
    · simp
    · have := (Nat.le_div_iff_mul_le hs).1 below
      rw [Nat.succ_mul] at this
      omega
  refine ⟨?_, rfl⟩
  simp only [List.length_take, List.length_drop]
  omega

theorem exists_slice (hs : 0 < size) {i : Nat} (hi : i < l.length) :
    ∃ s ∈ slices size l, s.1 ≤ i ∧ i < s.1 + s.2.length := by
  have below : i / size < (l.length + size - 1) / size := by
    refine (Nat.le_div_iff_mul_le hs).2 ?_
    have := Nat.div_mul_le_self i size
    rw [Nat.succ_mul]
    omega
  refine ⟨_, List.mem_map.2 ⟨i / size, List.mem_range.2 below, rfl⟩, Nat.div_mul_le_self i size, ?_⟩
  have := Nat.div_add_mod' i size
  have := Nat.mod_lt i hs
  simp only [List.length_take, List.length_drop]
  omega

end Slices

/-- Slices in front of slices, if the first one is full or nothing is behind it. -/
theorem slices_append {α : Type} {size : Nat} {front back : List α} (hs : 0 < size)
    (hf : front ≠ []) (full : front.length = size ∨ front.length ≤ size ∧ back = []) :
    slices size (front ++ back) =
      (0, front) :: (slices size back).map fun s => (s.1 + size, s.2) := by
  rw [slices_of_ne_nil hs (List.append_ne_nil_of_left_ne_nil hf back)]
  rcases full with full | ⟨short, rfl⟩
  · rw [List.take_left' full, List.drop_left' full]
  · rw [List.append_nil, List.take_of_length_le short, List.drop_of_length_le short]

/-! ## Runs by slices -/

namespace Run

variable {σ α β γ : Type}

theorem bind_congr_of_gives {P : α → Prop} {r : Run σ α} {f g : α → Run σ β} (hr : Gives P r)
    (h : ∀ a, P a → f a = g a) : r >>= f = r >>= g := by
  funext w
  rw [bind_apply, bind_apply]
  rcases hw : r w with ⟨a | e | _, w'⟩
  · exact congrFun (h a (hr.done hw)) w'
  · rfl
  · rfl

theorem gives_each_length (f : α → Run σ β) (l : List α) :
    Gives (fun bs => bs.length = l.length) (each f l) := by
  induction l with
  | nil => exact ends_pure rfl
  | cons a rest ih =>
    refine (gives_any (f a)).bind fun b _ => ih.bind fun bs hbs => ends_pure ?_
    simp only [List.length_cons, hbs]

theorem each_cons_of_done {f : α → Run σ β} {a : α} {rest : List α} {w w' : World σ} {b : β}
    (h : f a w = (.done b, w')) :
    each f (a :: rest) w = (do return b :: (← each f rest)) w' := by
  rw [each, bind_apply, h]

theorem each_map (f : β → Run σ γ) (g : α → β) (l : List α) :
    each f (l.map g) = each (fun a => f (g a)) l := by
  induction l with
  | nil => rfl
  | cons a rest ih => simp only [List.map_cons, each, ih]

/-- Going through the items slice by slice is going through all of them. -/
theorem each_slices {size : Nat} (hs : 0 < size) (f : α → Run σ β) (l : List α) :
    each (fun s => do return (s.1, ← each f s.2)) (slices size l) = slices size <$> each f l := by
  induction l using slices_induction hs with
  | nil => simp [each, slices_nil]
  | cons l hl ih =>
    have shifted :
        each (fun s => do return (s.1 + size, ← each f s.2)) (slices size (l.drop size)) =
          List.map (fun s => (s.1 + size, s.2)) <$>
          each (fun s => do return (s.1, ← each f s.2)) (slices size (l.drop size)) := by
      rw [map_each]
      simp
    have whole : each f l = do return (← each f (l.take size)) ++ (← each f (l.drop size)) := by
      rw [← each_append, List.take_append_drop]
    rw [slices_of_ne_nil hs hl, whole]
    simp only [each, each_map, shifted, ih, map_eq_pure_bind, bind_assoc, pure_bind]
    refine bind_congr_of_gives (gives_each_length f _) fun front hfront => ?_
    refine bind_congr_of_gives (gives_each_length f _) fun back hback => ?_
    rw [List.length_take] at hfront
    rw [List.length_drop] at hback
    have length := List.length_pos_iff.2 hl
    rw [slices_append hs (List.length_pos_iff.1 (by omega))]
    by_cases full : size ≤ l.length
    · exact .inl (by omega)
    · exact .inr ⟨by omega, List.length_eq_zero_iff.1 (by omega)⟩

end Run

/-! ## Parts in their places -/

namespace Part

/-- The part holds the entries that stand in its place. -/
structure Of (entries : List Entry) (part : Part) : Prop where
  bound : part.start + part.entries.length ≤ entries.length
  same : ∀ k < part.entries.length, part.entries[k]? = entries[part.start + k]?

/-- The part holds the entry with the number. -/
def Covers (part : Part) (i : Nat) : Prop :=
  part.start ≤ i ∧ i < part.start + part.entries.length

/-- A slice of entries as a part. -/
def ofSlice (s : Nat × List Entry) : Part := ⟨s.1, s.2⟩

variable {entries : List Entry} {size : Nat}

theorem of_slice {s : Nat × List Entry} (h : s ∈ slices size entries) :
    (ofSlice s).Of entries := by
  obtain ⟨bound, cut⟩ := mem_slices h
  refine ⟨bound, fun k hk => ?_⟩
  have short : k < size := by
    have : s.2.length ≤ size := cut ▸ List.length_take_le _ _
    exact Nat.lt_of_lt_of_le hk this
  show s.2[k]? = _
  rw [cut, List.getElem?_take_of_lt short, List.getElem?_drop]
  rfl

theorem length_place {texts : List String} {part : Part}
    (bound : part.start + part.entries.length ≤ texts.length) :
    (place texts part).length = texts.length := by
  simp only [place, List.length_append, List.length_take, List.length_map, List.length_drop]
  omega

theorem getElem?_place_of_covers {texts : List String} {part : Part} {i : Nat}
    (bound : part.start + part.entries.length ≤ texts.length) (h : part.Covers i) :
    (place texts part)[i]? = (part.entries.map Entry.text)[i - part.start]? := by
  obtain ⟨low, high⟩ := h
  have front : (texts.take part.start).length = part.start := by
    rw [List.length_take]
    omega
  rw [place, List.append_assoc, List.getElem?_append_right (by omega), front,
    List.getElem?_append_left (by rw [List.length_map]; omega)]

theorem getElem?_place_of_not_covers {texts : List String} {part : Part} {i : Nat}
    (bound : part.start + part.entries.length ≤ texts.length) (h : ¬ part.Covers i) :
    (place texts part)[i]? = texts[i]? := by
  have front : (texts.take part.start).length = part.start := by
    rw [List.length_take]
    omega
  by_cases low : i < part.start
  · rw [place, List.append_assoc, List.getElem?_append_left (by omega),
      List.getElem?_take_of_lt low]
  · have high : part.start + part.entries.length ≤ i := by
      unfold Covers at h
      omega
    have head : (texts.take part.start ++ part.entries.map Entry.text).length =
        part.start + part.entries.length := by
      rw [List.length_append, front, List.length_map]
    rw [place, List.getElem?_append_right (by omega), head, List.getElem?_drop]
    congr 1
    omega

/-- However many parts are put in their places, and in whatever order: a text stands in its place
at the end if it did so before or if a part holds it. -/
theorem getElem?_foldl_place {parts : List Part} (hparts : ∀ part ∈ parts, part.Of entries)
    {i : Nat} (texts : List String) (length : texts.length = entries.length)
    (h : texts[i]? = (entries.map Entry.text)[i]? ∨ ∃ part ∈ parts, part.Covers i) :
    (parts.foldl place texts)[i]? = (entries.map Entry.text)[i]? := by
  induction parts generalizing texts with
  | nil => exact h.resolve_right (by simp)
  | cons part rest ih =>
    have own := hparts part List.mem_cons_self
    have bound : part.start + part.entries.length ≤ texts.length := length ▸ own.bound
    refine ih (fun q hq => hparts q (List.mem_cons_of_mem _ hq)) _
      ((length_place bound).trans length) ?_
    by_cases covers : part.Covers i
    · refine .inl ?_
      have inside : i - part.start < part.entries.length := by
        unfold Covers at covers
        omega
      have place : part.start + (i - part.start) = i := Nat.add_sub_of_le covers.1
      rw [getElem?_place_of_covers bound covers, List.getElem?_map, List.getElem?_map,
        own.same _ inside, place]
    · rw [getElem?_place_of_not_covers bound covers]
      refine h.imp_right fun ⟨q, hq, found⟩ => ?_
      rcases List.mem_cons.1 hq with rfl | hq
      · exact absurd found covers
      · exact ⟨q, hq, found⟩

theorem length_foldl_place {parts : List Part} (hparts : ∀ part ∈ parts, part.Of entries)
    (texts : List String) (length : texts.length = entries.length) :
    (parts.foldl place texts).length = entries.length := by
  induction parts generalizing texts with
  | nil => exact length
  | cons part rest ih =>
    have own := hparts part List.mem_cons_self
    exact ih (fun q hq => hparts q (List.mem_cons_of_mem _ hq)) _
      ((length_place (length ▸ own.bound)).trans length)

/-- The parts of a batch give the text of each entry, whichever is placed first. -/
theorem foldl_place {parts : List Part} (hs : 0 < size)
    (perm : parts.Perm ((slices size entries).map ofSlice)) :
    parts.foldl place (List.replicate entries.length "") = entries.map Entry.text := by
  have own : ∀ part ∈ parts, part.Of entries := by
    intro part hpart
    obtain ⟨s, hs, rfl⟩ := List.mem_map.1 (perm.subset hpart)
    exact of_slice hs
  refine List.ext_getElem? fun i => ?_
  by_cases hi : i < entries.length
  · obtain ⟨s, found, low, high⟩ := exists_slice hs hi
    refine getElem?_foldl_place own _ List.length_replicate (.inr ⟨ofSlice s, ?_, low, high⟩)
    exact perm.symm.subset (List.mem_map_of_mem found)
  · rw [List.getElem?_eq_none, List.getElem?_eq_none]
    · rw [List.length_map]
      omega
    · rw [length_foldl_place own _ List.length_replicate]
      omega

end Part

/-! ## Faults in order -/

namespace Entry

theorem faultsFrom_append (number : Nat) (front back : List Entry) :
    faultsFrom number (front ++ back) =
      faultsFrom number front ++ faultsFrom (number + front.length) back := by
  induction front generalizing number with
  | nil => rfl
  | cons entry rest ih =>
    have count : number + 1 + rest.length = number + (rest.length + 1) := by omega
    cases entry with
    | ok s => simp only [List.cons_append, faultsFrom, ih, List.length_cons, count]
    | error message => simp only [List.cons_append, faultsFrom, ih, List.length_cons, count]

theorem mem_faultsFrom {number i : Nat} {message : String} {entries : List Entry} :
    (i, message) ∈ faultsFrom number entries ↔
      number ≤ i ∧ entries[i - number]? = some (.error message) := by
  induction entries generalizing number with
  | nil => simp [faultsFrom]
  | cons entry rest ih =>
    rcases Nat.lt_trichotomy i number with low | rfl | high
    · have none : ¬ number + 1 ≤ i := by omega
      have zero : ¬ number ≤ i := by omega
      cases entry with
      | ok s => simp [faultsFrom, ih, none, zero]
      | error m => simp [faultsFrom, ih, none, zero, Nat.ne_of_lt low]
    · have none : ¬ i + 1 ≤ i := by omega
      cases entry with
      | ok s => simp [faultsFrom, ih, none]
      | error m => simp [faultsFrom, ih, none, eq_comm]
    · have next : i - number = i - (number + 1) + 1 := by omega
      have behind : number + 1 ≤ i := high
      have some : number ≤ i := by omega
      cases entry with
      | ok s => simp [faultsFrom, ih, next, behind, some]
      | error m => simp [faultsFrom, ih, next, behind, some, Nat.ne_of_gt high]

theorem pairwise_faultsFrom (number : Nat) (entries : List Entry) :
    (faultsFrom number entries).Pairwise fun a b => a.1 < b.1 := by
  induction entries generalizing number with
  | nil => exact .nil
  | cons entry rest ih =>
    cases entry with
    | ok s => exact ih (number + 1)
    | error message =>
      refine .cons (fun f hf => ?_) (ih (number + 1))
      exact (mem_faultsFrom.1 hf).1

theorem length_faultsFrom_le (number : Nat) (entries : List Entry) :
    (faultsFrom number entries).length ≤ entries.length := by
  induction entries generalizing number with
  | nil => exact Nat.le_refl _
  | cons entry rest ih =>
    cases entry with
    | ok s => exact Nat.le_succ_of_le (ih _)
    | error message => exact Nat.succ_le_succ (ih _)

/-- The faults of the slices, one slice after the other, are those of all entries. -/
theorem flatMap_faultsFrom {size : Nat} (hs : 0 < size) (entries : List Entry) (number : Nat) :
    (slices size entries).flatMap (fun s => faultsFrom (number + s.1) s.2) =
      faultsFrom number entries := by
  induction entries using slices_induction hs generalizing number with
  | nil => simp [slices_nil, faultsFrom]
  | cons entries he ih =>
    have others : (slices size (entries.drop size)).flatMap
        (fun s => faultsFrom (number + (s.1 + size)) s.2) =
          faultsFrom (number + size) (entries.drop size) := by
      rw [← ih]
      congr
      funext s
      congr 1
      omega
    have back : faultsFrom (number + size) (entries.drop size) =
        faultsFrom (number + (entries.take size).length) (entries.drop size) := by
      by_cases full : size ≤ entries.length
      · rw [List.length_take_of_le full]
      · rw [List.drop_of_length_le (by omega)]
        rfl
    rw [slices_of_ne_nil hs he, List.flatMap_cons, List.flatMap_map, others, back]
    show faultsFrom number (entries.take size) ++ _ = _
    rw [← faultsFrom_append, List.take_append_drop]

end Entry

/-- Faults that are sorted by their numbers are in order, whatever order they came in. -/
theorem Entry.mergeSort_faults {faults : List (Nat × String)} {entries : List Entry}
    (perm : faults.Perm (Entry.faultsFrom 0 entries)) :
    (faults.mergeSort fun a b => a.1 ≤ b.1) = Entry.faultsFrom 0 entries := by
  have sorted := Entry.pairwise_faultsFrom 0 entries
  have merged := (List.mergeSort_perm faults fun a b => decide (a.1 ≤ b.1)).trans perm
  have ordered : (faults.mergeSort fun a b => decide (a.1 ≤ b.1)).Pairwise
      fun a b => decide (a.1 ≤ b.1) = true :=
    List.pairwise_mergeSort (fun a b c hab hbc => by simp only [decide_eq_true_eq] at *; omega)
      (fun a b => by simp only [Bool.or_eq_true, decide_eq_true_eq]; omega) faults
  refine merged.eq_of_pairwise (fun a b ha hb hab hba => ?_) ordered
    (sorted.imp fun h => decide_eq_true (Nat.le_of_lt h))
  have number : a.1 = b.1 := Nat.le_antisymm (of_decide_eq_true hab) (of_decide_eq_true hba)
  have first := (Entry.mem_faultsFrom.1 (merged.subset ha)).2
  have second := (Entry.mem_faultsFrom.1 hb).2
  rw [number, second] at first
  exact Prod.ext number (by simpa using first.symm)

/-! ## Reports -/

/-- The report has the text of each entry, the faults in order, and accounts for all entries. -/
structure Report.Accounts (entries : List Entry) (r : Report) : Prop where
  texts : r.texts = entries.map Entry.text
  faults : r.faults = Entry.faultsFrom 0 entries
  counts : r.succeeded + r.faults.length = entries.length
  progress : r.progress.sum = entries.length

namespace Report.Accounts

variable {entries : List Entry} {r : Report} {i : Nat}

theorem mem_faults (h : r.Accounts entries) {message : String} :
    (i, message) ∈ r.faults ↔ entries[i]? = some (.error message) := by
  rw [h.faults, Entry.mem_faultsFrom]
  simp

theorem lt_of_mem_faults (h : r.Accounts entries) {fault : Nat × String}
    (hf : fault ∈ r.faults) : fault.1 < entries.length :=
  (List.getElem?_eq_some_iff.1 (h.mem_faults.1 hf)).1

theorem pairwise_faults (h : r.Accounts entries) : r.faults.Pairwise (fun a b => a.1 < b.1) :=
  h.faults ▸ Entry.pairwise_faultsFrom 0 entries

theorem length_texts (h : r.Accounts entries) : r.texts.length = entries.length := by
  rw [h.texts, List.length_map]

/-- An entry that is a text stands in its place and is no fault. -/
theorem of_text (h : r.Accounts entries) {s : String} (found : entries[i]? = some (.ok s)) :
    r.texts[i]? = some s ∧ ∀ message, (i, message) ∉ r.faults := by
  constructor
  · rw [h.texts, List.getElem?_map, found]
    rfl
  · intro message fault
    cases found.symm.trans (h.mem_faults.1 fault)

/-- An entry that is a fault stands in its place with its message and is reported once. -/
theorem of_error (h : r.Accounts entries) {message : String}
    (found : entries[i]? = some (.error message)) :
    r.texts[i]? = some ("ERROR: " ++ message) ∧ ∀ m, (i, m) ∈ r.faults ↔ m = message := by
  constructor
  · rw [h.texts, List.getElem?_map, found]
    rfl
  · intro m
    rw [h.mem_faults, found]
    simp [eq_comm]

end Report.Accounts

namespace Report

theorem accounts_ofEntries (entries : List Entry) : (ofEntries entries).Accounts entries where
  texts := rfl
  faults := rfl
  counts := Nat.sub_add_cancel (Entry.length_faultsFrom_le 0 entries)
  progress := sum_slices (by decide) entries

/-- Whatever the order in which the slices are finished. -/
theorem accounts_ofParts {size : Nat} (hs : 0 < size) {entries : List Entry} {parts : List Part}
    (perm : parts.Perm ((slices size entries).map Part.ofSlice)) :
    (ofParts entries.length parts).Accounts entries := by
  have found : (parts.flatMap fun part => Entry.faultsFrom part.start part.entries).Perm
      (Entry.faultsFrom 0 entries) := by
    have whole := Entry.flatMap_faultsFrom hs entries 0
    simp only [Nat.zero_add] at whole
    have inOrder := perm.flatMap_right fun part => Entry.faultsFrom part.start part.entries
    rw [List.flatMap_map] at inOrder
    exact whole ▸ inOrder
  have faults : (ofParts entries.length parts).faults = Entry.faultsFrom 0 entries :=
    Entry.mergeSort_faults found
  refine ⟨Part.foldl_place hs perm, faults, ?_, ?_⟩
  · rw [faults]
    show entries.length - List.length _ + _ = _
    rw [found.length_eq]
    exact Nat.sub_add_cancel (Entry.length_faultsFrom_le 0 entries)
  · have sum := (perm.map fun part => part.entries.length).sum_nat
    rw [List.map_map] at sum
    exact sum.trans (sum_slices hs entries)

end Report

/-! ## Batches -/

namespace Batch

/-- The report on the entries of a batch, whose slices finish in the given order. -/
def report (order : List Part → List Part) (b : Batch) (entries : List Entry) : Report :=
  if b.parallel && large ≤ entries.length then
    .ofParts entries.length (order ((Stencil.slices b.size.toNat entries).map Part.ofSlice))
  else .ofEntries entries

theorem accounts_report {order : List Part → List Part} (perm : ∀ parts, (order parts).Perm parts)
    {b : Batch} (hs : 0 < b.size) (entries : List Entry) :
    (b.report order entries).Accounts entries := by
  unfold report
  split
  · exact Report.accounts_ofParts (by omega) (perm _)
  · exact Report.accounts_ofEntries entries

variable {σ : Type}

/-- A batch that is rendered in slices makes the same steps as one that is not. -/
theorem renderSlices_eq {b : Batch} (hw : 0 < b.workers) (hs : 0 < b.size)
    (order : List Part → List Part) (render : Value → Run σ String) (contexts : List Value) :
    b.renderSlices order render contexts = do
      let entries ← Entry.ofContexts render contexts
      return .ofParts contexts.length
        (order ((Stencil.slices b.size.toNat entries).map Part.ofSlice)) := by
  have size : 0 < b.size.toNat := by omega
  have cut : b.slices contexts = .ok (Stencil.slices b.size.toNat contexts) := by
    unfold slices
    rw [if_neg (by omega), if_neg (by omega), if_neg (by omega)]
  have parts : (fun s : Nat × List Value => (do
      return Part.mk s.1 (← Entry.ofContexts render s.2) : Run σ Part)) =
        fun s => Part.ofSlice <$> do return (s.1, ← Entry.ofContexts render s.2) := by
    funext s
    simp [Part.ofSlice]
  unfold renderSlices
  rw [cut]
  show (Run.each (fun s : Nat × List Value => do
    return Part.mk s.1 (← Entry.ofContexts render s.2)) _ >>= _) = _
  rw [parts, ← Run.map_each]
  unfold Entry.ofContexts
  rw [Run.each_slices size]
  simp only [map_eq_pure_bind, bind_assoc, pure_bind]

end Batch

end Stencil
