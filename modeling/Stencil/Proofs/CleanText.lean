-- Texts without the characters that begin and end markup and attributes. Escaping makes such texts,
-- and neither the case mappings nor the escapes for links and scripts bring the characters back.
import Stencil.Library.Functions

namespace Stencil.Text

/-- The characters that mean something in a page: angle brackets and quotes. -/
def Special (c : Char) : Prop := c = '<' ∨ c = '>' ∨ c = '"' ∨ c = '\''

instance : DecidablePred Special := fun _ => inferInstanceAs (Decidable (_ ∨ _))

/-- No character of the text is special. -/
def Clean (cs : List Char) : Prop := ∀ c ∈ cs, ¬ Special c

instance : DecidablePred Clean := fun cs => List.decidableBAll (fun c => ¬ Special c) cs

/-! ## Putting texts together -/

theorem clean_nil : Clean [] := by
  intro c hc
  cases hc

theorem clean_append {a b : List Char} : Clean (a ++ b) ↔ Clean a ∧ Clean b :=
  List.forall_mem_append

theorem clean_flatMap {α : Type} {f : α → List Char} {l : List α} (h : ∀ a ∈ l, Clean (f a)) :
    Clean (l.flatMap f) := by
  intro c hc
  obtain ⟨a, ha, hc⟩ := List.mem_flatMap.1 hc
  exact h a ha c hc

/-- A text is clean if it was made of a clean one character by character. -/
theorem Clean.flatMap {f : Char → List Char} {cs : List Char} (h : Clean cs)
    (hf : ∀ c, ¬ Special c → Clean (f c)) : Clean (cs.flatMap f) :=
  clean_flatMap fun c hc => hf c (h c hc)

theorem clean_join {l : List String} (h : ∀ s ∈ l, Clean s.toList) :
    Clean (String.join l).toList := by
  rw [String.toList_join]
  exact clean_flatMap h

/-- Behind the greater-than sign come no special characters. -/
theorem not_special_of_lt {c : Char} (h : 62 < c.toNat) : ¬ Special c := by
  rintro (rfl | rfl | rfl | rfl) <;> revert h <;> decide

theorem toNat_ofNat (n : Nat) : (Char.ofNat n).toNat = n ∨ Char.ofNat n = '\x00' := by
  by_cases valid : n.isValidChar
  · have hn : Char.ofNat n = Char.ofNatAux n valid := dif_pos valid
    exact .inl (hn ▸ rfl)
  · exact .inr (dif_neg valid)

theorem not_special_ofNat {n : Nat} (h : 62 < n) : ¬ Special (Char.ofNat n) := by
  rcases toNat_ofNat n with hn | hn
  · exact not_special_of_lt (hn.symm ▸ h)
  · rw [hn]
    decide

/-! ## Escapes -/

theorem clean_markupChar (c : Char) : Clean (markupChar c) := by
  unfold markupChar
  split
  · decide
  · decide
  · decide
  · decide
  · decide
  · rename_i hl hg hq ha
    intro d hd
    obtain rfl := List.mem_singleton.1 hd
    rintro (h | h | h | h)
    · exact hl h
    · exact hg h
    · exact hq h
    · exact ha h

/-- Escaped text is clean, whatever the text was. -/
theorem clean_escapeMarkup (s : String) : Clean (escapeMarkup s).toList := by
  rw [escapeMarkup, String.toList_ofList]
  exact clean_flatMap fun c _ => clean_markupChar c

theorem clean_hexDigit (capital : Bool) {n : Nat} (h : n < 16) :
    ¬ Special (hexDigit capital n) := by
  have all : ∀ capital, ∀ n : Fin 16, ¬ Special (hexDigit capital n) := by decide
  exact all capital ⟨n, h⟩

theorem clean_hex (capital : Bool) (width n : Nat) : Clean (hex capital width n) := by
  induction width generalizing n with
  | zero => exact clean_nil
  | succ w ih =>
    rw [hex]
    refine clean_append.2 ⟨ih _, ?_⟩
    intro c hc
    obtain rfl := List.mem_singleton.1 hc
    exact clean_hexDigit capital (Nat.mod_lt _ (by decide))

theorem clean_percentChar (c : Char) : Clean (percentChar c) := by
  unfold percentChar
  split
  · rename_i h
    intro d hd
    obtain rfl := List.mem_singleton.1 hd
    rintro (rfl | rfl | rfl | rfl) <;> revert h <;> decide
  · refine clean_flatMap fun b _ => ?_
    intro d hd
    rcases List.mem_cons.1 hd with rfl | hd
    · decide
    · exact clean_hex true 2 b.toNat d hd

/-- In a link no special character stands for itself. -/
theorem clean_escapePercent (s : String) : Clean (escapePercent s).toList := by
  rw [escapePercent, String.toList_ofList]
  exact clean_flatMap fun c _ => clean_percentChar c

theorem clean_unitEscape (n : Nat) : Clean (unitEscape n) := by
  intro c hc
  simp only [unitEscape, List.mem_cons] at hc
  rcases hc with rfl | rfl | hc
  · decide
  · decide
  · exact clean_hex false 4 n c hc

theorem clean_jsonChar {c : Char} (h : ¬ Special c) : Clean (jsonChar c) := by
  unfold jsonChar
  split
  · exact absurd (.inr (.inr (.inl rfl))) h
  · decide
  · decide
  · decide
  · decide
  · decide
  · decide
  · simp only
    split
    · intro d hd
      obtain rfl := List.mem_singleton.1 hd
      exact h
    split
    · exact clean_unitEscape _
    · exact clean_append.2 ⟨clean_unitEscape _, clean_unitEscape _⟩

theorem clean_scriptChar {c : Char} (h : ¬ Special c) : Clean (scriptChar c) := by
  unfold scriptChar
  split
  · decide
  · decide
  · decide
  · decide
  · exact clean_jsonChar h

/-- A clean text stays clean in a script. Others do not: a quote is written behind a backslash. -/
theorem clean_escapeScript {s : String} (h : Clean s.toList) : Clean (escapeScript s).toList := by
  rw [escapeScript, String.toList_ofList]
  exact h.flatMap fun c hc => clean_scriptChar hc

example : ¬ Clean (escapeScript "\"").toList := by decide

/-! ## Upper and lower case -/

namespace Case

/-- No character is mapped to one that comes before the letters. -/
structure Letters (wide : List (Nat × List Nat)) (runs : List Run) : Prop where
  wide : ∀ entry ∈ wide, ∀ n ∈ entry.2, 62 < n
  runs : ∀ r ∈ runs, 62 < r.target

theorem letters_upper : Letters upperWide upperRuns := ⟨by decide +kernel, by decide +kernel⟩

theorem letters_lower : Letters lowerWide lowerRuns := ⟨by decide +kernel, by decide +kernel⟩

theorem clean_convert {wide : List (Nat × List Nat)} {runs : List Run} (hl : Letters wide runs)
    {c : Char} (h : ¬ Special c) : Clean (convert wide runs c) := by
  unfold convert
  split
  · rename_i codes hw
    obtain ⟨before, after, rfl, _⟩ := List.lookup_eq_some_iff.1 hw
    intro d hd
    obtain ⟨n, hn, rfl⟩ := List.mem_map.1 hd
    exact not_special_ofNat (hl.wide (c.toNat, codes) (by simp) n hn)
  · intro d hd
    obtain rfl := List.mem_singleton.1 hd
    cases hr : runs.findSome? (·.target? c.toNat) with
    | none => exact h
    | some t =>
      obtain ⟨r, hmem, ht⟩ := List.exists_of_findSome?_eq_some hr
      simp only [Run.target?, Option.ite_none_right_eq_some] at ht
      obtain ⟨_, ht⟩ := ht
      rw [Option.getD_some, ← Option.some.inj ht]
      exact not_special_ofNat (Nat.lt_of_lt_of_le (hl.runs r hmem) (Nat.le_add_right _ _))

theorem clean_lowerFrom {before cs : List Char} (h : Clean cs) : Clean (lowerFrom before cs) := by
  fun_induction lowerFrom before cs with
  | case1 => exact clean_nil
  | case2 before cs ih =>
    intro d hd
    rcases List.mem_cons.1 hd with rfl | hd
    · split <;> decide
    · exact ih (fun c hc => h c (List.mem_cons_of_mem _ hc)) d hd
  | case3 before c cs hne ih =>
    refine clean_append.2 ⟨clean_convert letters_lower (h c List.mem_cons_self), ?_⟩
    exact ih fun c hc => h c (List.mem_cons_of_mem _ hc)

end Case

theorem clean_upper {cs : List Char} (h : Clean cs) : Clean (upper cs) :=
  h.flatMap fun _ hc => Case.clean_convert Case.letters_upper hc

theorem clean_lower {cs : List Char} (h : Clean cs) : Clean (lower cs) := Case.clean_lowerFrom h

theorem mem_intercalate {c d : Char} {words : List (List Char)} :
    c ∈ [d].intercalate words → c = d ∨ ∃ word ∈ words, c ∈ word := by
  induction words with
  | nil => simp
  | cons w rest ih =>
    cases rest with
    | nil =>
      intro hc
      exact .inr ⟨w, List.mem_cons_self, by simpa using hc⟩
    | cons v rest =>
      intro hc
      rw [List.intercalate_cons_cons, List.mem_append, List.mem_append] at hc
      rcases hc with (hc | hc) | hc
      · exact .inr ⟨w, List.mem_cons_self, hc⟩
      · exact .inl (List.mem_singleton.1 hc)
      · rcases ih hc with h | ⟨word, hw, h⟩
        · exact .inl h
        · exact .inr ⟨word, List.mem_cons_of_mem _ hw, h⟩

theorem mem_of_splitOn {c d : Char} {cs word : List Char} (hw : word ∈ cs.splitOn d)
    (hc : c ∈ word) : c ∈ cs := by
  induction cs generalizing word with
  | nil => simp_all
  | cons a rest ih =>
    rw [List.splitOn_cons_eq_if_modifyHead] at hw
    split at hw
    · rcases List.mem_cons.1 hw with rfl | hw
      · cases hc
      · exact List.mem_cons_of_mem _ (ih hw hc)
    · obtain ⟨first, others, hs⟩ := List.exists_cons_of_ne_nil (List.splitOn_ne_nil d rest)
      rw [hs] at ih hw
      rcases List.mem_cons.1 hw with rfl | hw
      · rcases List.mem_cons.1 hc with rfl | hc
        · exact List.mem_cons_self
        · exact List.mem_cons_of_mem _ (ih List.mem_cons_self hc)
      · exact List.mem_cons_of_mem _ (ih (List.mem_cons_of_mem _ hw) hc)

theorem clean_capitalized {cs : List Char} (h : Clean cs) : Clean (capitalized cs) := by
  have part : ∀ word ∈ cs.splitOn ' ', Clean word :=
    fun word hw c hc => h c (mem_of_splitOn hw hc)
  intro c hc
  rcases mem_intercalate hc with rfl | ⟨word, hw, hc⟩
  · decide
  · obtain ⟨old, ho, rfl⟩ := List.mem_map.1 hw
    have clean := part old ho
    refine clean_append.2 ⟨clean_upper ?_, clean_lower ?_⟩ c hc
    · exact fun c hc => clean c (List.mem_of_mem_take hc)
    · exact fun c hc => clean c (List.mem_of_mem_drop hc)

end Stencil.Text
