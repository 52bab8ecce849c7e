-- Texts as the bodies of string literals. A literal spells units of sixteen bits, as characters
-- that stand for themselves or as escapes, and two surrogates in a row are one character. A text
-- that is escaped for a script spells itself, and nothing in it ends the literal or begins markup.
import Stencil.Data.Json.Reader
import Stencil.Proofs.CleanText

namespace Stencil.Text

open Data.Json (hexValue? hexNumber? shortEscape?)

/-! ## What a literal spells -/

/-- The code units of sixteen bits that a character is made of. -/
def codeUnits (c : Char) : List Nat :=
  let n := c.toNat
  if n < 0x10000 then [n] else [0xD800 + (n - 0x10000) / 1024, 0xDC00 + (n - 0x10000) % 1024]

/-- The code units that the body of a literal spells. A quote or the end of a line would end it, and
a backslash begins an escape sequence. -/
def literalUnits? : List Char → Option (List Nat)
  | [] => some []
  | '\\' :: 'u' :: a :: b :: c :: d :: rest => do
    return (← hexNumber? [a, b, c, d]) :: (← literalUnits? rest)
  | '\\' :: c :: rest => do return (← shortEscape? c) :: (← literalUnits? rest)
  | c :: rest =>
    if c ∈ ['\\', '"', '\'', '\n', '\r'] then none
    else do return codeUnits c ++ (← literalUnits? rest)

/-- Half of a pair of code units. -/
def isSurrogate (n : Nat) : Bool := 0xD800 ≤ n && n < 0xE000

/-- The characters that code units make up; there are none for half of a pair. -/
def ofUnits? : List Nat → Option (List Char)
  | [] => some []
  | [a] => if isSurrogate a then none else some [Char.ofNat a]
  | a :: b :: rest =>
    if 0xD800 ≤ a && a < 0xDC00 && 0xDC00 ≤ b && b < 0xE000 then
      (ofUnits? rest).map (Char.ofNat (0x10000 + (a - 0xD800) * 1024 + (b - 0xDC00)) :: ·)
    else if isSurrogate a then none
    else (ofUnits? (b :: rest)).map (Char.ofNat a :: ·)

/-- The text that the body of a literal spells. -/
def denoted? (body : String) : Option String := do
  return String.ofList (← ofUnits? (← literalUnits? body.toList))

/-! ## Units and characters -/

theorem isSurrogate_toNat (c : Char) : isSurrogate c.toNat = false := by
  have valid := c.valid
  simp only [isSurrogate, Bool.and_eq_false_iff, decide_eq_false_iff_not]
  rcases valid with low | ⟨high, _⟩
  · exact .inl (Nat.not_le.2 low)
  · exact .inr (Nat.not_lt.2 high)

theorem ofUnits?_codeUnits (c : Char) (us : List Nat) :
    ofUnits? (codeUnits c ++ us) = (ofUnits? us).map (c :: ·) := by
  have whole := isSurrogate_toNat c
  by_cases small : c.toNat < 0x10000
  · have apart : (0xD800 ≤ c.toNat && c.toNat < 0xDC00) = false := by
      simp only [isSurrogate, Bool.and_eq_false_iff, decide_eq_false_iff_not] at whole ⊢
      omega
    simp only [codeUnits, small, if_true]
    cases us with
    | nil => simp [ofUnits?, whole]
    | cons b rest => simp [ofUnits?, whole, apart]
  · have bound : c.toNat < 0x110000 := by
      rcases c.valid with low | ⟨_, high⟩
      · exact Nat.lt_trans low (by decide)
      · exact high
    have pair : 0x10000 + (0xD800 + (c.toNat - 0x10000) / 1024 - 0xD800) * 1024 +
        (0xDC00 + (c.toNat - 0x10000) % 1024 - 0xDC00) = c.toNat := by omega
    have first : 0xD800 + (c.toNat - 0x10000) / 1024 < 0xDC00 := by omega
    have second : 0xDC00 + (c.toNat - 0x10000) % 1024 < 0xE000 := by omega
    simp only [codeUnits, small, if_false, List.cons_append, List.nil_append, ofUnits?]
    rw [if_pos (by simp [first, second]), pair, Char.ofNat_toNat]

/-- The units of the characters of a text make up the text. -/
theorem ofUnits?_flatMap (cs : List Char) : ofUnits? (cs.flatMap codeUnits) = some cs := by
  induction cs with
  | nil => rfl
  | cons c cs ih => rw [List.flatMap_cons, ofUnits?_codeUnits, ih, Option.map_some]

/-! ## Escape sequences -/

theorem hexValue?_hexDigit {n : Nat} (h : n < 16) : hexValue? (hexDigit false n) = some n := by
  have all : ∀ n : Fin 16, hexValue? (hexDigit false n) = some n.val := by decide
  exact all ⟨n, h⟩

theorem hexNumber?_hex {n : Nat} (h : n < 0x10000) : hexNumber? (hex false 4 n) = some n := by
  have digit (m : Nat) : hexValue? (hexDigit false (m % 16)) = some (m % 16) :=
    hexValue?_hexDigit (Nat.mod_lt _ (by decide))
  simp only [hexNumber?, hex, List.nil_append, List.cons_append, List.foldlM_cons, List.foldlM_nil,
    digit]
  show some _ = some n
  congr 1
  omega

theorem literalUnits?_unitEscape {n : Nat} (h : n < 0x10000) (rest : List Char) :
    literalUnits? (unitEscape n ++ rest) = (literalUnits? rest).map (n :: ·) := by
  have number := hexNumber?_hex h
  simp only [unitEscape, hex, List.nil_append, List.cons_append] at number ⊢
  rw [literalUnits?, number]
  cases literalUnits? rest <;> rfl

theorem literalUnits?_self {c : Char} (h : c ∉ ['\\', '"', '\'', '\n', '\r']) (rest : List Char) :
    literalUnits? (c :: rest) = (literalUnits? rest).map (codeUnits c ++ ·) := by
  have plain : c ≠ '\\' := fun same => h (same ▸ List.mem_cons_self)
  rw [literalUnits?, if_neg h]
  · cases literalUnits? rest <;> rfl
  · exact fun _ _ _ _ _ same => absurd same plain
  · exact fun _ _ same => absurd same plain

theorem literalUnits?_short {c : Char} {n : Nat} (h : shortEscape? c = some n) (rest : List Char) :
    literalUnits? ('\\' :: c :: rest) = (literalUnits? rest).map (n :: ·) := by
  rw [literalUnits?, h]
  · cases literalUnits? rest <;> rfl
  · rintro _ _ _ _ _ rfl
    cases h

/-- What a character is written as in JSON spells its code units. -/
theorem literalUnits?_jsonChar {c : Char} (h : c ≠ '\'') (rest : List Char) :
    literalUnits? (jsonChar c ++ rest) = (literalUnits? rest).map (codeUnits c ++ ·) := by
  unfold jsonChar
  split
  case h_8 quote backslash line feed _ _ _ =>
    have bound : c.toNat < 0x110000 := by
      rcases c.valid with low | ⟨_, high⟩
      · exact Nat.lt_trans low (by decide)
      · exact high
    simp only
    split
    · refine literalUnits?_self ?_ rest
      simp only [List.mem_cons, List.not_mem_nil, or_false, not_or]
      exact ⟨backslash, quote, h, line, feed⟩
    split
    · rename_i small
      simp only [codeUnits, small, if_true, List.cons_append, List.nil_append]
      exact literalUnits?_unitEscape small rest
    · rename_i large
      rw [List.append_assoc, literalUnits?_unitEscape (by omega),
        literalUnits?_unitEscape (by omega), Option.map_map]
      simp only [codeUnits, large, if_false]
      rfl
  all_goals exact literalUnits?_short rfl rest

theorem literalUnits?_scriptChar (c : Char) (rest : List Char) :
    literalUnits? (scriptChar c ++ rest) = (literalUnits? rest).map (codeUnits c ++ ·) := by
  have escape {a b : Char} {n : Nat} (h : hexNumber? ['0', '0', a, b] = some n) :
      literalUnits? ('\\' :: 'u' :: '0' :: '0' :: a :: b :: rest) =
        (literalUnits? rest).map ([n] ++ ·) := by
    rw [literalUnits?, h]
    cases literalUnits? rest <;> rfl
  unfold scriptChar
  split
  case h_5 apostrophe _ _ _ => exact literalUnits?_jsonChar apostrophe rest
  all_goals exact escape rfl

/-- Behind whatever text is escaped for a script, a literal goes on where it was. -/
theorem literalUnits?_flatMap (cs rest : List Char) :
    literalUnits? (cs.flatMap scriptChar ++ rest) =
      (literalUnits? rest).map (cs.flatMap codeUnits ++ ·) := by
  induction cs with
  | nil => simp
  | cons c cs ih =>
    simp only [List.flatMap_cons, List.append_assoc, literalUnits?_scriptChar, ih, Option.map_map]
    rfl

/-! ## The characters of an escaped text -/

/-- A printable character of ASCII that neither is an apostrophe nor means something in a page. -/
def IsHarmless (c : Char) : Prop :=
  32 ≤ c.toNat ∧ c.toNat ≤ 126 ∧ c ∉ ['\'', '<', '>', '&']

instance : DecidablePred IsHarmless := fun _ => inferInstanceAs (Decidable (_ ∧ _ ∧ _))

theorem isHarmless_of_all {l : List Char} {d : Char} (all : l.all (decide <| IsHarmless ·) = true)
    (h : d ∈ l) : IsHarmless d :=
  of_decide_eq_true (List.all_eq_true.1 all d h)

theorem isHarmless_hexDigit {n : Nat} (h : n < 16) : IsHarmless (hexDigit false n) := by
  have all : ∀ n : Fin 16, IsHarmless (hexDigit false n) := by decide
  exact all ⟨n, h⟩

theorem isHarmless_hex {width n : Nat} {d : Char} (h : d ∈ hex false width n) : IsHarmless d := by
  induction width generalizing n with
  | zero => cases h
  | succ w ih =>
    rcases List.mem_append.1 h with h | h
    · exact ih h
    · obtain rfl := List.mem_singleton.1 h
      exact isHarmless_hexDigit (Nat.mod_lt _ (by decide))

theorem isHarmless_unitEscape {n : Nat} {d : Char} (h : d ∈ unitEscape n) : IsHarmless d := by
  simp only [unitEscape, List.mem_cons] at h
  rcases h with rfl | rfl | h
  · decide
  · decide
  · exact isHarmless_hex h

/-- JSON writes a character as itself, or in harmless ones. -/
theorem mem_jsonChar {c d : Char} (h : d ∈ jsonChar c) :
    (d = c ∧ 32 ≤ c.toNat ∧ c.toNat ≤ 126) ∨ IsHarmless d := by
  have short {x : Char} (hx : IsHarmless x) (h : d ∈ ['\\', x]) : IsHarmless d := by
    rcases List.mem_cons.1 h with rfl | h
    · decide
    · exact List.mem_singleton.1 h ▸ hx
  unfold jsonChar at h
  split at h
  case h_8 =>
    simp only at h
    split at h
    · rename_i printable
      rw [Bool.and_eq_true, decide_eq_true_eq, decide_eq_true_eq] at printable
      exact .inl ⟨List.mem_singleton.1 h, printable⟩
    split at h
    · exact .inr (isHarmless_unitEscape h)
    · exact .inr ((List.mem_append.1 h).elim isHarmless_unitEscape isHarmless_unitEscape)
  all_goals exact .inr (short (by decide) h)

theorem isHarmless_scriptChar {c d : Char} (h : d ∈ scriptChar c) : IsHarmless d := by
  unfold scriptChar at h
  split at h
  case h_5 apostrophe less greater ampersand =>
    rcases mem_jsonChar h with ⟨rfl, printable⟩ | harmless
    · refine ⟨printable.1, printable.2, ?_⟩
      simp only [List.mem_cons, List.not_mem_nil, or_false, not_or]
      exact ⟨apostrophe, less, greater, ampersand⟩
    · exact harmless
  all_goals exact isHarmless_of_all (by decide) h

theorem quote_of_mem_scriptChar {c : Char} (h : '"' ∈ scriptChar c) : c = '"' := by
  by_cases special : Special c
  · rcases special with rfl | rfl | rfl | rfl <;> revert h <;> decide
  · exact absurd (.inr (.inr (.inl rfl))) (clean_scriptChar special '"' h)

/-- In a text that is escaped for a script, every quote stands behind the backslash of an escape
sequence: what comes before that backslash is a literal of its own. -/
theorem quote_in_flatMap {cs before after : List Char}
    (h : cs.flatMap scriptChar = before ++ '"' :: after) :
    ∃ whole, before = whole ++ ['\\'] ∧ (literalUnits? whole).isSome := by
  induction cs generalizing before with
  | nil => simp at h
  | cons c cs ih =>
    rw [List.flatMap_cons, List.append_eq_append_iff] at h
    rcases h with ⟨front, rfl, h⟩ | ⟨tail, h, rest⟩
    · obtain ⟨whole, rfl, reads⟩ := ih h
      refine ⟨scriptChar c ++ whole, (List.append_assoc _ _ _).symm, ?_⟩
      rw [literalUnits?_scriptChar, Option.isSome_map, reads]
    · cases tail with
      | nil =>
        -- No escaped text begins with a quote.
        have first : cs.flatMap scriptChar = [] ++ '"' :: after := rest.symm
        obtain ⟨whole, none, _⟩ := ih first
        simp at none
      | cons d tail =>
        obtain rfl : '"' = d := (List.cons.inj rest).1
        obtain rfl := quote_of_mem_scriptChar (h ▸ by simp : '"' ∈ scriptChar c)
        have pair : ['\\', '"'] = before ++ '"' :: tail := h
        refine ⟨[], ?_, rfl⟩
        cases before with
        | nil => cases pair
        | cons a before =>
          cases before with
          | nil =>
            cases pair
            rfl
          | cons b before => simp at pair

/-! ## Escaping by replacement -/

/-- A text with another one in the place of a character. -/
def replace (c : Char) (other cs : List Char) : List Char :=
  cs.flatMap fun d => if d = c then other else [d]

theorem replace_flatMap {c : Char} {other : List Char} (f : Char → List Char) (cs : List Char) :
    replace c other (cs.flatMap f) = cs.flatMap fun d => replace c other (f d) :=
  List.flatMap_assoc

theorem replace_of_not_mem {c : Char} {other cs : List Char} (h : c ∉ cs) :
    replace c other cs = cs := by
  induction cs with
  | nil => rfl
  | cons d cs ih =>
    have apart : d ≠ c := fun same => h (same ▸ List.mem_cons_self)
    have rest := ih fun member => h (List.mem_cons_of_mem _ member)
    rw [replace, List.flatMap_cons, if_neg apart]
    exact congrArg (d :: ·) rest

/-- A text as JSON writes it, with the escapes of a page for four characters. -/
def pageEscapes (cs : List Char) : List Char :=
  replace '&' "\\u0026".toList <| replace '>' "\\u003E".toList <|
    replace '<' "\\u003C".toList <| replace '\'' "\\u0027".toList cs

/-- The four replacements only hit the characters for which they are meant. -/
theorem pageEscapes_jsonChar (c : Char) : pageEscapes (jsonChar c) = scriptChar c := by
  by_cases special : c ∈ ['\'', '<', '>', '&']
  · simp only [List.mem_cons, List.not_mem_nil, or_false] at special
    rcases special with rfl | rfl | rfl | rfl <;> rfl
  · have absent {d : Char} (hd : d ∈ ['\'', '<', '>', '&']) : d ∉ jsonChar c := by
      intro member
      rcases mem_jsonChar member with ⟨rfl, _⟩ | harmless
      · exact special hd
      · exact harmless.2.2 hd
    have same : scriptChar c = jsonChar c := by
      unfold scriptChar
      split
      case h_5 => rfl
      all_goals exact absurd (by decide) special
    have kept {d : Char} (hd : d ∈ ['\'', '<', '>', '&']) (other : List Char) :
        replace d other (jsonChar c) = jsonChar c := replace_of_not_mem (absent hd)
    rw [pageEscapes, kept (by decide), kept (by decide), kept (by decide), kept (by decide), same]

theorem escapeScript_eq (s : String) :
    (escapeScript s).toList = pageEscapes (jsonString s).toList.tail.dropLast := by
  have body : (jsonString s).toList.tail.dropLast = s.toList.flatMap jsonChar := by
    simp [jsonString]
  rw [body, pageEscapes, replace_flatMap, replace_flatMap, replace_flatMap, replace_flatMap,
    escapeScript, String.toList_ofList]
  exact congrArg (s.toList.flatMap ·) (funext fun c => (pageEscapes_jsonChar c).symm)

/-- Escaping for a script is to write the text in JSON, to leave the quotes away and to replace four
characters one after the other. What comes of it is the body of a literal that spells the text, in
printable characters of ASCII, without apostrophes, angle brackets and ampersands, and with no quote
that is not the second character of an escape sequence. -/
theorem escapeScript_spells (s : String) :
    (escapeScript s).toList = pageEscapes (jsonString s).toList.tail.dropLast ∧
      (∀ c ∈ (escapeScript s).toList,
        32 ≤ c.toNat ∧ c.toNat ≤ 126 ∧ c ≠ '\'' ∧ c ≠ '<' ∧ c ≠ '>' ∧ c ≠ '&') ∧
      (∀ before after, (escapeScript s).toList = before ++ '"' :: after →
        ∃ whole, before = whole ++ ['\\'] ∧ (literalUnits? whole).isSome) ∧
      denoted? (escapeScript s) = some s := by
  have written : (escapeScript s).toList = s.toList.flatMap scriptChar := String.toList_ofList
  refine ⟨escapeScript_eq s, ?_, ?_, ?_⟩
  · intro c hc
    rw [written] at hc
    obtain ⟨d, _, hc⟩ := List.mem_flatMap.1 hc
    obtain ⟨low, high, other⟩ := isHarmless_scriptChar hc
    simp only [List.mem_cons, List.not_mem_nil, or_false, not_or] at other
    exact ⟨low, high, other⟩
  · intro before after split
    exact quote_in_flatMap (written ▸ split)
  · have units := literalUnits?_flatMap s.toList []
    rw [List.append_nil, literalUnits?, Option.map_some, List.append_nil] at units
    simp [denoted?, written, units, ofUnits?_flatMap]

example : denoted? "\\\"\\ud83d\\ude00\\n" = some "\"😀\n" := by decide

end Stencil.Text
