-- The written form of expressions. Reading it gives the expression back, and whatever is read has a
-- written form that can be read, so two expressions that were read are equal if they are written
-- alike.
import Mathlib.Data.List.TakeWhile
import Stencil.Expr.Reader

namespace Stencil

namespace Lexeme

/-! ## Names -/

/-- The characters that stand in no name, beside blanks. -/
def reserved : List Char := ['(', ')', '.', ',', '\x7b', '\x7d']

theorem isName_iff {s : String} :
    IsName s ↔ s ≠ "" ∧ ∀ c ∈ s.toList, Text.isBlank c = false ∧ c ∉ reserved := by
  have char (c : Char) : isNameChar c = true ↔ Text.isBlank c = false ∧ c ∉ reserved := by
    unfold isNameChar ofMark?
    split <;> simp_all [reserved, and_assoc]
  simp only [IsName, char]

/-! ## The lexemes of a text -/

/-- The lexemes of a text without blanks in front, which begins at `here`. -/
def begun (stray here : Nat) : List Char → Except Nat (List Lexeme)
  | [] => .ok []
  | c :: rest =>
    match ofMark? c with
    | some mark => (mark :: ·) <$> scan (here + 1) rest
    | none =>
      if isNameChar c then
        (.name (String.ofList (c :: rest.takeWhile isNameChar)) :: ·) <$>
          scan (here + 1 + (rest.takeWhile isNameChar).length) (rest.dropWhile isNameChar)
      else .error stray

theorem scan_eq_begun (offset : Nat) (cs : List Char) :
    scan offset cs =
      begun offset (offset + (cs.takeWhile Text.isBlank).length) (cs.dropWhile Text.isBlank) := by
  rw [scan]
  split
  · rename_i h
    conv => rhs; rw [h]
    rfl
  · rename_i c rest h
    conv => rhs; rw [h]
    rfl

theorem begun_eq_ok {stray stray' here : Nat} {cs : List Char} {ls : List Lexeme}
    (h : begun stray here cs = .ok ls) : begun stray' here cs = .ok ls := by
  unfold begun at h ⊢
  split
  · exact h
  · split
    · rename_i hm
      simpa only [hm] using h
    · rename_i hm
      simp only [hm] at h
      split
      · rename_i hc
        simpa only [hc, if_true] using h
      · rename_i hc
        simp only [hc] at h
        cases h

/-- The lexemes of a text, wherever the text begins. -/
def Spell (ls : List Lexeme) (cs : List Char) : Prop := ∀ offset, scan offset cs = .ok ls

variable {ls : List Lexeme} {cs : List Char} {c : Char}

theorem spell_nil : Spell [] [] := by
  intro offset
  rw [scan_eq_begun]
  rfl

theorem Spell.blank (h : Spell ls cs) (hb : Text.isBlank c = true) : Spell ls (c :: cs) := by
  intro offset
  have later := h (offset + 1)
  rw [scan_eq_begun] at later ⊢
  rw [List.takeWhile_cons_of_pos hb, List.dropWhile_cons_of_pos hb, List.length_cons,
    Nat.add_comm _ 1, ← Nat.add_assoc]
  exact begun_eq_ok later

theorem Spell.mark {m : Lexeme} (h : Spell ls cs) (hm : ofMark? c = some m)
    (hb : Text.isBlank c = false) : Spell (m :: ls) (c :: cs) := by
  intro offset
  have solid : ¬ Text.isBlank c = true := by
    simp [hb]
  rw [scan_eq_begun, List.dropWhile_cons_of_neg solid]
  simp only [begun, hm, h _]
  rfl

/-- A name has to end where another name could not go on. -/
theorem Spell.name {n : String} (h : Spell ls cs) (hn : IsName n)
    (ends : ∀ c ∈ cs.head?, isNameChar c = false) : Spell (.name n :: ls) (n.toList ++ cs) := by
  intro offset
  obtain ⟨nonempty, chars⟩ := hn
  obtain ⟨c, tail, hc⟩ : ∃ c tail, n.toList = c :: tail := by
    cases hl : n.toList with
    | nil => exact absurd (String.toList_eq_nil_iff.1 hl) nonempty
    | cons c tail => exact ⟨c, tail, rfl⟩
  rw [hc] at chars ⊢
  have head := chars c List.mem_cons_self
  have rest : ∀ d ∈ tail, isNameChar d = true := fun d hd => chars d (List.mem_cons_of_mem _ hd)
  have solid : ¬ Text.isBlank c = true := by
    intro hb
    simp [isNameChar, hb] at head
  have noMark : ofMark? c = none := by
    cases hm : ofMark? c with
    | none => rfl
    | some m => simp [isNameChar, hm] at head
  obtain ⟨taken, dropped⟩ :
      (tail ++ cs).takeWhile isNameChar = tail ∧ (tail ++ cs).dropWhile isNameChar = cs := by
    rw [List.takeWhile_append_of_pos rest, List.dropWhile_append_of_pos rest]
    cases cs with
    | nil => simp
    | cons d r => simp [ends d rfl]
  rw [List.cons_append, scan_eq_begun, List.dropWhile_cons_of_neg solid]
  simp only [begun, noMark, head, if_true, taken, dropped, h _]
  rw [← hc, String.ofList_toList]
  rfl

theorem map_eq_ok {α β : Type} {x : Except Nat α} {f : α → β} {b : β} (h : f <$> x = .ok b) :
    ∃ a, x = .ok a ∧ f a = b := by
  cases x with
  | ok a => exact ⟨a, rfl, Except.ok.inj h⟩
  | error e => cases h

/-- The names among the lexemes of a text are names that an expression can hold. -/
theorem isName_of_scan {offset : Nat} (h : scan offset cs = .ok ls) {n : String}
    (hn : .name n ∈ ls) : IsName n := by
  fun_induction scan offset cs generalizing ls with
  | case1 =>
    cases h
    cases hn
  | case2 =>
    rename_i hm ih
    obtain ⟨more, hs, rfl⟩ := map_eq_ok h
    rcases List.mem_cons.1 hn with rfl | hn
    · unfold ofMark? at hm
      split at hm <;> cases hm
    · exact ih hs hn
  | case3 =>
    rename_i hc _ _ ih
    obtain ⟨more, hs, rfl⟩ := map_eq_ok h
    rcases List.mem_cons.1 hn with hn | hn
    · cases hn
      refine ⟨by simp, fun d hd => ?_⟩
      rw [String.toList_ofList] at hd
      rcases List.mem_cons.1 hd with rfl | hd
      · exact hc
      · exact List.mem_takeWhile_imp hd
    · exact ih hs hn
  | case4 => cases h

end Lexeme

namespace Expr

/-! ## Legal expressions -/

/-- A text that is not empty and has no blanks, parentheses, points, commas and braces. -/
def IsWord (s : String) : Prop :=
  s ≠ "" ∧ ∀ c ∈ s.toList, Text.isBlank c = false ∧ c ∉ Lexeme.reserved

mutual

/-- Every name and every key is one that a template can spell. -/
def IsLegal : Expr → Prop
  | .name n => IsWord n
  | .top => True
  | .key b k => b.IsLegal ∧ IsWord k
  | .call f a r => f.IsLegal ∧ a.IsLegal ∧ AreLegal r

def AreLegal : List Expr → Prop
  | [] => True
  | a :: r => a.IsLegal ∧ AreLegal r

end

theorem areLegal_iff {l : List Expr} : AreLegal l ↔ ∀ e ∈ l, e.IsLegal := by
  induction l with
  | nil => simp [AreLegal]
  | cons a r ih => simp [AreLegal, ih]

/-! ## The lexemes of an expression -/

mutual

/-- The lexemes of the written form. -/
def lexemes : Expr → List Lexeme
  | .name n => [.name n]
  | .top => [.dot]
  | .key .top k => [.dot, .name k]
  | .key b k => b.lexemes ++ [.dot, .name k]
  | .call f a r => f.lexemes ++ .opening :: (a.lexemes ++ restLexemes r)

/-- The lexemes of the arguments behind the first one, up to the end of the call. -/
def restLexemes : List Expr → List Lexeme
  | [] => [.closing]
  | a :: r => .comma :: (a.lexemes ++ restLexemes r)

end

/-! ## Reading lexemes -/

def isTop : Expr → Bool
  | .top => true
  | _ => false

/-- A call with a list of arguments. -/
def callWith (f : Expr) : List Expr → Expr
  | [] => f
  | a :: r => .call f a r

theorem close_eq_callWith (f : Expr) (arguments : List Expr) (last : Expr) :
    OpenCall.close ⟨f, arguments⟩ last = callWith f (arguments ++ [last]) := by
  cases arguments with
  | nil => rfl
  | cons a r => rfl

open Reader (step)

theorem foldlM_ok_cons {r r' : Reader} {l : Lexeme} (h : step r l = .ok r') (ls : List Lexeme) :
    (l :: ls).foldlM step r = ls.foldlM step r' := by
  rw [List.foldlM_cons, h]
  rfl

mutual

/-- Where an expression is awaited, the lexemes of one are read to it, and then more is awaited. -/
theorem foldlM_lexemes (e : Expr) (calls : List OpenCall) (opened : Bool) (ls : List Lexeme) :
    (e.lexemes ++ ls).foldlM step ⟨calls, .expression opened⟩ =
      ls.foldlM step ⟨calls, .more e e.isTop⟩ := by
  cases e with
  | name n => exact foldlM_ok_cons rfl ls
  | top => exact foldlM_ok_cons rfl ls
  | key b k =>
    by_cases hb : b = .top
    · subst hb
      rw [lexemes, List.cons_append, foldlM_ok_cons rfl]
      exact foldlM_ok_cons rfl ls
    · have noTop : b.isTop = false := by
        cases b <;> simp_all [isTop]
      rw [lexemes.eq_4 _ _ hb, List.append_assoc, foldlM_lexemes b, noTop]
      rw [List.cons_append, foldlM_ok_cons rfl]
      exact foldlM_ok_cons rfl ls
  | call f a r =>
    rw [lexemes, List.append_assoc, foldlM_lexemes f, List.cons_append, foldlM_ok_cons rfl,
      List.append_assoc, foldlM_lexemes a, foldlM_restLexemes r]
    rfl

/-- The arguments behind one that has been read complete the call. -/
theorem foldlM_restLexemes (r : List Expr) (calls : List OpenCall) (f : Expr)
    (arguments : List Expr) (done : Expr) (point : Bool) (ls : List Lexeme) :
    (restLexemes r ++ ls).foldlM step ⟨⟨f, arguments⟩ :: calls, .more done point⟩ =
      ls.foldlM step ⟨calls, .more (callWith f (arguments ++ done :: r)) false⟩ := by
  cases r with
  | nil =>
    rw [restLexemes, List.cons_append, foldlM_ok_cons rfl, close_eq_callWith]
    rfl
  | cons a r =>
    rw [restLexemes, List.cons_append, foldlM_ok_cons rfl, List.append_assoc, foldlM_lexemes a,
      foldlM_restLexemes r, List.append_assoc]
    rfl

end

theorem lexemes_ne_nil (e : Expr) : e.lexemes ≠ [] := by
  cases e with
  | key b k =>
    cases b <;> simp [lexemes]
  | _ => simp [lexemes]

theorem ofLexemes_lexemes (e : Expr) : ofLexemes e.lexemes = .ok e := by
  have read := foldlM_lexemes e [] false []
  rw [List.append_nil] at read
  have some : e.lexemes.isEmpty = false := by
    simpa using e.lexemes_ne_nil
  rw [ofLexemes, some, if_neg Bool.false_ne_true, Reader.start, read]
  rfl

/-! ## Reading the written form -/

open Lexeme (Spell)

mutual

/-- The written form of a legal expression spells its lexemes, in front of anything that cannot
continue a name. -/
theorem spell_text (e : Expr) (he : e.IsLegal) {ls : List Lexeme} {cs : List Char}
    (h : Spell ls cs) (ends : ∀ c ∈ cs.head?, Lexeme.isNameChar c = false) :
    Spell (e.lexemes ++ ls) (e.text.toList ++ cs) := by
  cases e with
  | name n => exact h.name (Lexeme.isName_iff.2 he) ends
  | top => exact h.mark rfl rfl
  | key b k =>
    obtain ⟨hb, hk⟩ := he
    have key : Spell (.dot :: .name k :: ls) ('.' :: (k.toList ++ cs)) :=
      (h.name (Lexeme.isName_iff.2 hk) ends).mark rfl rfl
    by_cases top : b = .top
    · subst top
      simpa [text, lexemes] using key
    · have spelled := spell_text b hb key (by simp [Lexeme.isNameChar, Lexeme.ofMark?])
      simpa [text.eq_4 _ _ top, lexemes.eq_4 _ _ top] using spelled
  | call f a r =>
    obtain ⟨hf, ha, hr⟩ := he
    have rest := spell_restText r hr h
    have first := spell_text a ha rest.1 rest.2
    have spelled := spell_text f hf (first.mark (c := '(') rfl rfl)
      (by simp [Lexeme.isNameChar, Lexeme.ofMark?])
    simpa [text, lexemes] using spelled

theorem spell_restText (r : List Expr) (hr : AreLegal r) {ls : List Lexeme} {cs : List Char}
    (h : Spell ls cs) :
    Spell (restLexemes r ++ ls) ((restText r).toList ++ ')' :: cs) ∧
      ∀ c ∈ ((restText r).toList ++ ')' :: cs).head?, Lexeme.isNameChar c = false := by
  cases r with
  | nil =>
    refine ⟨h.mark rfl rfl, ?_⟩
    simp [restText, Lexeme.isNameChar, Lexeme.ofMark?]
  | cons a r =>
    obtain ⟨ha, hr⟩ := hr
    have rest := spell_restText r hr h
    have first := spell_text a ha rest.1 rest.2
    have spelled := (first.blank (c := ' ') rfl).mark (c := ',') rfl rfl
    refine ⟨by simpa [restText, restLexemes] using spelled, ?_⟩
    simp [restText, Lexeme.isNameChar, Lexeme.ofMark?]

end

/-- Reading the written form of a legal expression gives the expression. -/
theorem parse_text {e : Expr} (he : e.IsLegal) : parse e.text.toList = .ok e := by
  have spelled := spell_text e he Lexeme.spell_nil (by simp) 0
  rw [List.append_nil, List.append_nil] at spelled
  rw [parse, spelled]
  exact ofLexemes_lexemes e

/-! ## What is read is legal -/

def Awaited.IsLegal : Awaited → Prop
  | .expression _ => True
  | .keyOf base => base.IsLegal
  | .more done _ => done.IsLegal

def OpenCall.IsLegal (c : OpenCall) : Prop := c.filter.IsLegal ∧ ∀ a ∈ c.arguments, a.IsLegal

theorem isLegal_callWith {f : Expr} {arguments : List Expr} (hf : f.IsLegal)
    (ha : ∀ a ∈ arguments, a.IsLegal) : (callWith f arguments).IsLegal := by
  cases arguments with
  | nil => exact hf
  | cons a r =>
    refine ⟨hf, ha a List.mem_cons_self, areLegal_iff.2 fun b hb => ?_⟩
    exact ha b (List.mem_cons_of_mem _ hb)

theorem isLegal_snoc {arguments : List Expr} {last : Expr} (ha : ∀ a ∈ arguments, a.IsLegal)
    (hl : last.IsLegal) : ∀ a ∈ arguments ++ [last], a.IsLegal := by
  intro a h
  rcases List.mem_append.1 h with h | h
  · exact ha a h
  · rw [List.mem_singleton.1 h]
    exact hl

namespace Reader

/-- Everything that the reader holds is legal. -/
structure IsLegal (r : Reader) : Prop where
  calls : ∀ c ∈ r.calls, c.IsLegal
  awaited : r.awaited.IsLegal

variable {calls : List OpenCall} {done : Expr} {l : Lexeme} {r r' : Reader}

theorem isLegal_begin {opened : Bool} (hc : ∀ c ∈ calls, c.IsLegal)
    (hl : ∀ n, l = .name n → IsWord n) (h : begin calls opened l = .ok r) : r.IsLegal := by
  cases l with
  | name n =>
    cases h
    exact ⟨hc, hl n rfl⟩
  | dot =>
    cases h
    exact ⟨hc, trivial⟩
  | comma | opening | closing => cases h

theorem isLegal_goOn {point : Bool} (hc : ∀ c ∈ calls, c.IsLegal) (hd : done.IsLegal)
    (hl : ∀ n, l = .name n → IsWord n) (h : goOn calls done point l = .ok r) :
    r.IsLegal := by
  cases l with
  | name n =>
    cases point with
    | true =>
      cases h
      exact ⟨hc, trivial, hl n rfl⟩
    | false => cases h
  | dot =>
    cases h
    exact ⟨hc, hd⟩
  | opening =>
    cases h
    refine ⟨?_, trivial⟩
    rintro c (_ | ⟨_, hmem⟩)
    · exact ⟨hd, fun a ha => absurd ha List.not_mem_nil⟩
    · exact hc c hmem
  | comma =>
    cases calls with
    | nil => cases h
    | cons c outer =>
      cases h
      obtain ⟨hf, ha⟩ := hc c List.mem_cons_self
      refine ⟨?_, trivial⟩
      rintro d (_ | ⟨_, hmem⟩)
      · exact ⟨hf, isLegal_snoc ha hd⟩
      · exact hc d (List.mem_cons_of_mem _ hmem)
  | closing =>
    cases calls with
    | nil => cases h
    | cons c outer =>
      cases h
      obtain ⟨hf, ha⟩ := hc c List.mem_cons_self
      refine ⟨fun d hd => hc d (List.mem_cons_of_mem _ hd), ?_⟩
      rw [Awaited.IsLegal, close_eq_callWith]
      exact isLegal_callWith hf (isLegal_snoc ha hd)

/-- A lexeme that is accepted leaves everything legal. -/
theorem IsLegal.step (hr : r.IsLegal) (hl : ∀ n, l = .name n → IsWord n)
    (h : r.step l = .ok r') : r'.IsLegal := by
  obtain ⟨calls, awaited⟩ := r
  obtain ⟨hc, hd⟩ := hr
  cases awaited with
  | expression opened => exact isLegal_begin hc hl h
  | keyOf base =>
    cases l with
    | name k =>
      cases h
      exact ⟨hc, hd, hl k rfl⟩
    | dot | comma | opening | closing => cases h
  | more done point => exact isLegal_goOn hc hd hl h

theorem IsLegal.steps (hr : r.IsLegal) {ls : List Lexeme}
    (hl : ∀ n, .name n ∈ ls → IsWord n) (h : ls.foldlM Reader.step r = .ok r') :
    r'.IsLegal := by
  induction ls generalizing r with
  | nil =>
    cases h
    exact hr
  | cons l ls ih =>
    rw [List.foldlM_cons] at h
    cases hs : r.step l with
    | error flaw =>
      rw [hs] at h
      cases h
    | ok next =>
      rw [hs] at h
      refine ih (hr.step (fun n hn => hl n ?_) hs) (fun n hn => hl n (List.mem_cons_of_mem _ hn)) h
      rw [hn]
      exact List.mem_cons_self

end Reader

/-- Every expression that is read is legal. -/
theorem isLegal_of_parse {cs : List Char} {e : Expr} (h : parse cs = .ok e) : e.IsLegal := by
  unfold parse at h
  cases hs : Lexeme.scan 0 cs with
  | error offset =>
    rw [hs] at h
    cases h
  | ok ls =>
    rw [hs] at h
    change ofLexemes ls = .ok e at h
    unfold ofLexemes at h
    split at h
    · cases h
    · cases hf : ls.foldlM Reader.step Reader.start with
      | error flaw =>
        rw [hf] at h
        cases h
      | ok r =>
        rw [hf] at h
        change r.finish = .ok e at h
        have start : Reader.start.IsLegal := ⟨fun c hc => absurd hc List.not_mem_nil, trivial⟩
        have legal := start.steps (fun n hn => Lexeme.isName_iff.1 (Lexeme.isName_of_scan hs hn)) hf
        unfold Reader.finish at h
        split at h
        · rename_i done point _ awaited
          cases h
          have done := legal.awaited
          rw [awaited] at done
          exact done
        · cases h

/-- Expressions and their written forms. An expression is read from its written form if and only if
it is legal, that is, if its names and keys are not empty and hold no blanks, marks or braces.
Everything that is read from any source is legal, so it is read again from its written form, and
two expressions that were read are equal if and only if they are written alike. -/
theorem parse_text_iff (e : Expr) :
    (parse e.text.toList = .ok e ↔ e.IsLegal) ∧
    (∀ cs, parse cs = .ok e → e.IsLegal ∧ parse e.text.toList = .ok e) ∧
    ∀ f : Expr, e.IsLegal → f.IsLegal → (e.text = f.text ↔ e = f) := by
  refine ⟨⟨isLegal_of_parse, parse_text⟩, ?_, ?_⟩
  · intro cs h
    have legal := isLegal_of_parse h
    exact ⟨legal, parse_text legal⟩
  · intro f he hf
    refine ⟨fun same => ?_, fun same => same ▸ rfl⟩
    have read := parse_text he
    rw [same, parse_text hf] at read
    exact (Except.ok.inj read).symm

end Expr

end Stencil
