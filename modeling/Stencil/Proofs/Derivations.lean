-- The grammar of expressions. A derivation is a primary with its postfixes, as the grammar has
-- them. A text is read as an expression if and only if its lexemes have a derivation; that is then
-- the only one, and what is read is the expression that it denotes.
import Stencil.Proofs.Written
import Stencil.Template.Tree

namespace Stencil

/-! ## The lexemes of a text -/

namespace Lexeme

/-- The row of lexemes that a text is split into. Blanks only separate, a mark stands for itself,
and a name is a run of other characters that goes on as long as it can. -/
inductive Splits : List Char → List Lexeme → Prop
  | nil : Splits [] []
  | blank {c : Char} {cs : List Char} {ls : List Lexeme} : Text.isBlank c = true → Splits cs ls →
    Splits (c :: cs) ls
  | mark {c : Char} {m : Lexeme} {cs : List Char} {ls : List Lexeme} : ofMark? c = some m →
    Splits cs ls → Splits (c :: cs) (m :: ls)
  | name {n : String} {cs : List Char} {ls : List Lexeme} : IsName n →
    (∀ c ∈ cs.head?, isNameChar c = false) → Splits cs ls →
    Splits (n.toList ++ cs) (.name n :: ls)

variable {cs : List Char} {ls : List Lexeme} {c : Char}

theorem not_isBlank_of_mark {m : Lexeme} (h : ofMark? c = some m) : Text.isBlank c = false := by
  unfold ofMark? at h
  split at h
  · rfl
  · rfl
  · rfl
  · rfl
  · cases h

theorem Splits.spell (h : Splits cs ls) : Spell ls cs := by
  induction h with
  | nil => exact spell_nil
  | blank hb _ ih => exact ih.blank hb
  | mark hm _ ih => exact ih.mark hm (not_isBlank_of_mark hm)
  | name hn ends _ ih => exact ih.name hn ends

theorem Splits.blanks {bs : List Char} (h : Splits cs ls)
    (hb : ∀ c ∈ bs, Text.isBlank c = true) : Splits (bs ++ cs) ls := by
  induction bs with
  | nil => exact h
  | cons b bs ih =>
    apply Splits.blank (hb b List.mem_cons_self)
    exact ih fun c hc => hb c (List.mem_cons_of_mem b hc)

theorem splits_of_solid {rest : List Char} (hc : cs.dropWhile Text.isBlank = c :: rest)
    (h : Splits (c :: rest) ls) : Splits cs ls := by
  rw [← List.takeWhile_append_dropWhile (p := Text.isBlank) (l := cs), hc]
  exact h.blanks fun b hb => List.mem_takeWhile_imp hb

theorem splits_of_scan {offset : Nat} (h : scan offset cs = .ok ls) : Splits cs ls := by
  fun_induction scan offset cs generalizing ls with
  | case1 offset cs hc =>
    cases h
    rw [← List.takeWhile_append_dropWhile (p := Text.isBlank) (l := cs), hc]
    exact Splits.nil.blanks fun b hb => List.mem_takeWhile_imp hb
  | case2 offset cs c rest hc =>
    rename_i mark hm ih
    obtain ⟨more, hs, rfl⟩ := map_eq_ok h
    exact splits_of_solid hc (.mark hm (ih hs))
  | case3 offset cs c rest hc =>
    rename_i hname _ tail ih
    obtain ⟨more, hs, rfl⟩ := map_eq_ok h
    apply splits_of_solid hc
    have split : c :: rest =
        (String.ofList (c :: tail)).toList ++ rest.dropWhile isNameChar := by
      rw [String.toList_ofList, List.cons_append, List.takeWhile_append_dropWhile]
    rw [split]
    refine .name ⟨by simp, ?_⟩ ?_ (ih hs)
    · intro d hd
      rw [String.toList_ofList] at hd
      rcases List.mem_cons.1 hd with rfl | hd
      · exact hname
      · exact List.mem_takeWhile_imp hd
    · intro d hd
      have stops := List.head?_dropWhile_not isNameChar rest
      rw [Option.mem_def.1 hd] at stops
      simpa using stops
  | case4 => cases h

theorem Splits.unique {ls' : List Lexeme} (h : Splits cs ls) (h' : Splits cs ls') : ls = ls' :=
  Except.ok.inj ((h.spell 0).symm.trans (h'.spell 0))

/-- What is neither a blank nor a mark and stands in no name stands in no text that has lexemes. -/
theorem Splits.not_mem {b : Char} (h : Splits cs ls) (blank : Text.isBlank b = false)
    (mark : ofMark? b = none) (name : isNameChar b = false) : b ∉ cs := by
  induction h with
  | nil => exact List.not_mem_nil
  | blank hb _ ih =>
    intro hmem
    rcases List.mem_cons.1 hmem with rfl | hmem
    · rw [hb] at blank
      cases blank
    · exact ih hmem
  | mark hm _ ih =>
    intro hmem
    rcases List.mem_cons.1 hmem with rfl | hmem
    · rw [hm] at mark
      cases mark
    · exact ih hmem
  | name hn _ _ ih =>
    intro hmem
    rcases List.mem_append.1 hmem with hmem | hmem
    · rw [hn.2 _ hmem] at name
      cases name
    · exact ih hmem

theorem eq_brace_of_stray (blank : Text.isBlank c = false) (mark : ofMark? c = none)
    (name : isNameChar c = false) : c = '\x7b' ∨ c = '\x7d' := by
  unfold isNameChar at name
  by_contra other
  rw [not_or] at other
  simp [blank, mark, other] at name

/-- A text without braces has lexemes. -/
theorem exists_splits (opening : '\x7b' ∉ cs) (closing : '\x7d' ∉ cs) : ∃ ls, Splits cs ls := by
  have scans (offset : Nat) : ∃ ls, scan offset cs = .ok ls := by
    have solid {cs rest : List Char} {c : Char} (hc : cs.dropWhile Text.isBlank = c :: rest) :
        c :: rest ⊆ cs := by
      rw [← hc]
      exact (List.dropWhile_suffix Text.isBlank).subset
    fun_induction scan offset cs with
    | case1 => exact ⟨[], rfl⟩
    | case2 offset cs c rest hc =>
      rename_i mark hm ih
      have inside : rest ⊆ cs := fun _ h => solid hc (List.mem_cons_of_mem c h)
      obtain ⟨ls, hs⟩ := ih (fun h => opening (inside h)) fun h => closing (inside h)
      exact ⟨mark :: ls, by rw [hs]; rfl⟩
    | case3 offset cs c rest hc =>
      rename_i tail ih
      have inside : rest ⊆ cs := fun _ h => solid hc (List.mem_cons_of_mem c h)
      have behind : rest.dropWhile isNameChar ⊆ cs :=
        fun _ h => inside ((List.dropWhile_suffix isNameChar).subset h)
      obtain ⟨ls, hs⟩ := ih (fun h => opening (behind h)) fun h => closing (behind h)
      exact ⟨_, by rw [hs]; rfl⟩
    | case4 offset cs c rest hc =>
      rename_i hm hname
      have first : c ∈ cs := solid hc List.mem_cons_self
      have blank : Text.isBlank c = false := by
        have stops := List.head?_dropWhile_not Text.isBlank cs
        rw [hc] at stops
        simpa using stops
      rcases eq_brace_of_stray blank hm (by simpa using hname) with rfl | rfl
      · exact absurd first opening
      · exact absurd first closing
  obtain ⟨ls, h⟩ := scans 0
  exact ⟨ls, splits_of_scan h⟩

end Lexeme

namespace Expr

open Lexeme (Splits)

/-! ## The grammar -/

/-- What an expression begins with: a name, a point, or a point with a key. -/
inductive Primary where
  | name (name : String)
  | point
  | pointKey (key : String)

mutual

/-- How the grammar makes an expression: a primary, and any number of postfixes behind it. -/
inductive Derivation where
  | mk (primary : Primary) (postfixes : List Postfix)

/-- What may stand behind an expression: a key, or one or more arguments in parentheses. -/
inductive Postfix where
  | key (key : String)
  | call (first : Derivation) (rest : List Derivation)

end

def Primary.lexemes : Primary → List Lexeme
  | .name n => [.name n]
  | .point => [.dot]
  | .pointKey k => [.dot, .name k]

mutual

/-- The lexemes that are derived. -/
def Derivation.lexemes : Derivation → List Lexeme
  | .mk p qs => p.lexemes ++ postfixLexemes qs

def Postfix.lexemes : Postfix → List Lexeme
  | .key k => [.dot, .name k]
  | .call a rest => .opening :: a.lexemes ++ argumentLexemes rest ++ [.closing]

def postfixLexemes : List Postfix → List Lexeme
  | [] => []
  | q :: qs => q.lexemes ++ postfixLexemes qs

/-- The lexemes of the arguments behind the first one, each with the comma in front of it. -/
def argumentLexemes : List Derivation → List Lexeme
  | [] => []
  | a :: rest => .comma :: a.lexemes ++ argumentLexemes rest

end

def Primary.expr : Primary → Expr
  | .name n => .name n
  | .point => .top
  | .pointKey k => .key .top k

mutual

/-- The expression that is denoted: the postfixes apply to the primary from left to right. -/
def Derivation.expr : Derivation → Expr
  | .mk p qs => applyPostfixes p.expr qs

def Postfix.apply (e : Expr) : Postfix → Expr
  | .key k => .key e k
  | .call a rest => .call e a.expr (argumentExprs rest)

def applyPostfixes (e : Expr) : List Postfix → Expr
  | [] => e
  | q :: qs => applyPostfixes (q.apply e) qs

def argumentExprs : List Derivation → List Expr
  | [] => []
  | a :: rest => a.expr :: argumentExprs rest

end

theorem argumentExprs_eq_map (l : List Derivation) : argumentExprs l = l.map Derivation.expr := by
  induction l with
  | nil => rfl
  | cons a rest ih => simp only [argumentExprs, ih, List.map_cons]

theorem postfixLexemes_append (qs qs' : List Postfix) :
    postfixLexemes (qs ++ qs') = postfixLexemes qs ++ postfixLexemes qs' := by
  induction qs with
  | nil => rfl
  | cons q qs ih => simp [postfixLexemes, ih]

theorem applyPostfixes_append (e : Expr) (qs qs' : List Postfix) :
    applyPostfixes e (qs ++ qs') = applyPostfixes (applyPostfixes e qs) qs' := by
  induction qs generalizing e with
  | nil => rfl
  | cons q qs ih => simp [applyPostfixes, ih]

namespace Derivation

/-- The derivation with one more postfix. -/
def snoc : Derivation → Postfix → Derivation
  | .mk p qs, q => .mk p (qs ++ [q])

theorem lexemes_snoc (d : Derivation) (q : Postfix) :
    (d.snoc q).lexemes = d.lexemes ++ q.lexemes := by
  obtain ⟨p, qs⟩ := d
  simp [snoc, lexemes, postfixLexemes_append, postfixLexemes]

theorem expr_snoc (d : Derivation) (q : Postfix) : (d.snoc q).expr = q.apply d.expr := by
  obtain ⟨p, qs⟩ := d
  simp [snoc, expr, applyPostfixes_append, applyPostfixes]

/-- Whether a derivation is a point that the next lexeme may make a key of. -/
def isPoint : Derivation → Bool
  | .mk .point [] => true
  | _ => false

end Derivation

/-! ## What is derived is read -/

open Reader (step)

mutual

/-- Where an expression is awaited, what is derived is read as the expression that it denotes. -/
theorem foldlM_derivation (d : Derivation) (calls : List OpenCall) (opened : Bool)
    (ls : List Lexeme) :
    (d.lexemes ++ ls).foldlM step ⟨calls, .expression opened⟩ =
      ls.foldlM step ⟨calls, .more d.expr d.isPoint⟩ := by
  obtain ⟨p, qs⟩ := d
  rw [Derivation.lexemes, List.append_assoc]
  cases p with
  | name n =>
    rw [Primary.lexemes, List.cons_append, foldlM_ok_cons rfl, List.nil_append,
      foldlM_postfixes qs]
    rfl
  | point =>
    rw [Primary.lexemes, List.cons_append, foldlM_ok_cons rfl, List.nil_append,
      foldlM_postfixes qs]
    cases qs <;> rfl
  | pointKey k =>
    rw [Primary.lexemes, List.cons_append, foldlM_ok_cons rfl, List.cons_append,
      foldlM_ok_cons rfl, List.nil_append, foldlM_postfixes qs]
    rfl

theorem foldlM_postfixes (qs : List Postfix) (calls : List OpenCall) (e : Expr) (point : Bool)
    (ls : List Lexeme) :
    (postfixLexemes qs ++ ls).foldlM step ⟨calls, .more e point⟩ =
      ls.foldlM step ⟨calls, .more (applyPostfixes e qs) (point && qs.isEmpty)⟩ := by
  cases qs with
  | nil =>
    rw [List.isEmpty_nil, Bool.and_true]
    rfl
  | cons q qs =>
    rw [postfixLexemes, List.append_assoc, foldlM_postfix q, foldlM_postfixes qs,
      List.isEmpty_cons, Bool.and_false]
    rfl

theorem foldlM_postfix (q : Postfix) (calls : List OpenCall) (e : Expr) (point : Bool)
    (ls : List Lexeme) :
    (q.lexemes ++ ls).foldlM step ⟨calls, .more e point⟩ =
      ls.foldlM step ⟨calls, .more (q.apply e) false⟩ := by
  cases q with
  | key k =>
    rw [Postfix.lexemes, List.cons_append, foldlM_ok_cons rfl]
    exact foldlM_ok_cons rfl ls
  | call a rest =>
    rw [Postfix.lexemes, List.append_assoc, List.append_assoc, List.cons_append,
      foldlM_ok_cons rfl, foldlM_derivation a, List.singleton_append, foldlM_arguments rest]
    rfl

/-- The arguments behind one that has been read complete the call. -/
theorem foldlM_arguments (rest : List Derivation) (calls : List OpenCall) (f : Expr)
    (arguments : List Expr) (done : Expr) (point : Bool) (ls : List Lexeme) :
    (argumentLexemes rest ++ .closing :: ls).foldlM step
        ⟨⟨f, arguments⟩ :: calls, .more done point⟩ =
      ls.foldlM step
        ⟨calls, .more (callWith f (arguments ++ done :: argumentExprs rest)) false⟩ := by
  cases rest with
  | nil =>
    rw [argumentLexemes, List.nil_append, foldlM_ok_cons rfl, close_eq_callWith]
    rfl
  | cons a rest =>
    rw [argumentLexemes, List.append_assoc, List.cons_append, foldlM_ok_cons rfl,
      foldlM_derivation a, foldlM_arguments rest, List.append_assoc]
    rfl

end

theorem ofLexemes_derived (d : Derivation) : ofLexemes d.lexemes = .ok d.expr := by
  have read := foldlM_derivation d [] false []
  rw [List.append_nil] at read
  have some : d.lexemes.isEmpty = false := by
    obtain ⟨p, qs⟩ := d
    cases p <;> rfl
  rw [ofLexemes, some, if_neg Bool.false_ne_true, Reader.start, read]
  rfl

/-! ## What is read is derived -/

/-- An open call, with derivations of the filter and of the arguments read so far. -/
structure OpenDerivation where
  filter : Derivation
  arguments : List Derivation

namespace OpenDerivation

def call (o : OpenDerivation) : OpenCall := ⟨o.filter.expr, o.arguments.map Derivation.expr⟩

def lexemes (o : OpenDerivation) : List Lexeme :=
  o.filter.lexemes ++ .opening :: o.arguments.flatMap fun a => a.lexemes ++ [.comma]

/-- The lexemes of open calls, of which the innermost comes first. -/
def lexemesOf : List OpenDerivation → List Lexeme
  | [] => []
  | o :: outer => lexemesOf outer ++ o.lexemes

/-- The open call with one more argument and the comma behind it. -/
def extend (o : OpenDerivation) (d : Derivation) : OpenDerivation :=
  { o with arguments := o.arguments ++ [d] }

theorem lexemes_extend (o : OpenDerivation) (d : Derivation) :
    (o.extend d).lexemes = o.lexemes ++ d.lexemes ++ [.comma] := by
  simp [extend, lexemes]

/-- The call, closed behind its last argument. -/
def close (o : OpenDerivation) (last : Derivation) : Derivation :=
  match o.arguments with
  | [] => o.filter.snoc (.call last [])
  | first :: rest => o.filter.snoc (.call first (rest ++ [last]))

theorem flatMap_comma (first last : Derivation) (rest : List Derivation) :
    (first :: rest).flatMap (fun a => a.lexemes ++ [.comma]) ++ last.lexemes =
      first.lexemes ++ argumentLexemes (rest ++ [last]) := by
  induction rest generalizing first with
  | nil => simp [argumentLexemes]
  | cons a rest ih =>
    rw [List.flatMap_cons, List.append_assoc, ih]
    simp [argumentLexemes]

theorem lexemes_close (o : OpenDerivation) (last : Derivation) :
    (o.close last).lexemes = o.lexemes ++ last.lexemes ++ [.closing] := by
  obtain ⟨filter, arguments⟩ := o
  cases arguments with
  | nil => simp [close, lexemes, Derivation.lexemes_snoc, Postfix.lexemes, argumentLexemes]
  | cons first rest =>
    have inside := flatMap_comma first last rest
    simp only [close, lexemes, Derivation.lexemes_snoc, Postfix.lexemes, List.append_assoc,
      List.cons_append] at inside ⊢
    rw [← List.append_assoc _ last.lexemes, inside, List.append_assoc]

theorem expr_close (o : OpenDerivation) (last : Derivation) :
    (o.close last).expr = o.call.close last.expr := by
  obtain ⟨filter, arguments⟩ := o
  cases arguments with
  | nil => rw [close, Derivation.expr_snoc]; rfl
  | cons first rest =>
    simp [close, call, OpenCall.close, Derivation.expr_snoc, Postfix.apply, argumentExprs_eq_map]

end OpenDerivation

namespace Reader

open OpenDerivation (lexemesOf)

/-- The reader holds what is derived with the lexemes that have been read. -/
inductive Holds : Reader → List Lexeme → Prop
  | expression (opened : Bool) (os : List OpenDerivation) :
    Holds ⟨os.map (·.call), .expression opened⟩ (lexemesOf os)
  | keyOf (os : List OpenDerivation) (d : Derivation) :
    Holds ⟨os.map (·.call), .keyOf d.expr⟩ (lexemesOf os ++ d.lexemes ++ [.dot])
  | more (os : List OpenDerivation) (d : Derivation) (point : Bool) :
    (point = true → d = .mk .point []) →
    Holds ⟨os.map (·.call), .more d.expr point⟩ (lexemesOf os ++ d.lexemes)

/-- A lexeme that is accepted continues what is derived. -/
theorem Holds.step {r r' : Reader} {l : Lexeme} {ls : List Lexeme} (h : r.Holds ls)
    (ok : r.step l = .ok r') : r'.Holds (ls ++ [l]) := by
  cases h with
  | expression opened os =>
    cases l with
    | name n =>
      cases ok
      exact .more os (.mk (.name n) []) false nofun
    | dot =>
      cases ok
      exact .more os (.mk .point []) true fun _ => rfl
    | comma | opening | closing => cases ok
  | keyOf os d =>
    cases l with
    | name k =>
      cases ok
      have held := Holds.more os (d.snoc (.key k)) false nofun
      rw [d.lexemes_snoc, d.expr_snoc] at held
      simpa [Postfix.lexemes, Postfix.apply] using held
    | dot | comma | opening | closing => cases ok
  | more os d point bare =>
    cases l with
    | name k =>
      cases point with
      | true =>
        cases ok
        rw [bare rfl, List.append_assoc]
        exact .more os (.mk (.pointKey k) []) false nofun
      | false => cases ok
    | dot =>
      cases ok
      exact .keyOf os d
    | opening =>
      cases ok
      have held := Holds.expression true (⟨d, []⟩ :: os)
      simpa [lexemesOf, OpenDerivation.lexemes, OpenDerivation.call] using held
    | comma =>
      cases os with
      | nil => cases ok
      | cons o outer =>
        cases ok
        have held := Holds.expression false (o.extend d :: outer)
        rw [lexemesOf, o.lexemes_extend] at held
        simpa [lexemesOf, OpenDerivation.extend, OpenDerivation.call] using held
    | closing =>
      cases os with
      | nil => cases ok
      | cons o outer =>
        cases ok
        have held := Holds.more outer (o.close d) false nofun
        rw [o.lexemes_close, o.expr_close] at held
        simpa [lexemesOf] using held

theorem Holds.steps {r r' : Reader} {ls read : List Lexeme} (h : r.Holds read)
    (ok : ls.foldlM Reader.step r = .ok r') : r'.Holds (read ++ ls) := by
  induction ls generalizing r read with
  | nil =>
    cases ok
    rwa [List.append_nil]
  | cons l ls ih =>
    rw [List.foldlM_cons] at ok
    cases hs : r.step l with
    | error flaw =>
      rw [hs] at ok
      cases ok
    | ok next =>
      rw [hs] at ok
      have later := ih (h.step hs) ok
      rwa [List.append_assoc, List.singleton_append] at later

end Reader

theorem exists_derivation {ls : List Lexeme} {e : Expr} (h : ofLexemes ls = .ok e) :
    ∃ d : Derivation, d.lexemes = ls ∧ d.expr = e := by
  unfold ofLexemes at h
  split at h
  · cases h
  · cases hf : ls.foldlM Reader.step Reader.start with
    | error flaw =>
      rw [hf] at h
      cases h
    | ok r =>
      rw [hf] at h
      change r.finish = .ok e at h
      have held : r.Holds ls := (Reader.Holds.expression false []).steps hf
      cases held with
      | expression opened os => cases os <;> cases h
      | keyOf os d => cases os <;> cases h
      | more os d point _ =>
        cases os with
        | nil =>
          cases h
          exact ⟨d, rfl, rfl⟩
        | cons o outer => cases h

/-! ## Derivations are unique -/

/-- What may stand behind a whole expression. -/
def Ends (s : List Lexeme) : Prop := ∀ l ∈ s.head?, l = .comma ∨ l = .closing

theorem ends_arguments (rest : List Derivation) (s : List Lexeme) :
    Ends (argumentLexemes rest ++ .closing :: s) := by
  cases rest with
  | nil => simp [Ends, argumentLexemes]
  | cons a rest => simp [Ends, argumentLexemes]

/-- No name stands behind a primary. -/
theorem postfixLexemes_ne_name {qs : List Postfix} {s ls : List Lexeme} {n : String} (hs : Ends s) :
    postfixLexemes qs ++ s ≠ .name n :: ls := by
  intro h
  cases qs with
  | nil =>
    rw [postfixLexemes, List.nil_append] at h
    subst h
    rcases hs _ rfl with same | same
    · cases same
    · cases same
  | cons q qs => cases q <;> cases h

theorem not_ends_lexemes (q : Postfix) (s : List Lexeme) : ¬ Ends (q.lexemes ++ s) := by
  intro h
  cases q with
  | key k => rcases h .dot rfl with same | same <;> cases same
  | call a rest => rcases h .opening rfl with same | same <;> cases same

mutual

/-- Where two derivations give the same lexemes in front of what may stand behind an expression,
they are the same. -/
theorem Derivation.unique (d d' : Derivation) {s s' : List Lexeme} (hs : Ends s) (hs' : Ends s')
    (h : d.lexemes ++ s = d'.lexemes ++ s') : d = d' ∧ s = s' := by
  obtain ⟨p, qs⟩ := d
  obtain ⟨p', qs'⟩ := d'
  simp only [Derivation.lexemes, List.append_assoc] at h
  obtain ⟨rfl, behind⟩ : p = p' ∧ postfixLexemes qs ++ s = postfixLexemes qs' ++ s' := by
    cases p <;> cases p' <;>
      simp only [Primary.lexemes, List.cons_append, List.nil_append, List.cons.injEq,
        Lexeme.name.injEq, reduceCtorEq, false_and, true_and] at h
    · exact ⟨congrArg Primary.name h.1, h.2⟩
    · exact ⟨rfl, h⟩
    · exact absurd h (postfixLexemes_ne_name hs)
    · exact absurd h.symm (postfixLexemes_ne_name hs')
    · exact ⟨congrArg Primary.pointKey h.1, h.2⟩
  obtain ⟨rfl, same⟩ := postfixes_unique qs qs' hs hs' behind
  exact ⟨rfl, same⟩
termination_by structural d

theorem postfixes_unique (qs qs' : List Postfix) {s s' : List Lexeme} (hs : Ends s) (hs' : Ends s')
    (h : postfixLexemes qs ++ s = postfixLexemes qs' ++ s') : qs = qs' ∧ s = s' := by
  cases qs with
  | nil =>
    cases qs' with
    | nil => exact ⟨rfl, h⟩
    | cons q' qs' =>
      rw [postfixLexemes, postfixLexemes, List.nil_append, List.append_assoc] at h
      exact absurd (h ▸ hs) (not_ends_lexemes q' _)
  | cons q qs =>
    cases qs' with
    | nil =>
      rw [postfixLexemes, postfixLexemes, List.nil_append, List.append_assoc] at h
      exact absurd (h ▸ hs') (not_ends_lexemes q _)
    | cons q' qs' =>
      rw [postfixLexemes, postfixLexemes, List.append_assoc, List.append_assoc] at h
      obtain ⟨rfl, behind⟩ := postfix_unique q q' h
      obtain ⟨rfl, same⟩ := postfixes_unique qs qs' hs hs' behind
      exact ⟨rfl, same⟩
termination_by structural qs

theorem postfix_unique (q q' : Postfix) {s s' : List Lexeme}
    (h : q.lexemes ++ s = q'.lexemes ++ s') : q = q' ∧ s = s' := by
  cases q with
  | key k =>
    cases q' with
    | key k' =>
      cases h
      exact ⟨rfl, rfl⟩
    | call a' rest' => cases h
  | call a rest =>
    cases q' with
    | key k' => cases h
    | call a' rest' =>
      simp only [Postfix.lexemes, List.cons_append, List.append_assoc, List.cons.injEq,
        true_and] at h
      obtain ⟨rfl, behind⟩ := a.unique a' (ends_arguments rest s) (ends_arguments rest' s') h
      obtain ⟨rfl, same⟩ := arguments_unique rest rest' behind
      exact ⟨rfl, same⟩
termination_by structural q

theorem arguments_unique (rest rest' : List Derivation) {s s' : List Lexeme}
    (h : argumentLexemes rest ++ .closing :: s = argumentLexemes rest' ++ .closing :: s') :
    rest = rest' ∧ s = s' := by
  cases rest with
  | nil =>
    cases rest' with
    | nil =>
      cases h
      exact ⟨rfl, rfl⟩
    | cons a' rest' => cases h
  | cons a rest =>
    cases rest' with
    | nil => cases h
    | cons a' rest' =>
      simp only [argumentLexemes, List.cons_append, List.append_assoc, List.cons.injEq,
        true_and] at h
      obtain ⟨rfl, behind⟩ := a.unique a' (ends_arguments rest s) (ends_arguments rest' s') h
      obtain ⟨rfl, same⟩ := arguments_unique rest rest' behind
      exact ⟨rfl, same⟩
termination_by structural rest

end

/-! ## Reading follows the grammar -/

/-- A text is read as an expression if and only if it holds no brace and its lexemes are derived
from the grammar, where the derivation denotes the expression. The lexemes of a text without braces
are unique, and so is the derivation of a row of lexemes. Any other text is refused, as an invalid
expression at the place where it stands. -/
theorem parse_eq_ok_iff_derived (cs : List Char) :
    (∀ e, parse cs = .ok e ↔ '\x7b' ∉ cs ∧ '\x7d' ∉ cs ∧
      ∃ d : Derivation, Splits cs d.lexemes ∧ d.expr = e) ∧
    ('\x7b' ∉ cs ∧ '\x7d' ∉ cs → ∃! ls, Splits cs ls) ∧
    (∀ d d' : Derivation, d.lexemes = d'.lexemes → d = d') ∧
    ((¬ ∃ d : Derivation, '\x7b' ∉ cs ∧ '\x7d' ∉ cs ∧ Splits cs d.lexemes) → ∀ place,
      ∃ flaw, Template.Builder.expression cs place = .error ⟨.expression cs flaw, place⟩) := by
  have reads (e : Expr) : parse cs = .ok e ↔ '\x7b' ∉ cs ∧ '\x7d' ∉ cs ∧
      ∃ d : Derivation, Splits cs d.lexemes ∧ d.expr = e := by
    constructor
    · intro h
      unfold parse at h
      cases hs : Lexeme.scan 0 cs with
      | error offset =>
        rw [hs] at h
        cases h
      | ok ls =>
        rw [hs] at h
        obtain ⟨d, rfl, rfl⟩ := exists_derivation h
        have splits := Lexeme.splits_of_scan hs
        exact ⟨splits.not_mem rfl rfl rfl, splits.not_mem rfl rfl rfl, d, splits, rfl⟩
    · rintro ⟨_, _, d, splits, rfl⟩
      rw [parse, splits.spell 0]
      exact ofLexemes_derived d
  refine ⟨reads, ?_, ?_, ?_⟩
  · rintro ⟨opening, closing⟩
    obtain ⟨ls, splits⟩ := Lexeme.exists_splits opening closing
    exact ⟨ls, splits, fun ls' splits' => splits'.unique splits⟩
  · intro d d' same
    have empty : Ends [] := by simp [Ends]
    exact (d.unique d' empty empty (congrArg (· ++ []) same)).1
  · intro none place
    unfold Template.Builder.expression
    cases hp : parse cs with
    | error flaw => exact ⟨flaw, rfl⟩
    | ok e =>
      obtain ⟨opening, closing, d, splits, _⟩ := (reads e).1 hp
      exact absurd ⟨d, opening, closing, splits⟩ none

/-- A point in front of a point gives the same expression as one point, by another derivation. -/
example : parse "..key".toList = .ok (.key .top "key") ∧
    parse ".key".toList = .ok (.key .top "key") ∧
    parse "f()".toList = .error .noArgument := by decide +kernel

end Expr

end Stencil
