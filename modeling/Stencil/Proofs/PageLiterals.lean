-- Literals in the scripts of pages. A tag of a page escapes what the filter for scripts has made of
-- a text, and a script does not read the entities of a page. The two only meet in the quote, whose
-- escape sequence loses its second character, so a literal spells its text if it has no quotes.
import Stencil.Proofs.Batches
import Stencil.Proofs.Callees
import Stencil.Proofs.Chains
import Stencil.Proofs.Layers
import Stencil.Proofs.StringLiterals

namespace Stencil

namespace Text

open Data.Json (hexNumber? shortEscape?)

/-! ## What a script reads -/

/-- The code units that a script reads for a backslash and a character. Digits and line breaks, and
letters before a number, begin longer sequences, which are not read here. Any other character
without a meaning of its own stands for itself. -/
def scriptEscape? (c : Char) : Option (List Nat) :=
  match shortEscape? c with
  | some n => some [n]
  | none =>
    if c = 'v' then some [11]
    else if c.isDigit || c ∈ ['u', 'x', '\n', '\r', '\u2028', '\u2029'] then none
    else some (codeUnits c)

/-- The code units that a script reads in the body of a literal. -/
def scriptUnits? : List Char → Option (List Nat)
  | [] => some []
  | '\\' :: 'u' :: a :: b :: c :: d :: rest => do
    return (← hexNumber? [a, b, c, d]) :: (← scriptUnits? rest)
  | '\\' :: c :: rest => do return (← scriptEscape? c) ++ (← scriptUnits? rest)
  | c :: rest =>
    if c ∈ ['\\', '"', '\'', '\n', '\r'] then none
    else do return codeUnits c ++ (← scriptUnits? rest)

/-- The text that a script reads in the body of a literal. -/
def scriptText? (body : String) : Option String := do
  return String.ofList (← ofUnits? (← scriptUnits? body.toList))

theorem scriptUnits?_self {c : Char} (h : c ∉ ['\\', '"', '\'', '\n', '\r']) (rest : List Char) :
    scriptUnits? (c :: rest) = (scriptUnits? rest).map (codeUnits c ++ ·) := by
  have plain : c ≠ '\\' := fun same => h (same ▸ List.mem_cons_self)
  rw [scriptUnits?, if_neg h]
  · cases scriptUnits? rest <;> rfl
  · exact fun _ _ _ _ _ same => absurd same plain
  · exact fun _ _ same => absurd same plain

theorem scriptUnits?_number {a b c d : Char} {n : Nat} (h : hexNumber? [a, b, c, d] = some n)
    (rest : List Char) :
    scriptUnits? ('\\' :: 'u' :: a :: b :: c :: d :: rest) =
      (scriptUnits? rest).map ([n] ++ ·) := by
  rw [scriptUnits?, h]
  cases scriptUnits? rest <;> rfl

theorem scriptUnits?_escape {c : Char} {us : List Nat} (h : scriptEscape? c = some us)
    (rest : List Char) :
    scriptUnits? ('\\' :: c :: rest) = (scriptUnits? rest).map (us ++ ·) := by
  rw [scriptUnits?, h]
  · cases scriptUnits? rest <;> rfl
  · rintro _ _ _ _ _ rfl
    cases h

/-- A script reads a literal as it is meant, and then goes on. -/
theorem scriptUnits?_append {cs rest : List Char} {us : List Nat} (h : literalUnits? cs = some us) :
    scriptUnits? (cs ++ rest) = (scriptUnits? rest).map (us ++ ·) := by
  fun_induction literalUnits? cs generalizing us with
  | case1 =>
    cases h
    simp
  | case2 a b c d cs ih =>
    obtain ⟨n, number, h⟩ := Option.bind_eq_some_iff.1 h
    obtain ⟨vs, units, same⟩ := Option.bind_eq_some_iff.1 h
    cases same
    simp only [List.cons_append, scriptUnits?_number number, ih units, Option.map_map]
    rfl
  | case3 c cs short ih =>
    obtain ⟨n, escape, h⟩ := Option.bind_eq_some_iff.1 h
    obtain ⟨vs, units, same⟩ := Option.bind_eq_some_iff.1 h
    cases same
    have reads : scriptEscape? c = some [n] := by
      unfold scriptEscape?
      rw [escape]
    simp only [List.cons_append, scriptUnits?_escape reads, ih units, Option.map_map]
    rfl
  | case4 c cs => cases h
  | case5 c cs number short plain ih =>
    obtain ⟨vs, units, same⟩ := Option.bind_eq_some_iff.1 h
    cases same
    simp only [List.cons_append, scriptUnits?_self plain, ih units, Option.map_map]
    simp [Function.comp_def]

/-! ## Escaping for a script and for a page -/

/-- Of the characters in a text that is escaped for a script, a page only changes quotes. -/
theorem markupChar_of_harmless {c : Char} (h : IsHarmless c) :
    markupChar c = if c = '"' then "&#34;".toList else [c] := by
  have other : c ≠ '\'' ∧ c ≠ '<' ∧ c ≠ '>' ∧ c ≠ '&' := by
    simpa only [List.mem_cons, List.not_mem_nil, or_false, not_or] using h.2.2
  unfold markupChar
  split
  · exact absurd rfl other.2.2.2
  · exact absurd rfl other.2.1
  · exact absurd rfl other.2.2.1
  · rfl
  · exact absurd rfl other.1
  · rename_i quote _
    rw [if_neg quote]

/-- Escaping for a page puts the entity in the place of each quote of a text that is escaped for a
script. -/
theorem escapeMarkup_escapeScript (s : String) :
    (escapeMarkup (escapeScript s)).toList =
      replace '"' "&#34;".toList (escapeScript s).toList := by
  rw [escapeMarkup, String.toList_ofList]
  unfold replace
  refine List.flatMap_congr fun c hc => markupChar_of_harmless ?_
  rw [escapeScript, String.toList_ofList] at hc
  obtain ⟨d, _, hc⟩ := List.mem_flatMap.1 hc
  exact isHarmless_scriptChar hc

/-- A script reads a character as itself, but a quote as its entity: the backslash in front of the
entity escapes an ampersand, which stands for itself. -/
theorem scriptUnits?_scriptChar (c : Char) (rest : List Char) :
    scriptUnits? (replace '"' "&#34;".toList (scriptChar c) ++ rest) =
      (scriptUnits? rest).map ((replace '"' "&#34;".toList [c]).flatMap codeUnits ++ ·) := by
  by_cases quote : c = '"'
  · subst quote
    show scriptUnits? ('\\' :: '&' :: '#' :: '3' :: '4' :: ';' :: rest) = _
    rw [scriptUnits?_escape rfl, scriptUnits?_self (by decide), scriptUnits?_self (by decide),
      scriptUnits?_self (by decide), scriptUnits?_self (by decide)]
    simp only [Option.map_map]
    rfl
  · have absent : '"' ∉ scriptChar c := fun member => quote (quote_of_mem_scriptChar member)
    have units := literalUnits?_scriptChar c []
    rw [List.append_nil, literalUnits?, Option.map_some, List.append_nil] at units
    have single : '"' ∉ [c] := fun member => quote (List.mem_singleton.1 member).symm
    rw [replace_of_not_mem absent, replace_of_not_mem single, scriptUnits?_append units,
      List.flatMap_singleton]

theorem scriptUnits?_flatMap (cs : List Char) :
    scriptUnits? (cs.flatMap fun c => replace '"' "&#34;".toList (scriptChar c)) =
      some ((replace '"' "&#34;".toList cs).flatMap codeUnits) := by
  induction cs with
  | nil => rfl
  | cons c cs ih =>
    have front : replace '"' "&#34;".toList (c :: cs) =
        replace '"' "&#34;".toList [c] ++ replace '"' "&#34;".toList cs := by
      simp [replace]
    rw [List.flatMap_cons, scriptUnits?_scriptChar, ih, front, List.flatMap_append,
      Option.map_some]

/-- In a page a script reads the text with the entity of the quote in the place of each quote. -/
theorem scriptText?_in_page (s : String) :
    scriptText? (escapeMarkup (escapeScript s)) =
      some (String.ofList (replace '"' "&#34;".toList s.toList)) := by
  have written : (escapeScript s).toList = s.toList.flatMap scriptChar := String.toList_ofList
  have units := scriptUnits?_flatMap s.toList
  rw [← replace_flatMap, ← written, ← escapeMarkup_escapeScript] at units
  simp [scriptText?, units, ofUnits?_flatMap]

/-- Replacing a character changes a text just if it is there. -/
theorem replace_eq_self_iff {c : Char} {other cs : List Char} (h : c ∉ other) :
    replace c other cs = cs ↔ c ∉ cs := by
  constructor
  · intro same member
    rw [← same] at member
    obtain ⟨d, _, member⟩ := List.mem_flatMap.1 member
    by_cases is : d = c
    · rw [if_pos is] at member
      exact h member
    · rw [if_neg is] at member
      exact is (List.mem_singleton.1 member).symm
  · exact replace_of_not_mem

end Text

/-! ## The filter for scripts in a page -/

/-- The filter of the library that escapes for scripts, as a link. -/
def scriptLink (σ : Type) : Link σ where
  callee := .key (.name "javascript") "escape"
  body := .library .escapeScript
  captured := []
  block p o := (Text.escapeScript p.text, o)

variable {σ : Type}

namespace Engine

variable {e : Engine σ} {c : Context} {n t : String}

theorem scriptLink_works (library : c.lookup "javascript" = .ok (Library.escapes .escapeScript)) :
    (scriptLink σ).Works e c := by
  constructor
  · intro w
    show (Run.ofExcept (c.lookup "javascript") >>= fun v => Run.ofExcept (v.lookup "escape")) w = _
    rw [library]
    rfl
  · intro p w
    rfl

/-- An escaping tag for the filter and a name that is bound to a text. -/
theorem renderNode_script (html : e.escape = ContentType.html.escape)
    (library : c.lookup "javascript" = .ok (Library.escapes .escapeScript))
    (bound : c.lookup n = .ok (.text t)) (l : Location) (depth : Nat) (w : World σ) :
    ∃ w', e.renderNode (depth + 3) c
      (.variableTag ⟨.call (.key (.name "javascript") "escape") (.name n) [], l⟩ true) w =
        (.done (Text.escapeMarkup (Text.escapeScript t)), w') := by
  have works : ∀ f ∈ [scriptLink σ], f.Works e c := by
    intro f hf
    rw [List.mem_singleton.1 hf]
    exact scriptLink_works library
  have resolved : e.resolve (w.newTag ⟨.name n, l⟩ (.variableTag true)) c w.opened =
      (.done (.text t), w.opened) := by
    refine resolve_eq_done.2 ⟨?_, rfl⟩
    show Run.ofExcept (c.lookup n) w.opened = _
    rw [bound]
    rfl
  have chained := resolve_chain (List.cons_ne_nil _ _) works resolved
  let tag := w.newTag ⟨Link.chain [scriptLink σ] (.name n), l⟩ (.variableTag true)
  have rendered : e.renderValue (depth + 1) tag (.text t) c (w.opened.readied tag) =
      (.done ⟨.plain t, false⟩, w.opened.readied tag) := by
    simp only [renderValue]
    rfl
  have text := renderValue_waiting rfl works rendered
  have single := items?_of_renderable
    (isRenderable_waiting (List.cons_ne_nil (scriptLink σ) []) (.text t))
  have inserted : e.renderVariable (depth + 3) tag (Link.waiting [scriptLink σ] (.text t)) c
      (w.opened.readied tag) =
        (.done (Text.escapeMarkup (Text.escapeScript t)), w.opened.readied tag) := by
    simp only [renderVariable, single]
    refine Run.bind_eq_done.2 ⟨_, _, text, ?_⟩
    rw [Run.pure_apply, text_insert_variable rfl, html]
    rfl
  exact ⟨_, visit_eq_done.2 ⟨_, _, _, chained, inserted, rfl⟩⟩

end Engine

namespace Press

/-- A page with the filter for scripts. -/
def scriptPage : String := "\x7b\x7bjavascript.escape(x)\x7d\x7d"

variable {p : Press} {entries : List (Value × Value)} {n t : String}

theorem lookup_of_data {v : Value} (bound : Value.find? n entries = some v)
    (present : v.isMissing = false) : (p.context (.mapping entries) []).lookup n = .ok v := by
  have given : Value.layered n [] entries = v := by
    rw [Value.layered_nil, Value.found, bound, Option.getD_some]
  have looked := lookup_context p entries [] n
  rw [given, present] at looked
  exact looked

/-- A name that the data has not is that of a filter. -/
theorem lookup_of_filters {v : Value} (unbound : Value.find? n entries = none)
    (found : p.filters.lookup n = some v) (present : v.isMissing = false) :
    (p.context (.mapping entries) []).lookup n = .ok v := by
  have nothing : Value.layered n [] entries = .missing := by
    rw [Value.layered_nil, Value.found, unbound, Option.getD_none]
  have looked := lookup_context p entries [] n
  rw [nothing] at looked
  have some : p.filters ≠ [] := List.ne_nil_of_mem (Value.mem_of_lookup found)
  have scopes : (p.rootContext []).scopes = [p.ground] := by
    simp [rootContext, Context.root, some, Context.withFilters, Context.push, Context.empty, ground]
  have own : p.ground.lookup n = .ok v := by rw [lookup_ground, found, Option.getD_some]
  refine looked.trans ?_
  show (p.rootContext []).lookup n = _
  rw [Context.lookup, scopes, Context.lookupIn, own]
  show (if v.isMissing then _ else _) = _
  rw [present]
  rfl

/-- A press for pages escapes what the filter for scripts has made of a text. -/
theorem renders_scriptPage (made : p.Made) (html : p.settings.contentType = .html)
    (library : p.filters.lookup "javascript" = some (Library.escapes .escapeScript))
    (unshadowed : Value.find? "javascript" entries = none)
    (bound : Value.find? "x" entries = some (.text t)) (host : Host σ) (strict : Option Bool)
    (w : World σ) :
    ∃ w', (p.renderSource host scriptPage (.mapping entries) strict).1 w =
      (.done (Text.escapeMarkup (Text.escapeScript t)), w') := by
  have reads : p.read scriptPage = .ok [.variableTag
      ⟨.call (.key (.name "javascript") "escape") (.name "x") [],
        ⟨1, 1, p.settings.templateName⟩⟩ true] := by
    unfold read
    cbv
  obtain ⟨c, compiled, view⟩ := made.sound.exists_compile reads
  have serves : p.Serves scriptPage _ := ⟨c, compiled, congrArg Prod.snd view⟩
  have escape : (p.engine host strict).escape = ContentType.html.escape := by
    simp only [engine, html]
  obtain ⟨w', text⟩ := Engine.renderNode_script escape
    (lookup_of_filters unshadowed library rfl) (lookup_of_data bound rfl)
    ⟨1, 1, p.settings.templateName⟩ 996 w
  refine ⟨w', ?_⟩
  rw [serves.renderSource]
  show (p.engine host strict).renderNodes (999 + 1) _ _ w = _
  rw [Engine.renderNodes_succ]
  refine Run.bind_eq_done.2 ⟨_, w', Run.bind_eq_done.2 ⟨_, w', text, rfl⟩, ?_⟩
  simp [Run.pure_apply, String.join]

/-- A press for pages gives the page with the filter for scripts a text that is escaped twice: each
quote, which the filter leaves behind a backslash, becomes an entity. So a script reads the entity
in the place of each quote, and it reads the text itself just if there is no quote in it. -/
theorem script_reads_entities (made : p.Made) (html : p.settings.contentType = .html)
    (library : p.filters.lookup "javascript" = some (Library.escapes .escapeScript))
    (unshadowed : Value.find? "javascript" entries = none)
    (bound : Value.find? "x" entries = some (.text t)) (host : Host σ) (strict : Option Bool)
    (w : World σ) :
    ∃ s w', (p.renderSource host scriptPage (.mapping entries) strict).1 w = (.done s, w') ∧
      s.toList = Text.replace '"' "&#34;".toList (Text.escapeScript t).toList ∧
      Text.scriptText? s = some (String.ofList (Text.replace '"' "&#34;".toList t.toList)) ∧
      (Text.scriptText? s = some t ↔ '"' ∉ t.toList) := by
  obtain ⟨w', text⟩ := renders_scriptPage made html library unshadowed bound host strict w
  refine ⟨_, w', text, Text.escapeMarkup_escapeScript t, Text.scriptText?_in_page t, ?_⟩
  have apart : '"' ∉ "&#34;".toList := by decide
  rw [Text.scriptText?_in_page, Option.some.injEq, ← Text.replace_eq_self_iff apart]
  constructor
  · intro same
    rw [← String.toList_inj, String.toList_ofList] at same
    exact same
  · intro same
    rw [same, String.ofList_toList]

theorem script_reads_entities_markup :
    ∃ w', ((start {}).renderSource Host.none scriptPage
        (.mapping [(.text "x", .text "</script> 'a' & \"b\"")]) none).1 (World.start ()) =
          (.done "\\u003C/script\\u003E \\u0027a\\u0027 \\u0026 \\&#34;b\\&#34;", w') ∧
      Text.scriptText? "\\u003C/script\\u003E \\u0027a\\u0027 \\u0026 \\&#34;b\\&#34;" =
        some "</script> 'a' & &#34;b&#34;" := by
  obtain ⟨s, w', text, written, reads, _⟩ := script_reads_entities (.start {}) rfl rfl rfl
    (rfl : Value.find? "x" [(.text "x", .text "</script> 'a' & \"b\"")] = some (.text _))
    Host.none none (World.start ())
  have same : s = "\\u003C/script\\u003E \\u0027a\\u0027 \\u0026 \\&#34;b\\&#34;" :=
    String.toList_inj.1 (written.trans (by decide))
  rw [same] at text reads
  exact ⟨w', text, reads.trans (by decide)⟩

/-- The literal for a quote spells the entity of the quote. -/
theorem quote_becomes_entity :
    (((start {}).renderSource Host.none scriptPage (.mapping [(.text "x", .text "\"")]) none).1
        (World.start ())).1 = .done "\\&#34;" ∧
      Text.scriptText? "\\&#34;" = some "&#34;" ∧ Text.denoted? "\\&#34;" = none := by
  obtain ⟨w', text⟩ := renders_scriptPage (.start {}) rfl rfl rfl
    (rfl : Value.find? "x" [(.text "x", .text "\"")] = some (.text _)) Host.none none
    (World.start ())
  refine ⟨?_, by decide, by decide⟩
  rw [text]
  exact congrArg Outcome.done (by decide)

end Press

end Stencil
