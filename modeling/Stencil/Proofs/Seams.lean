-- Sources in a row. A source that ends a line and one behind it are read as their two trees, the
-- second one further down; only the texts that meet at the seam become one.
import Mathlib
import Stencil.Proofs.Elsewhere

namespace Stencil

open Text (EndsLine)

/-- Opening braces do not reach across the end of a line. -/
theorem RawTag.not_opening_append {a b : List Char} (ends : EndsLine a)
    (ha : ¬ opening false <:+: a) (hb : ¬ opening false <:+: b) : ¬ opening false <:+: a ++ b := by
  have across (x : List Char) (h : opening false <:+: x ++ '\n' :: b) :
      opening false <:+: x ∨ opening false <:+: b := by
    induction x with
    | nil =>
      rcases List.infix_cons_iff.1 h with ⟨more, h⟩ | h
      · exact absurd (List.cons.inj h).1 (by decide)
      · exact .inr h
    | cons c x ih =>
      rcases List.infix_cons_iff.1 h with ⟨more, h⟩ | h
      · obtain ⟨hc, h⟩ := List.cons.inj h
        cases x with
        | nil => exact absurd (List.cons.inj h).1 (by decide)
        | cons d x =>
          rw [← hc, ← (List.cons.inj h).1]
          exact .inl ⟨[], x, rfl⟩
      · exact (ih h).imp_left fun h => h.trans (List.suffix_cons c x).isInfix
  rcases ends with rfl | ⟨x, rfl⟩
  · exact hb
  · rw [List.append_assoc]
    intro h
    rcases across x h with h | h
    · exact ha (h.trans (List.prefix_append _ _).isInfix)
    · exact hb h

namespace Token

theorem IsClean.withFront {a rest : List Char} {tokens : List Token} (ends : EndsLine a)
    (ha : ¬ RawTag.opening false <:+: a) (clean : ∀ t ∈ tokens, t.IsClean)
    (hr : ¬ RawTag.opening false <:+: rest) :
    (∀ t ∈ (withFront a tokens rest).1, t.IsClean) ∧
      ¬ RawTag.opening false <:+: (withFront a tokens rest).2 := by
  cases tokens with
  | nil => exact ⟨clean, RawTag.not_opening_append ends ha hr⟩
  | cons t ts =>
    obtain ⟨first, others⟩ := List.forall_mem_cons.1 clean
    refine ⟨List.forall_mem_cons.2 ⟨⟨first.firm, ?_, first.back⟩, others⟩, hr⟩
    have front := RawTag.not_opening_append ends ha first.front
    simp only [List.append_assoc] at front ⊢
    exact front

end Token

namespace Template

open Token (sourceOf withFront)

variable {tokens : List Token} {rest : List Char} {nodes : Template}

/-- Behind a row of tokens its last text stands, and then what further tokens spell. -/
theorem Spells.back (h : Spells tokens rest nodes) :
    ∃ front, nodes = front ++ textNodes rest ∧ ∀ ts rest' more, Spells ts rest' more →
      Spells (tokens ++ ts) rest' (front ++ more) := by
  induction h with
  | nil => exact ⟨[], rfl, fun _ _ _ h => h⟩
  | variableTag ht _ ih =>
    obtain ⟨front, rfl, behind⟩ := ih
    refine ⟨_, (List.append_assoc _ (_ :: front) _).symm, fun ts rest' more h => ?_⟩
    rw [List.append_assoc, List.cons_append]
    exact .variableTag ht (behind ts rest' more h)
  | comment ht _ ih =>
    obtain ⟨front, rfl, behind⟩ := ih
    refine ⟨_, (List.append_assoc _ front _).symm, fun ts rest' more h => ?_⟩
    rw [List.append_assoc]
    exact .comment ht (behind ts rest' more h)
  | sectionTag ho hc hname hcontent _ _ ih =>
    obtain ⟨front, rfl, behind⟩ := ih
    refine ⟨_, (List.append_assoc _ (_ :: front) _).symm, fun ts rest' more h => ?_⟩
    rw [List.append_assoc, List.cons_append, List.append_assoc, List.cons_append, List.cons_append]
    exact .sectionTag ho hc hname hcontent (behind ts rest' more h)

/-- A row of tokens begins with a text, to which what stands in front of it is added. -/
theorem Spells.front (h : Spells tokens rest nodes) :
    ∃ b more, nodes = textNodes b ++ more ∧
      ∀ a, Spells (withFront a tokens rest).1 (withFront a tokens rest).2
        (textNodes (a ++ b) ++ more) := by
  cases h with
  | nil =>
    refine ⟨rest, [], (List.append_nil _).symm, fun a => ?_⟩
    rw [List.append_nil]
    exact .nil
  | @variableTag t _ _ _ _ _ ht h =>
    exact ⟨t.lead, _, rfl, fun a => .variableTag (t := { t with lead := a ++ t.lead }) ht h⟩
  | @comment t _ _ _ ht h =>
    exact ⟨t.lead, _, rfl, fun a => .comment (t := { t with lead := a ++ t.lead }) ht h⟩
  | @sectionTag t _ _ _ _ _ _ _ _ _ ho hc hname hcontent h =>
    refine ⟨t.lead, _, rfl, fun a => ?_⟩
    have opens : Token.tag { t with lead := a ++ t.lead } |>.Means _ := ho
    exact .sectionTag opens hc hname hcontent h

/-- Two rows of tokens, the first of which ends a line, in a row. -/
theorem Reads.append {template : Option String} {ts us : List Token} {r s : List Char}
    {t u : Template} (ht : Reads template ts r t) (hu : Reads template us s u)
    (ends : EndsLine (sourceOf ts r)) :
    ∃ tokens rest front a b more, sourceOf tokens rest = sourceOf ts r ++ sourceOf us s ∧
      t = front ++ textNodes a ∧ u.below ((sourceOf ts r).count '\n') = textNodes b ++ more ∧
      Reads template tokens rest (front ++ (textNodes (a ++ b) ++ more)) := by
  let further := us.map (Token.below ((sourceOf ts r).count '\n'))
  have further_source : sourceOf further s = sourceOf us s := Token.sourceOf_relocate us s
  have further_clean : ∀ t ∈ further, t.IsClean := by
    intro t ht
    obtain ⟨u, hmem, rfl⟩ := List.mem_map.1 ht
    exact (hu.clean u hmem).relocate
  obtain ⟨front, hfront, join⟩ := ht.spells.back
  obtain ⟨b, more, hmore, start⟩ := (hu.spells.relocate _ : Spells further s (u.below _)).front
  have clean := Token.IsClean.withFront ends.of_append ht.ending further_clean hu.ending
  have first := (Token.inPlace_append_lines ends (sourceOf us s)).2 ht.inPlace
  have second := hu.inPlace.behind_lines ends
  refine ⟨ts ++ (withFront r further s).1, (withFront r further s).2, front, r, b, more, ?_, hfront,
    hmore, Token.inPlace_append_iff.2 ⟨?_, Token.InPlace.withFront ?_⟩, ?_, clean.2,
    join _ _ _ (start r)⟩
  · rw [Token.sourceOf_append, Token.sourceOf_withFront, further_source]
    simp [sourceOf]
  · rw [Token.sourceOf_withFront, further_source]
    exact first
  · rw [List.append_nil] at second
    exact second
  · exact List.forall_mem_append.2 ⟨ht.clean, clean.1⟩

/-- The trees of two sources in a row, the first of which ends a line: nothing is read otherwise,
and where a text ends the first tree and another begins the second one, they are read as one
text. -/
theorem parse_append {template : Option String} {first second : String} {t u : Template}
    (ht : parse template first = .ok t) (hu : parse template second = .ok u)
    (ends : EndsLine first.toList) :
    ∃ front a b more, t = front ++ textNodes a ∧
      u.below (first.toList.count '\n') = textNodes b ++ more ∧
      parse template (first ++ second) = .ok (front ++ (textNodes (a ++ b) ++ more)) := by
  obtain ⟨ts, r, hfirst, reads⟩ := parse_iff_reads.1 ht
  obtain ⟨us, s, hsecond, reads'⟩ := parse_iff_reads.1 hu
  rw [hfirst] at ends ⊢
  obtain ⟨tokens, rest, front, a, b, more, source, hfront, hmore, whole⟩ := reads.append reads' ends
  refine ⟨front, a, b, more, hfront, hmore, parse_iff_reads.2 ⟨tokens, rest, ?_, whole⟩⟩
  rw [String.toList_append, hfirst, hsecond, source]

/-! ## Texts that meet -/

/-- A node in front of others; a text becomes one with the text that it meets. -/
def joinText : Node → Template → Template
  | .text a, .text b :: rest => .text (a ++ b) :: rest
  | n, rest => n :: rest

/-- The template with the texts that meet in it, outside of sections, made one. -/
def merged (t : Template) : Template := t.foldr joinText []

theorem merged_cons (n : Node) (t : Template) : merged (n :: t) = joinText n (merged t) := rfl

theorem merged_append_congr (front : Template) {t u : Template} (h : merged t = merged u) :
    merged (front ++ t) = merged (front ++ u) := by
  have same : t.foldr joinText [] = u.foldr joinText [] := h
  rw [merged, merged, List.foldr_append, List.foldr_append, same]

theorem joinText_joinText (a b : String) (t : Template) :
    joinText (.text a) (joinText (.text b) t) = joinText (.text (a ++ b)) t := by
  cases t with
  | nil => rfl
  | cons n t =>
    cases n with
    | text c => simp only [joinText, String.append_assoc]
    | variableTag head escaped => rfl
    | sectionTag head inverted children inner => rfl

theorem merged_textNodes (a b : List Char) (more : Template) :
    merged (textNodes (a ++ b) ++ more) = merged (textNodes a ++ (textNodes b ++ more)) := by
  cases a with
  | nil => rfl
  | cons c a =>
    cases b with
    | nil =>
      rw [List.append_nil]
      rfl
    | cons d b =>
      have split : String.ofList (c :: a ++ d :: b) =
          String.ofList (c :: a) ++ String.ofList (d :: b) := String.ofList_append
      change joinText (.text (String.ofList (c :: a ++ d :: b))) (merged more) =
        joinText (.text (String.ofList (c :: a))) (joinText (.text (String.ofList (d :: b))) _)
      rw [split, joinText_joinText]
      rfl

end Template

/-! ## Rendering in a row -/

namespace Engine

variable {σ : Type} (e : Engine σ)

/-- Nodes behind others are rendered when those are. -/
theorem renderNodes_append (depth : Nat) (t u : Template) (c : Context) :
    e.renderNodes (depth + 1) (t ++ u) c =
      do return (← e.renderNodes (depth + 1) t c) ++ (← e.renderNodes (depth + 1) u c) := by
  simp only [renderNodes, Run.each_append, bind_assoc, pure_bind, String.join_append]

theorem renderNodes_text (depth : Nat) (s : String) (c : Context) :
    e.renderNodes (depth + 1) [.text s] c = pure s := by
  simp [renderNodes, Run.each]

/-- Texts that meet are rendered like the one text that they become. -/
theorem renderNodes_joinText (depth : Nat) (n : Node) (t : Template) (c : Context) :
    e.renderNodes (depth + 1) (Template.joinText n t) c = e.renderNodes (depth + 1) (n :: t) c := by
  unfold Template.joinText
  split
  · rename_i a b rest
    have two := e.renderNodes_append depth [.text a] (.text b :: rest) c
    have one := e.renderNodes_append depth [.text b] rest c
    have whole := e.renderNodes_append depth [.text (a ++ b)] rest c
    simp only [List.cons_append, List.nil_append, renderNodes_text, pure_bind] at two one whole
    rw [two, one, whole]
    simp [String.append_assoc]
  · rfl

theorem renderNodes_merged (depth : Nat) (t : Template) (c : Context) :
    e.renderNodes (depth + 1) t.merged c = e.renderNodes (depth + 1) t c := by
  induction t with
  | nil => rfl
  | cons n rest ih =>
    rw [Template.merged_cons, renderNodes_joinText, ← List.singleton_append, renderNodes_append, ih,
      ← renderNodes_append, List.singleton_append]

variable {e}

theorem renders_in_row {depth : Nat} {t u whole : Template} {c : Context} {w w₁ w₂ : World σ}
    {a b : String} (ht : e.renderNodes depth t c w = (.done a, w₁))
    (hu : e.renderNodes depth u c w₁ = (.done b, w₂)) (same : whole.merged = (t ++ u).merged) :
    e.renderNodes depth whole c w = (.done (a ++ b), w₂) := by
  cases depth with
  | zero => cases ht
  | succ depth =>
    rw [← renderNodes_merged, same, renderNodes_merged, renderNodes_append]
    exact Run.bind_eq_done.2 ⟨a, w₁, ht, Run.bind_eq_done.2 ⟨b, w₂, hu, rfl⟩⟩

end Engine

namespace Template

/-- Two sources in a row, the first of which is empty or ends a line. They are read as their two
trees, the second one further down by the lines of the first; at most one text of each tree becomes
one with the other. If both trees render, one after the other, the whole renders to their texts one
after the other, provided that the scripts of the host do not look at the places of tags. If both
render in the same world, the whole renders so too, provided that the host does the same in the
state in which the first tree leaves it, and that the second tree draws from none of the streams
from which the first one draws. All this holds at every depth, so for `render` too. -/
theorem parse_and_render_in_row {template : Option String} {first second : String}
    {t u : Template} (ht : parse template first = .ok t) (hu : parse template second = .ok u)
    (ends : EndsLine first.toList) :
    ∃ whole, parse template (first ++ second) = .ok whole ∧
      (∃ front a b more, t = front ++ textNodes a ∧
        u.below (first.toList.count '\n') = textNodes b ++ more ∧
        whole = front ++ (textNodes (a ++ b) ++ more)) ∧
      whole.merged = (t ++ u.below (first.toList.count '\n')).merged ∧
      (∀ (σ : Type) (e : Engine σ) depth c w a w₁ b w₂, e.host.Blind .none →
        e.renderNodes depth t c w = (.done a, w₁) → e.renderNodes depth u c w₁ = (.done b, w₂) →
        ∃ w', e.renderNodes depth whole c w = (.done (a ++ b), w')) ∧
      ∀ (σ : Type) (e : Engine σ) depth c w a w₁ b w₂ (veil : Veil σ), e.host.Blind veil →
        e.renderNodes depth t c w = (.done a, w₁) → e.renderNodes depth u c w = (.done b, w₂) →
        veil.hosts w.outside.host w₁.outside.host →
        (∀ id, ¬ veil.streams id → w₁.outside.pulled id = w.outside.pulled id) →
        (∀ id, veil.streams id → w₂.outside.pulled id = w.outside.pulled id) →
        ∃ w', e.renderNodes depth whole c w = (.done (a ++ b), w') := by
  obtain ⟨front, a, b, more, hfront, hmore, whole⟩ := parse_append ht hu ends
  have same : merged (front ++ (textNodes (a ++ b) ++ more)) =
      merged (t ++ u.below (first.toList.count '\n')) := by
    rw [hmore, hfront, List.append_assoc]
    exact merged_append_congr front (merged_textNodes a b more)
  have alike : u.Alike (u.below (first.toList.count '\n')) := (alike_relocate _ u).symm
  refine ⟨_, whole, ⟨front, a, b, more, hfront, hmore, rfl⟩, same, ?_, ?_⟩
  · intro σ e depth c w a w₁ b w₂ blind rendered rendered'
    obtain ⟨w', further, _⟩ :=
      e.renders_beside blind alike rendered' (Outside.beside_none _) (Outside.spares_none _ _)
    exact ⟨w', Engine.renders_in_row rendered further same⟩
  · intro σ e depth c w a w₁ b w₂ veil blind rendered rendered' host left spares
    have beside : w.outside.Beside veil w₁.outside :=
      ⟨host, fun id hid => (left id hid).symm,
        fun id hid => Engine.pulled_le_of_renders blind rendered hid⟩
    obtain ⟨w', further, _⟩ := Engine.renders_beside blind alike rendered' beside spares
    exact ⟨w', Engine.renders_in_row rendered further same⟩

/-- A line for each name, and the beginning of a sentence. -/
def linesHead : String :=
  "\x7b\x7b#names\x7d\x7d\n- \x7b\x7b.\x7d\x7d\n\x7b\x7b/names\x7d\x7d\nThese are\n"

def linesHeadTree : Template := [
  .sectionTag ⟨.name "names", ⟨1, 1, none⟩⟩ false
    [.text "- ", .variableTag ⟨.top, ⟨2, 3, none⟩⟩ true, .text "\n"] "- \x7b\x7b.\x7d\x7d\n",
  .text "These are\n"]

/-- The end of the sentence. -/
def linesTail : String := " \x7b\x7bkind\x7d\x7d.\n"

def linesTailTree : Template := [
  .text " ", .variableTag ⟨.name "kind", ⟨1, 2, none⟩⟩ true, .text ".\n"]

def linesContext : Context :=
  ⟨[⟨.mapping [(.text "names", .stream "Iter" 0 [.text "a", .text "b"]),
    (.text "kind", .text "names")], []⟩]⟩

def linesEngine : Engine Unit := ⟨Host.none, .fail, ContentType.html.escape⟩

/-- The names are drawn from their stream, and nothing is drawn from any other one. -/
theorem linesHead_renders :
    ∃ w', linesEngine.renderNodes 9 linesHeadTree linesContext (World.start ()) =
        (.done "- a\n- b\nThese are\n", w') ∧
      ∀ id, ¬ id = 0 → w'.outside.pulled id = 0 := by
  have text : (linesEngine.renderNodes 9 linesHeadTree linesContext (World.start ())).1 =
      .done "- a\n- b\nThese are\n" := by
    cbv
  have left (id : Nat) (other : ¬ id = 0) :
      (linesEngine.renderNodes 9 linesHeadTree linesContext
        (World.start ())).2.outside.pulled id = 0 := by
    cbv
    simp only [if_neg other]
  generalize linesEngine.renderNodes 9 linesHeadTree linesContext _ = ended at text left ⊢
  exact ⟨ended.2, Prod.ext text rfl, left⟩

theorem linesTail_renders :
    ∃ w', linesEngine.renderNodes 9 linesTailTree linesContext (World.start ()) =
        (.done " names.\n", w') ∧ w'.outside.pulled 0 = 0 := by
  have text : (linesEngine.renderNodes 9 linesTailTree linesContext (World.start ())).1 =
      .done " names.\n" := by
    cbv
  have spares : (linesEngine.renderNodes 9 linesTailTree linesContext
      (World.start ())).2.outside.pulled 0 = 0 := by
    cbv
  generalize linesEngine.renderNodes 9 linesTailTree linesContext _ = ended at text spares ⊢
  exact ⟨ended.2, Prod.ext text rfl, spares⟩

theorem parse_and_render_in_row_of_names :
    parse none linesHead = .ok linesHeadTree ∧ parse none linesTail = .ok linesTailTree ∧
    ∃ whole w', parse none (linesHead ++ linesTail) = .ok whole ∧
      whole.merged = (linesHeadTree ++ linesTailTree.below 4).merged ∧
      linesEngine.renderNodes 9 whole linesContext (World.start ()) =
        (.done "- a\n- b\nThese are\n names.\n", w') := by
  have head : parse none linesHead = .ok linesHeadTree := by
    cbv
  have tail : parse none linesTail = .ok linesTailTree := by
    cbv
  have ends : EndsLine linesHead.toList := .inr ⟨linesHead.toList.dropLast, by decide⟩
  -- The second source leaves alone the stream from which the first one draws.
  have blind : linesEngine.host.Blind ⟨fun id => id = 0, Eq⟩ :=
    ⟨fun _ _ _ _ _ _ => Nat.le_refl _, fun _ _ _ _ _ beside _ => ⟨rfl, beside⟩,
      fun _ _ _ _ _ _ => .done _⟩
  obtain ⟨w₁, first, left⟩ := linesHead_renders
  obtain ⟨w₂, second, spares⟩ := linesTail_renders
  obtain ⟨whole, ok, _, same, _, row⟩ := parse_and_render_in_row head tail ends
  obtain ⟨w', rendered⟩ := row Unit linesEngine 9 linesContext _ _ _ _ _ _ blind first second rfl
    left fun id hid => hid ▸ spares
  exact ⟨head, tail, whole, w', ok, same, rendered⟩

end Template

end Stencil
