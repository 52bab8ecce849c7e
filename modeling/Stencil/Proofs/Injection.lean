-- No markup gets into a page through data. Whatever is flagged as safe holds no special characters,
-- by whichever way it came to its flag, and everything else is escaped where it is inserted.
import Stencil.Press
import Stencil.Proofs.CleanText
import Stencil.Proofs.Rendering
import Stencil.Proofs.Throughout

namespace Stencil

open Text (Clean)

/-! ## Values -/

namespace Value

/-- Data without behaviour: nothing, truth values, numbers, texts, lists, and mappings whose keys
are texts. -/
def IsPlain : Value → Prop
  | .null | .bool _ | .int _ | .float _ | .text _ | .list _ => True
  | .mapping entries => ∀ e ∈ entries, ∃ key, e.1 = .text key
  | _ => False

/-- What the value claims to be safe is clean, and the library stands behind it if a function
does. -/
def Trusted : Value → Prop
  | .markup s | .safeObject _ s => Clean s.toList
  | .collection traits .. => ∀ s, traits.markup = some s → Clean s.toList
  | .eager s safe => safe = true → Clean s.toList
  | .pending (.host _) _ _ | .deferred _ _ | .custom _ _ _ => False
  | .filter f _ => f.host? = none
  | _ => True

theorem IsPlain.trusted {v : Value} (h : v.IsPlain) : v.Trusted := by
  cases v <;> first | exact absurd h id | trivial

theorem ordinary_trusted : Ordinary Trusted where
  missing := trivial
  null := trivial
  bool _ := trivial
  int _ := trivial
  text _ := trivial
  list _ := trivial
  mapping _ := trivial
  object _ _ := trivial
  eachItem _ _ _ _ := trivial

theorem Trusted.clean {v : Value} {s : String} (h : v.Trusted) (hs : v.markup? = some s) :
    Clean s.toList := by
  cases v with
  | markup _ | safeObject _ _ =>
    cases hs
    exact h
  | collection traits _ _ => exact h s hs
  | _ => cases hs

theorem keepsPending_trusted : KeepsPending Trusted := by
  intro body captured arguments h
  cases body with
  | library f => trivial
  | host name => cases h

end Value

/-- No function of the host is ever called, so the host does not matter. -/
theorem Host.keeps_trusted {σ : Type} (host : Host σ) : host.Keeps Value.Trusted := by
  intro f name captured arguments o v o' hf hn _ _
  have none : f.host? = Option.none := hf.self
  cases none.symm.trans hn

theorem Press.trusted_context (p : Press) (hf : p.filters = Library.standard) {data : Value}
    {named : List (Value × Value)} (hd : data.Throughout Value.Trusted)
    (hn : (Value.mapping named).Throughout Value.Trusted) :
    (p.context data named).Throughout Value.Trusted := by
  refine .ofPress Value.ordinary_trusted (hf ▸ ?_) hd hn
  exact Library.throughout_standard Value.ordinary_trusted fun _ h => h

/-! ## Templates -/

/-- The text of the template is clean, and every variable tag in it escapes. -/
inductive Node.Guarded : Node → Prop
  | text {s : String} : Clean s.toList → Guarded (.text s)
  | variableTag {head : Head} : Guarded (.variableTag head true)
  | sectionTag {head : Head} {inverted : Bool} {children : Template} {inner : String} :
    (∀ n ∈ children, Guarded n) → Guarded (.sectionTag head inverted children inner)

/-- The tag escapes, and so do the tags inside it. -/
def Tag.Guarded (tag : Tag) : Prop := tag.escaped = true ∧ ∀ n ∈ tag.children, n.Guarded

/-! ## Renderings -/

/-- A rendering holds no special characters if it is flagged as safe or marked as markup. -/
def Rendering.Sound (r : Rendering) : Prop :=
  r.safe = true ∨ r.text.marked = true → Clean r.text.text.toList

namespace Rendering

theorem sound_unsafe (s : String) : (⟨.plain s, false⟩ : Rendering).Sound := by
  rintro (h | h) <;> cases h

theorem sound_of_clean {p : Passage} {safe : Bool} (h : Clean p.text.toList) :
    (⟨p, safe⟩ : Rendering).Sound := fun _ => h

theorem clean_of_all {rs : List Rendering} (h : ∀ r ∈ rs, r.Sound)
    (hs : rs.all (·.safe) = true) : ∀ r ∈ rs, Clean r.text.text.toList :=
  fun r hr => h r hr (.inl (List.all_eq_true.1 hs r hr))

end Rendering

namespace TextFunction

/-- What is not marked is escaped, and what is marked was clean. -/
theorem clean_escaped {r : Rendering} (h : r.Sound) : Clean r.text.escaped.toList := by
  unfold Passage.escaped
  split
  · rename_i hm
    exact h (.inr hm)
  · exact Text.clean_escapeMarkup _

theorem trusted_apply (f : TextFunction) {r : Rendering} (h : r.Sound) :
    (f.apply r.text).Throughout Value.Trusted := by
  have plain : ∀ s, (Value.text s).Throughout Value.Trusted := fun s => .simple trivial rfl
  cases f with
  | escapeMarkup => exact .simple (clean_escaped h) rfl
  | escapePercent =>
    simp only [apply]
    split
    · rename_i he
      unfold Value.ofPassage
      split
      · refine .simple ?_ rfl
        simp only [Value.Trusted, he]
        exact Text.clean_nil
      · exact plain _
    · exact plain _
  | _ => exact plain _

/-- The functions of the library keep clean text clean. -/
theorem clean_apply (f : TextFunction) {p : Passage} {s : String} (h : Clean p.text.toList)
    (hs : f.apply p = .text s) : Clean s.toList := by
  cases f with
  | upper =>
    cases hs
    rw [String.toList_ofList]
    exact Text.clean_upper h
  | lower =>
    cases hs
    rw [String.toList_ofList]
    exact Text.clean_lower h
  | capitalized =>
    cases hs
    rw [String.toList_ofList]
    exact Text.clean_capitalized h
  | escapeMarkup => cases hs
  | escapePercent =>
    simp only [apply] at hs
    split at hs
    · unfold Value.ofPassage at hs
      split at hs <;> cases hs
      exact h
    · cases hs
      exact Text.clean_escapePercent _
  | escapeScript =>
    cases hs
    exact Text.clean_escapeScript h

end TextFunction

/-! ## The engine -/

namespace Engine

variable {σ : Type} {e : Engine σ} {depth : Nat} {v : Value} {c : Context}

open Run (Gives)

/-- What a guarded tag inserts is clean. -/
theorem clean_insert (he : e.escape = ContentType.html.escape) {tag : Tag} (ht : tag.Guarded)
    {r : Rendering} (h : r.Sound) : Clean (e.insert tag r).text.toList := by
  unfold insert
  split
  · rename_i hs
    refine h (.inl ?_)
    simpa [ht.1] using hs
  · rw [he]
    exact TextFunction.clean_escaped h

theorem sound_joined {rs : List Rendering} (h : ∀ r ∈ rs, r.Sound) : (joined rs).Sound := by
  rintro (hs | hm)
  · refine Text.clean_join fun s hs' => ?_
    obtain ⟨r, hr, rfl⟩ := List.mem_map.1 hs'
    exact Rendering.clean_of_all h hs r hr
  · cases hm

theorem gives_leaf (hv : v.Trusted) : Gives Rendering.Sound (leaf v : Run σ Rendering) := by
  unfold leaf
  split
  · exact Run.ends_pure (Rendering.sound_unsafe _)
  · exact Run.ends_pure (Rendering.sound_unsafe _)
  · exact Run.ends_pure (Rendering.sound_unsafe _)
  · exact Run.ends_pure (Rendering.sound_unsafe _)
  · split
    · exact Run.ends_pure (Rendering.sound_of_clean (hv.clean ‹_›))
    · exact (Run.gives_any _).bind_any fun s => Run.ends_pure (Rendering.sound_unsafe s)

/-- The functions of the library make trusted values of sound renderings, and clean text of safe
ones. -/
theorem gives_callTexts (host : Host σ) (f : TextFunction) (captured : List Value)
    {rs : List Rendering} (h : ∀ r ∈ rs, r.Sound) :
    Gives (fun u => u.Throughout Value.Trusted ∧
        ∀ s, u = .text s → rs.all (·.safe) = true → Clean s.toList)
      ((Body.library f).callTexts host captured (rs.map (·.text))) := by
  refine Run.gives_wrap (Run.ends_ofExcept (fun u hu => ?_) fun _ _ => trivial)
  match rs with
  | [r] =>
    cases hu
    have hr := h r List.mem_cons_self
    refine ⟨f.trusted_apply hr, fun s hs safe => ?_⟩
    exact f.clean_apply (Rendering.clean_of_all h safe r List.mem_cons_self) hs
  | [] => cases hu
  | _ :: _ :: _ => cases hu

/-- At one depth, what guarded templates and tags give in a trusted context is clean, and what
values are rendered to is sound. -/
structure IsSound (e : Engine σ) (depth : Nat) : Prop where
  nodes : ∀ t c, (∀ n ∈ t, n.Guarded) → c.Throughout Value.Trusted →
    Gives (fun s => Clean s.toList) (e.renderNodes depth t c)
  variableTag : ∀ tag v c, tag.Guarded → v.Throughout Value.Trusted →
    c.Throughout Value.Trusted → Gives (fun s => Clean s.toList) (e.renderVariable depth tag v c)
  sectionTag : ∀ tag v c, tag.Guarded → v.Throughout Value.Trusted →
    c.Throughout Value.Trusted →
    Gives (fun p => Clean p.text.toList) (e.renderSection depth tag v c)
  item : ∀ tag v c, tag.Guarded → v.Throughout Value.Trusted → c.Throughout Value.Trusted →
    Gives (fun p => Clean p.text.toList) (e.renderItem depth tag v c)
  value : ∀ tag v c, tag.Guarded → v.Throughout Value.Trusted → c.Throughout Value.Trusted →
    Gives Rendering.Sound (e.renderValue depth tag v c)

/-- A section holds clean text only. -/
theorem IsSound.content (ih : IsSound e depth) {tag : Tag} (ht : tag.Guarded)
    (hc : c.Throughout Value.Trusted) :
    Gives Rendering.Sound (contentOf tag (e.renderNodes depth) c) := by
  unfold contentOf
  split
  · refine (ih.nodes _ c ht.2 hc).bind fun s hs => ?_
    exact Run.ends_pure (Rendering.sound_of_clean hs)
  · exact Run.ends_pure (Rendering.sound_of_clean Text.clean_nil)

theorem IsSound.valueFor (ih : IsSound e depth) {tag : Tag} (ht : tag.Guarded)
    (hv : v.Throughout Value.Trusted) (hc : c.Throughout Value.Trusted) :
    Gives Rendering.Sound
      (Engine.valueFor tag (e.renderSection depth tag) (e.renderValue depth tag) v c) := by
  unfold Engine.valueFor
  split
  · refine (ih.sectionTag tag v c ht hv hc).bind fun p hp => ?_
    exact Run.ends_pure (Rendering.sound_of_clean hp)
  · exact ih.value tag v c ht hv hc

/-- A textual filter that waits for its tag renders soundly: its arguments do, and the library
keeps clean what is safe. -/
theorem IsSound.pending (ih : IsSound e depth) {tag : Tag} (ht : tag.Guarded) (f : TextFunction)
    {captured arguments : List Value} (ha : ∀ a ∈ arguments, a.Throughout Value.Trusted)
    (hc : c.Throughout Value.Trusted) :
    Gives Rendering.Sound
      (e.renderValue (depth + 1) tag (.pending (.library f) captured arguments) c) := by
  simp only [renderValue, handlers]
  refine Run.gives_wrap ?_
  refine (Run.ends_each fun a h => ih.valueFor ht (ha a h) hc).bind fun rs hrs => ?_
  refine (gives_callTexts e.host f captured hrs).bind fun u hu => ?_
  obtain ⟨trusted, clean⟩ := hu
  cases u with
  | text s =>
    -- Plain text carries no mark, so it is trusted only if all arguments were safe.
    refine Run.ends_pure fun hs => clean s rfl ?_
    rcases hs with hs | hs
    · exact hs
    · cases hs
  | _ => exact ih.value tag _ c ht trusted hc

theorem IsSound.succ_value (ih : IsSound e depth) {tag : Tag} (ht : tag.Guarded)
    (hv : v.Throughout Value.Trusted) (hc : c.Throughout Value.Trusted) :
    Gives Rendering.Sound (e.renderValue (depth + 1) tag v c) := by
  rcases hi : v.joinedItems? with _ | items
  · by_cases hr : v.isRenderable = true
    · cases v with
      | eager s safe =>
        simp only [renderValue]
        refine Run.ends_pure fun h => ?_
        rcases h with h | h
        · exact hv.self h
        · cases h
      | pending body captured arguments =>
        cases body with
        | library f =>
          exact ih.pending ht f (fun a ha => hv.part (List.mem_append_right _ ha)) hc
        | host name => exact absurd hv.self id
      | eachItem item index last key =>
        have hitem : item.Throughout Value.Trusted := hv.part (by simp [Value.parts])
        have hkey : key.Throughout Value.Trusted := hv.part (by simp [Value.parts])
        simp only [renderValue, handlers]
        refine Run.gives_wrap ?_
        split
        · refine ih.content ht (Context.Throughout.push ?_ hitem)
          exact hc.push (Value.throughout_position Value.ordinary_trusted hkey)
        · exact ih.value tag item c ht hitem hc
      | deferred _ _ | custom _ _ _ => exact absurd hv.self id
      | _ => simp [Value.isRenderable] at hr
    · rw [renderValue_leaf _ hi (by simpa using hr)]
      exact gives_leaf hv.self
  · rw [renderValue_of_items _ hi]
    refine (Run.gives_eachItem (P := Rendering.Sound) fun u hu => ?_).bind fun rs hrs =>
      Run.ends_pure (sound_joined hrs)
    exact ih.value tag u c ht
      (hv.items Value.ordinary_trusted (Value.items?_of_joined hi) hu) hc

/-- One node is rendered cleanly: text is clean, and tags are visited with a guarded tag. -/
theorem IsSound.succ_nodes (ih : IsSound e depth) {t : Template} (ht : ∀ n ∈ t, n.Guarded)
    (hc : c.Throughout Value.Trusted) :
    Gives (fun s => Clean s.toList) (e.renderNodes (depth + 1) t c) := by
  simp only [renderNodes]
  refine (Run.ends_each (P := fun s => Clean s.toList) fun n hn => ?_).bind fun texts h =>
    Run.ends_pure (Text.clean_join h)
  have trusted : ∀ x, Gives (·.Throughout Value.Trusted)
      ((⟨e.host, e.policy⟩ : Evaluator σ).evaluate c x) :=
    Evaluator.gives_evaluate Value.ordinary_trusted Value.keepsPending_trusted
      e.host.keeps_trusted hc
  cases ht n hn with
  | text hs => exact Run.ends_pure hs
  | variableTag =>
    refine gives_visit (trusted _) fun tag v htag hv => ?_
    refine ih.variableTag tag v c ⟨?_, ?_⟩ hv hc
    · simp only [Tag.escaped, htag]
    · simp [Tag.children, htag]
  | sectionTag hchildren =>
    refine gives_visit (trusted _) fun tag v htag hv => ?_
    refine (ih.sectionTag tag v c ⟨?_, ?_⟩ hv hc).bind fun p hp => Run.ends_pure hp
    · simp only [Tag.escaped, htag]
    · simpa only [Tag.children, htag] using hchildren

theorem IsSound.succ_variableTag (ih : IsSound e depth) (he : e.escape = ContentType.html.escape)
    {tag : Tag} (ht : tag.Guarded) (hv : v.Throughout Value.Trusted)
    (hc : c.Throughout Value.Trusted) :
    Gives (fun s => Clean s.toList) (e.renderVariable (depth + 1) tag v c) := by
  simp only [renderVariable]
  cases hi : v.items? with
  | some items =>
    refine (Run.gives_eachItem (P := fun s => Clean s.toList) fun u hu => ?_).bind fun ts h =>
      Run.ends_pure (Text.clean_join h)
    exact ih.variableTag tag u c ht (hv.items Value.ordinary_trusted hi hu) hc
  | none =>
    exact (ih.value tag v c ht hv hc).bind fun r hr => Run.ends_pure (clean_insert he ht hr)

theorem IsSound.succ_sectionTag (ih : IsSound e depth) {tag : Tag} (ht : tag.Guarded)
    (hv : v.Throughout Value.Trusted) (hc : c.Throughout Value.Trusted) :
    Gives (fun p => Clean p.text.toList) (e.renderSection (depth + 1) tag v c) := by
  have nothing : Gives (fun p : Passage => Clean p.text.toList)
      (pure (.plain "") : Run σ Passage) := Run.ends_pure Text.clean_nil
  simp only [renderSection]
  split
  · refine (Run.gives_any _).bind_any fun truth => ?_
    split
    · exact nothing
    · exact (ih.nodes _ c ht.2 hc).bind fun s hs => Run.ends_pure hs
  · cases hi : v.items? with
    | some items =>
      refine (Run.gives_eachItem (P := fun p => Clean p.text.toList) fun u hu => ?_).bind
        fun ps h => Run.ends_pure (Text.clean_join fun s hs => ?_)
      · exact ih.item tag u c ht (hv.items Value.ordinary_trusted hi hu) hc
      · obtain ⟨p, hp, rfl⟩ := List.mem_map.1 hs
        exact h p hp
    | none =>
      refine (Run.gives_any _).bind_any fun shown => ?_
      split
      · exact ih.item tag v c ht hv hc
      · exact nothing

theorem IsSound.succ_item (ih : IsSound e depth) (he : e.escape = ContentType.html.escape)
    {tag : Tag} (ht : tag.Guarded) (hv : v.Throughout Value.Trusted)
    (hc : c.Throughout Value.Trusted) :
    Gives (fun p => Clean p.text.toList) (e.renderItem (depth + 1) tag v c) := by
  simp only [renderItem]
  split
  · exact (ih.value tag v c ht hv hc).bind fun r hr => Run.ends_pure (clean_insert he ht hr)
  · exact (ih.nodes _ _ ht.2 (hc.push hv)).bind fun s hs => Run.ends_pure hs

theorem isSound (he : e.escape = ContentType.html.escape) (depth : Nat) : IsSound e depth := by
  induction depth with
  | zero => constructor <;> intros <;> exact Run.ends_exhaust
  | succ depth ih =>
    constructor
    · exact fun t c => ih.succ_nodes
    · exact fun tag v c => ih.succ_variableTag he
    · exact fun tag v c => ih.succ_sectionTag
    · exact fun tag v c => ih.succ_item he
    · exact fun tag v c => ih.succ_value

end Engine

/-! ## Pages -/

/-- A page that is rendered from plain data with the filters of the library has no special
character in it, if its template has none in its text and no tag that does not escape. This holds
at every depth, so for `render` too, and whatever missing values mean. -/
theorem Press.clean_of_plain {σ : Type} (p : Press) (host : Host σ) (strict : Option Bool)
    (depth : Nat) (t : Template) (data : Value) (named : List (Value × Value))
    (html : p.settings.contentType = .html) (filters : p.filters = Library.standard)
    (guarded : ∀ n ∈ t, n.Guarded) (plain : data.Throughout Value.IsPlain)
    (plainNamed : (Value.mapping named).Throughout Value.IsPlain) {w w' : World σ} {s : String}
    (rendered : (p.engine host strict).renderNodes depth t (p.context data named) w =
      (.done s, w')) :
    Clean s.toList := by
  have escape : (p.engine host strict).escape = ContentType.html.escape := by
    simp only [Press.engine, html]
  have trusted := p.trusted_context filters (plain.mono fun _ => Value.IsPlain.trusted)
    (plainNamed.mono fun _ => Value.IsPlain.trusted)
  exact ((Engine.isSound escape depth).nodes t _ guarded trusted).done rendered

/-- A page that writes each of some names in capital letters. -/
def namesPage : Template := [
  .sectionTag ⟨.name "names", ⟨1, 1, none⟩⟩ false
    [.variableTag ⟨.call (.name "uppercase") .top [], ⟨1, 11, none⟩⟩ true] "\x7b\x7buppercase(.)\x7d\x7d"]

/-- A list with one name, which tries to be markup. -/
def namesData : Value := .mapping [(.text "names", .list [.text "<b>"])]

theorem guarded_namesPage : ∀ n ∈ namesPage, n.Guarded := by
  intro n hn
  obtain rfl := List.mem_singleton.1 hn
  refine .sectionTag fun n hn => ?_
  obtain rfl := List.mem_singleton.1 hn
  exact .variableTag

theorem plain_namesData : namesData.Throughout Value.IsPlain := by
  have key : ∀ e ∈ [(Value.text "names", Value.list [.text "<b>"])], ∃ key, e.1 = .text key := by
    intro e he
    obtain rfl := List.mem_singleton.1 he
    exact ⟨"names", rfl⟩
  refine ⟨key, fun u hu => ?_⟩
  change u ∈ [Value.text "names", .list [.text "<b>"]] at hu
  simp only [List.mem_cons, List.not_mem_nil, or_false] at hu
  rcases hu with rfl | rfl
  · exact .simple trivial rfl
  · refine ⟨trivial, fun u hu => ?_⟩
    obtain rfl := List.mem_singleton.1 hu
    exact .simple trivial rfl

theorem Press.clean_of_plain_names : ∃ s w',
    ((Press.start {}).engine Host.none none).renderNodes 9 namesPage
      ((Press.start {}).context namesData []) (World.start ()) = (.done s, w') ∧
    Clean s.toList := by
  have none : (Value.mapping []).Throughout Value.IsPlain :=
    ⟨fun e he => (nomatch he), fun u hu => (nomatch hu)⟩
  refine ⟨"&lt;B&gt;", _, rfl, ?_⟩
  exact Press.clean_of_plain (Press.start {}) Host.none Option.none 9 namesPage namesData [] rfl
    rfl guarded_namesPage plain_namesData none (w := World.start ()) rfl

end Stencil
