import Multiples.Envelope.Field
import Multiples.Proofs.Search

/-!
# Fields of written documents

Fields are found by a search for the text of a tag, which knows nothing of markup.  In a document written
from an element this search nevertheless finds elements, and nothing else: texts and attribute values are
data and **cannot forge a tag**, whatever they hold.

* `Element.elements` — an element and all elements in it, in the order in which they open;
* `Element.isField` — the elements that are written with the bare opening tag of a name;
* `Content.skips_render` — content without such an element is skipped by a search for the tag;
* `Content.exists_field` — otherwise the search finds the first one, and what follows its tag is its content
  and its closing tag;
* `hasTag_document_iff`, `field?_document` — what the scanner says about a written document.

The whole argument is on where the character `<` can stand: it opens the declaration, an opening tag or a
closing tag, and each of these differs from the tag that is looked for before both come to an end.
-/

namespace Multiples

namespace Markup

open Text (Skips)

/-! ### Names -/

/-- The characters of a name: no blank, and none with a meaning in markup. -/
def isNameChar (c : Char) : Bool := !Text.isBlank c && decide (c ∉ ['<', '>', '&', '/', '=', '?', '"', '\''])

/-- Whether a text can name an element or an attribute. -/
def isName (name : Text) : Bool := !name.isEmpty && name.all isNameChar

/-- Whether all elements and attributes of some content are named by names. -/
def Content.isNamed : Content → Bool
  | .nothing => true
  | .text _ more => more.isNamed
  | .element name attributes inner more =>
    isName name && attributes.all (fun a => isName a.1) && inner.isNamed && more.isNamed

/-- Whether an element, its attributes and all that it holds are named by names. -/
def Element.isNamed (e : Element) : Bool := e.toContent.isNamed

/-! ### Elements in the order of the document -/

/-- The elements of some content, in the order in which they open. -/
def Content.elements : Content → List Element
  | .nothing => []
  | .text _ more => more.elements
  | .element name attributes inner more =>
    { name, attributes, content := inner } :: (inner.elements ++ more.elements)

/-- An element and all elements in it, in the order in which they open. -/
def Element.elements (e : Element) : List Element := e.toContent.elements

/-- Whether an element has a name, no attributes, and something in it, even if that is an empty text. -/
def Element.isField (tag : Text) (e : Element) : Bool :=
  decide (e.name = tag ∧ e.attributes = [] ∧ e.content ≠ .nothing)

/-- The texts of content without elements, one after another. -/
def Content.run? : Content → Option Text
  | .nothing => some []
  | .text run more => more.run?.map (run ++ ·)
  | .element _ _ _ _ => none

/-! ### Small lemmas -/

theorem Content.isNamed_element {name : Text} {attributes : List Attribute} {inner more : Content}
    (h : (Content.element name attributes inner more).isNamed = true) :
    isName name = true ∧ (∀ a ∈ attributes, isName a.1 = true) ∧ inner.isNamed = true ∧ more.isNamed = true := by
  simp only [Content.isNamed, Bool.and_eq_true, List.all_eq_true] at h
  obtain ⟨⟨⟨hname, hattributes⟩, hinner⟩, hmore⟩ := h
  exact ⟨hname, hattributes, hinner, hmore⟩

theorem isName_iff {name : Text} : isName name = true ↔ name ≠ [] ∧ name.all isNameChar = true := by
  cases name <;> simp [isName]

theorem not_mem_of_isName {name : Text} {c : Char} (h : isName name = true) (hc : isNameChar c = false) :
    c ∉ name := by
  intro hmem
  have := List.all_eq_true.1 (isName_iff.1 h).2 c hmem
  rw [hc] at this
  exact Bool.noConfusion this

/-- Data holds none of the characters that delimit markup. -/
theorem not_mem_escapedChar {d : Char} (hd : d ∈ ['<', '>', '"', '\'']) (c : Char) : d ∉ escapedChar c := by
  have hkinds : d = '<' ∨ d = '>' ∨ d = '"' ∨ d = '\'' := by simpa using hd
  unfold escapedChar
  split
  · rcases hkinds with rfl | rfl | rfl | rfl <;> decide
  · rcases hkinds with rfl | rfl | rfl | rfl <;> decide
  · rcases hkinds with rfl | rfl | rfl | rfl <;> decide
  · rcases hkinds with rfl | rfl | rfl | rfl <;> decide
  · rcases hkinds with rfl | rfl | rfl | rfl <;> decide
  · rename_i hlt hgt hquot hapos
    intro hmem
    rw [List.mem_singleton.1 hmem] at hkinds
    rcases hkinds with h | h | h | h
    · exact hlt h
    · exact hgt h
    · exact hquot h
    · exact hapos h

theorem not_mem_escape {d : Char} (hd : d ∈ ['<', '>', '"', '\'']) (s : Text) : d ∉ escape s := by
  intro h
  obtain ⟨c, _, hc⟩ := List.mem_flatMap.1 h
  exact not_mem_escapedChar hd c hc

theorem escape_eq_nil {s : Text} : escape s = [] ↔ s = [] := by
  constructor
  · intro h
    rw [← unescape_escape s, h]
    rfl
  · intro h
    rw [h]
    rfl

/-- Nor does what is written of attributes hold the ends of a tag. -/
theorem not_mem_attributes {d : Char} (hd : d ∈ ['<', '>']) {attributes : List Attribute}
    (h : ∀ a ∈ attributes, isName a.1 = true) : d ∉ attributes.flatMap attributeText := by
  intro hmem
  obtain ⟨a, ha, hin⟩ := List.mem_flatMap.1 hmem
  have hends : d = '<' ∨ d = '>' := by simpa using hd
  have hkind : isNameChar d = false ∧ d ∈ ['<', '>', '"', '\''] ∧ d ∉ [' ', '=', '"'] := by
    rcases hends with rfl | rfl <;> decide
  obtain ⟨hchar, hdelimiter, hother⟩ := hkind
  have hname : d ∉ a.1 := not_mem_of_isName (h a ha) hchar
  have hvalue : d ∉ escape a.2 := not_mem_escape hdelimiter a.2
  simp only [List.mem_cons, List.not_mem_nil, or_false, not_or] at hother
  simp [attributeText, hname, hvalue, hother] at hin

theorem Content.isNothing_eq_false {c : Content} : c.isNothing = false ↔ c ≠ .nothing := by
  cases c <;> simp [Content.isNothing]

theorem Content.render_run {c : Content} {w : Text} (h : c.run? = some w) : c.render = escape w := by
  induction c generalizing w with
  | nothing =>
    cases h
    rfl
  | text run more ih =>
    obtain ⟨v, hv, rfl⟩ := Option.map_eq_some_iff.1 h
    rw [Content.render, ih hv, escape_append]
  | element name attributes inner more _ _ => simp [Content.run?] at h

/-! ### How an element is written -/

theorem Content.render_element (name : Text) (attributes : List Attribute) (inner more : Content) :
    (Content.element name attributes inner more).render
      = ({ name, attributes, content := inner } : Element).render ++ more.render := by
  simp [Content.render, Element.render, Element.toContent]

theorem Element.render_closed {e : Element} (h : e.content = .nothing) :
    e.render = tagHead e.name e.attributes ++ ['/', '>'] := by
  simp [Element.render, Element.toContent, Content.render, Content.isNothing, h]

theorem Element.render_open {e : Element} (h : e.content ≠ .nothing) :
    e.render = tagHead e.name e.attributes ++ ['>'] ++ (e.content.render ++ closeTag e.name) := by
  have hopen : e.content.isNothing = false := Content.isNothing_eq_false.2 h
  simp [Element.render, Element.toContent, Content.render, hopen]

/-- A field is its content between its two bare tags. -/
theorem Element.render_field {e : Element} {tag : Text} (h : e.isField tag = true) :
    e.render = openTag tag ++ (e.content.render ++ closeTag tag) := by
  obtain ⟨hname, hattributes, hcontent⟩ := of_decide_eq_true h
  rw [Element.render_open hcontent, hname, hattributes]
  simp [tagHead, openTag]

/-! ### Tags that a search passes over -/

/-- A tag, from its `<` to any character after its name, is not the tag that is looked for, if the names differ
or if it goes on after the name. -/
theorem after?_openTag {tag name : Text} {c : Char} (ht : isName tag = true) (hn : name.all isNameChar = true)
    (hc : isNameChar c = false) (hne : ¬ (name = tag ∧ c = '>')) (rest : Text) :
    Text.after? (openTag tag) ('<' :: (name ++ c :: rest)) = none := by
  cases h : Text.after? (openTag tag) ('<' :: (name ++ c :: rest)) with
  | none => rfl
  | some r =>
    have hsame : name ++ c :: rest = tag ++ '>' :: r := by
      have := Text.after?_eq_some.1 h
      simpa [openTag] using this
    obtain ⟨hname, hend, _⟩ := Text.run_inj hn (isName_iff.1 ht).2 hc (by decide) hsame
    exact absurd ⟨hname, hend⟩ hne

/-- Markup that opens with `<`, a name of any length and a character that ends the name. -/
theorem skips_markup (name : Text) (c : Char) (more : Text) {tag : Text} (ht : isName tag = true)
    (hn : name.all isNameChar = true) (hc : isNameChar c = false) (hne : ¬ (name = tag ∧ c = '>'))
    (hmore : '<' ∉ c :: more) : Skips (openTag tag) ('<' :: (name ++ c :: more)) := by
  refine Skips.cons (fun rest => ?_) (Text.skips_of_not_mem ?_)
  · rw [List.append_assoc, List.cons_append]
    exact after?_openTag ht hn hc hne (more ++ rest)
  · intro hmem
    rcases List.mem_append.1 hmem with hname | hend
    · have := List.all_eq_true.1 hn '<' hname
      exact absurd this (by decide)
    · exact hmore hend

theorem skips_declaration {tag : Text} (ht : isName tag = true) : Skips (openTag tag) declaration := by
  refine skips_markup [] '?' _ ht rfl (by decide) ?_ (by decide)
  intro hgiven
  obtain ⟨-, hend⟩ := hgiven
  exact absurd hend (by decide)

theorem skips_closeTag {tag name : Text} (ht : isName tag = true) (hn : isName name = true) :
    Skips (openTag tag) (closeTag name) := by
  refine skips_markup [] '/' _ ht rfl (by decide) ?_ ?_
  · intro hgiven
    obtain ⟨-, hend⟩ := hgiven
    exact absurd hend (by decide)
  · have hname : '<' ∉ name := not_mem_of_isName hn (by decide)
    simp [hname]

/-- The beginning of an element is passed over, unless it is the bare opening tag that is looked for. -/
theorem skips_tagHead {tag name ending : Text} {attributes : List Attribute} (ht : isName tag = true)
    (hn : isName name = true) (ha : ∀ a ∈ attributes, isName a.1 = true) (hend : ending = ['/', '>'] ∨ ending = ['>'])
    (hne : ¬ (name = tag ∧ attributes = [] ∧ ending = ['>'])) :
    Skips (openTag tag) (tagHead name attributes ++ ending) := by
  have hall := (isName_iff.1 hn).2
  have hlt : '<' ∉ ending := by rcases hend with rfl | rfl <;> decide
  cases attributes with
  | nil =>
    -- the name is followed by the ending itself
    rcases hend with rfl | rfl
    · have := skips_markup name '/' ['>'] ht hall (by decide) (by simp) (by decide)
      simpa [tagHead] using this
    · have hname : ¬ (name = tag ∧ '>' = '>') := fun h => hne ⟨h.1, rfl, rfl⟩
      have := skips_markup name '>' [] ht hall (by decide) hname (by decide)
      simpa [tagHead] using this
  | cons a more =>
    -- the name is followed by the blank before the first attribute
    have hattributes : '<' ∉ _ := not_mem_attributes (by decide) ha
    rw [List.flatMap_cons, attributeText, List.cons_append, List.mem_cons, not_or] at hattributes
    have hmore : '<' ∉ ' ' :: (a.1 ++ '=' :: '"' :: (escape a.2 ++ ['"']) ++ more.flatMap attributeText ++ ending) := by
      rw [List.mem_cons, not_or, List.mem_append, not_or]
      exact ⟨by decide, hattributes.2, hlt⟩
    have := skips_markup name ' ' _ ht hall (by decide) (by simp) hmore
    simpa [tagHead, attributeText] using this

/-! ### Elements that a search passes over, and the first one it finds -/

/-- An element that is no field is passed over, if its content is. -/
theorem Element.skips_render {tag : Text} {e : Element} (ht : isName tag = true) (hn : isName e.name = true)
    (ha : ∀ a ∈ e.attributes, isName a.1 = true) (hfield : e.isField tag = false)
    (hcontent : Skips (openTag tag) e.content.render) : Skips (openTag tag) e.render := by
  by_cases h : e.content = .nothing
  · rw [Element.render_closed h]
    exact skips_tagHead ht hn ha (Or.inl rfl) (by simp)
  · rw [Element.render_open h]
    refine Skips.append (skips_tagHead ht hn ha (Or.inr rfl) ?_) (hcontent.append (skips_closeTag ht hn))
    intro hgiven
    obtain ⟨hname, hattributes, -⟩ := hgiven
    exact of_decide_eq_false hfield ⟨hname, hattributes, h⟩

/-- **Content without a field of the name is passed over as a whole.** -/
theorem Content.skips_render {tag : Text} (ht : isName tag = true) (c : Content) (hc : c.isNamed = true)
    (hnone : ∀ x ∈ c.elements, x.isField tag = false) : Skips (openTag tag) c.render := by
  induction c with
  | nothing => exact Text.skips_nil _
  | text run more ih =>
    exact Skips.append (Text.skips_of_not_mem (not_mem_escape (by decide) run)) (ih hc hnone)
  | element name attributes inner more ihInner ihMore =>
    obtain ⟨hname, hattributes, hinner, hmore⟩ := Content.isNamed_element hc
    simp only [Content.elements, List.mem_cons, List.mem_append, forall_eq_or_imp] at hnone
    obtain ⟨hself, hrest⟩ := hnone
    rw [Content.render_element]
    have hin : Skips (openTag tag) inner.render := ihInner hinner fun x hx => hrest x (Or.inl hx)
    exact Skips.append (Element.skips_render ht hname hattributes hself hin)
      (ihMore hmore fun x hx => hrest x (Or.inr hx))

/-- **The first field in the order of the document is where a search first finds its tag.** -/
theorem Content.exists_field {tag : Text} (ht : isName tag = true) {x : Element} (c : Content)
    (hc : c.isNamed = true) (hfind : c.elements.find? (Element.isField tag) = some x) :
    ∃ before after, c.render = before ++ (openTag tag ++ (x.content.render ++ (closeTag tag ++ after)))
      ∧ Skips (openTag tag) before := by
  induction c with
  | nothing => exact absurd hfind (by simp [Content.elements])
  | text run more ih =>
    obtain ⟨before, after, hrender, hskip⟩ := ih hc hfind
    refine ⟨escape run ++ before, after, ?_, ?_⟩
    · rw [Content.render, hrender, List.append_assoc]
    · exact Skips.append (Text.skips_of_not_mem (not_mem_escape (by decide) run)) hskip
  | element name attributes inner more ihInner ihMore =>
    obtain ⟨hname, hattributes, hinner, hmore⟩ := Content.isNamed_element hc
    rw [Content.render_element]
    by_cases hself : Element.isField tag { name, attributes, content := inner } = true
    · -- the element itself is the first field
      rw [Content.elements, List.find?_cons_of_pos hself, Option.some.injEq] at hfind
      subst hfind
      refine ⟨[], more.render, ?_, Text.skips_nil _⟩
      rw [Element.render_field hself]
      simp
    · rw [Content.elements, List.find?_cons_of_neg hself, List.find?_append] at hfind
      rw [Bool.not_eq_true] at hself
      cases hin : inner.elements.find? (Element.isField tag) with
      | some y =>
        -- the first field is inside the element, which therefore has content
        rw [hin, Option.some_or, Option.some.injEq] at hfind
        subst hfind
        obtain ⟨before, after, hrender, hskip⟩ := ihInner hinner hin
        have hopen : inner ≠ .nothing := by
          intro hsame
          subst hsame
          simp [Content.elements] at hin
        refine ⟨tagHead name attributes ++ ['>'] ++ before, after ++ (closeTag name ++ more.render), ?_, ?_⟩
        · rw [Element.render_open hopen]
          simp [hrender]
        · refine Skips.append (skips_tagHead ht hname hattributes (Or.inr rfl) ?_) hskip
          intro hgiven
          obtain ⟨htag, hempty, -⟩ := hgiven
          exact of_decide_eq_false hself ⟨htag, hempty, hopen⟩
      | none =>
        -- the element is passed over, and the first field comes after it
        rw [hin, Option.none_or] at hfind
        obtain ⟨before, after, hrender, hskip⟩ := ihMore hmore hfind
        have hnone : ∀ y ∈ inner.elements, y.isField tag = false := by
          intro y hy
          simpa using List.find?_eq_none.1 hin y hy
        refine ⟨Element.render { name, attributes, content := inner } ++ before, after, ?_, ?_⟩
        · rw [hrender, List.append_assoc]
        · exact Skips.append (Element.skips_render ht hname hattributes hself
            (Content.skips_render ht inner hinner hnone)) hskip

/-! ### Documents -/

section Documents

variable {tag : Text} {e x : Element}

/-- The first field of a document is found, with its content up to the closing tag. -/
theorem Element.exists_field (ht : isName tag = true) (he : e.isNamed = true)
    (hfind : e.elements.find? (Element.isField tag) = some x) :
    ∃ before after, e.document = before ++ (openTag tag ++ (x.content.render ++ (closeTag tag ++ after)))
      ∧ Skips (openTag tag) before := by
  obtain ⟨before, after, hrender, hskip⟩ := Content.exists_field ht e.toContent he hfind
  refine ⟨declaration ++ before, after, ?_, Skips.append (skips_declaration ht) hskip⟩
  rw [Element.document, Element.render, hrender, List.append_assoc]

/-- A document without a field of the name is passed over. -/
theorem Element.skips_document (ht : isName tag = true) (he : e.isNamed = true)
    (hnone : ∀ y ∈ e.elements, y.isField tag = false) : Skips (openTag tag) e.document :=
  Skips.append (skips_declaration ht) (Content.skips_render ht e.toContent he hnone)

/-- **The opening tag occurs exactly where an element is a field of that name.** -/
theorem hasTag_document_iff (ht : isName tag = true) (he : e.isNamed = true) :
    Envelope.hasTag e.document tag = true ↔ ∃ y ∈ e.elements, y.isField tag = true := by
  rw [← List.find?_isSome]
  cases hfind : e.elements.find? (Element.isField tag) with
  | none =>
    have hnone : ∀ y ∈ e.elements, y.isField tag = false := by
      intro y hy
      simpa using List.find?_eq_none.1 hfind y hy
    have hcut := (Element.skips_document ht he hnone).cut?_eq_none
    rw [Envelope.hasTag, Text.occurs, openTag, hcut]
    rfl
  | some x =>
    obtain ⟨before, after, hdoc, hskip⟩ := Element.exists_field ht he hfind
    rw [Envelope.hasTag, Text.occurs, hdoc, hskip.cut?_eq]
    rfl

/-- The field of a name is what the first such element holds, if that is text alone. -/
theorem field?_document (ht : isName tag = true) (he : e.isNamed = true)
    (hfind : e.elements.find? (Element.isField tag) = some x) {w : Text} (hrun : x.content.run? = some w) :
    Envelope.field? e.document tag = if w = [] then none else some (escape w) := by
  obtain ⟨before, after, hdoc, hskip⟩ := Element.exists_field ht he hfind
  rw [Content.render_run hrun] at hdoc
  -- the escaped text cannot hide the closing tag, since it holds no `<` at all
  have hclose : Skips (closeTag tag) (escape w) := Text.skips_of_not_mem (not_mem_escape (by decide) w)
  rw [hdoc, Envelope.field?_of_cut (hskip.cut?_eq _) (hclose.cut?_eq _)]
  simp only [escape_eq_nil]

theorem field?_document_eq_none (ht : isName tag = true) (he : e.isNamed = true)
    (hnone : ∀ y ∈ e.elements, y.isField tag = false) : Envelope.field? e.document tag = none := by
  have hcut := (Element.skips_document ht he hnone).cut?_eq_none
  rw [Envelope.field?, openTag, hcut]

/-- What is read from a field is the text that was written. -/
theorem textField?_document (ht : isName tag = true) (he : e.isNamed = true)
    (hfind : e.elements.find? (Element.isField tag) = some x) {w : Text} (hrun : x.content.run? = some w) :
    Envelope.textField? e.document tag = if w = [] then none else some w := by
  rw [Envelope.textField?, field?_document ht he hfind hrun]
  by_cases hw : w = []
  · rw [if_pos hw, if_pos hw, Option.map_none]
  · rw [if_neg hw, if_neg hw, Option.map_some, unescape_escape]

theorem textField?_document_eq_none (ht : isName tag = true) (he : e.isNamed = true)
    (hnone : ∀ y ∈ e.elements, y.isField tag = false) : Envelope.textField? e.document tag = none := by
  rw [Envelope.textField?, field?_document_eq_none ht he hnone, Option.map_none]

/-- **No markup is forged by data.**  In the document of any element whose names are names, whatever its texts
and attribute values hold: the tag occurs exactly if some element of that name has no attributes and something
in it; if the first such element holds text alone, that text is what is read, an empty one as none; and without
such an element nothing is read. -/
theorem read_of_document (ht : isName tag = true) (he : e.isNamed = true) :
    (Envelope.hasTag e.document tag = true
      ↔ ∃ y ∈ e.elements, y.name = tag ∧ y.attributes = [] ∧ y.content ≠ .nothing)
    ∧ (∀ y w, e.elements.find? (Element.isField tag) = some y → y.content.run? = some w →
        Envelope.textField? e.document tag = if w = [] then none else some w)
    ∧ ((¬ ∃ y ∈ e.elements, y.name = tag ∧ y.attributes = [] ∧ y.content ≠ .nothing) →
        Envelope.textField? e.document tag = none) := by
  have hfield : ∀ y : Element,
      y.isField tag = true ↔ y.name = tag ∧ y.attributes = [] ∧ y.content ≠ .nothing := by
    intro y
    rw [Element.isField, decide_eq_true_iff]
  refine ⟨?_, fun y w hfind hrun => textField?_document ht he hfind hrun, fun hnot => ?_⟩
  · rw [hasTag_document_iff ht he]
    simp only [hfield]
  · refine textField?_document_eq_none ht he fun y hy => ?_
    exact Bool.eq_false_iff.2 fun h => hnot ⟨y, hy, (hfield y).1 h⟩

/-- An element `a` whose attribute and first text look like an element `b`, and which then holds a real `b`. -/
def forger : Element :=
  (({ name := ['a'] } : Element).attr ['x'] "<b>1</b>".toList |>.text "<b>2</b>".toList).child
    (.leaf ['b'] "</b>&lt;".toList)

/-- The real element is read, with its text as it was. -/
theorem read_of_forger :
    isName ['b'] = true ∧ forger.isNamed = true ∧ Envelope.hasTag forger.document ['b'] = true
      ∧ Envelope.textField? forger.document ['b'] = some "</b>&lt;".toList := by
  have ht : isName ['b'] = true := by decide
  have he : forger.isNamed = true := by decide
  obtain ⟨hhas, hread, -⟩ := read_of_document ht he
  refine ⟨ht, he, hhas.2 ⟨.leaf ['b'] "</b>&lt;".toList, by decide, rfl, rfl, by decide⟩, ?_⟩
  exact hread (.leaf ['b'] "</b>&lt;".toList) _ (by decide) rfl

end Documents

end Markup

end Multiples
