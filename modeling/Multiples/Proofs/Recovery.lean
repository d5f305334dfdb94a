import Multiples.Proofs.Cells
import Multiples.Proofs.Fields

/-!
# Elements recovered from their documents

Writing an element loses nothing but the seams between its texts: two elements have the same document exactly if
they are alike up to where their runs of text are cut.  The proof is a reader that takes any written document
apart again.

* `Element.Alike` — the same names, attributes, nesting and runs of text; **having nothing inside is not the same
  as having an empty text inside**;
* `Element.normal` — adjacent texts joined and empty ones dropped, the form in which every element is read;
  `Element.alike_iff` says that it is one for all elements that are alike;
* `Tag.read?` — the tag between a `<` and a `>`; quotes delimit its attribute values;
* `Tail.read?` — a document from some point to its end, read **from the end**: a closing tag opens a level, and
  the opening tag before it closes that level again;
* `Tail.read?_render` — what stands before a point that was read joins what was read there;
* `Element.document_eq_document_iff` — the main statement.

The reader cuts at `<`, `>`, `=` and `"` without looking further, which is right since data holds none of them.
-/

namespace Multiples

namespace Markup

/-! ### Alike up to the seams of texts -/

/-- Content that differs at most in where its texts are cut, inside its elements too. -/
inductive Content.Alike : Content → Content → Prop
  | refl (c : Content) : Alike c c
  | symm {c d : Content} (h : Alike c d) : Alike d c
  | trans {c d e : Content} (h : Alike c d) (h' : Alike d e) : Alike c e
  | joined (first second : Text) (more : Content) :
      Alike (.text first (.text second more)) (.text (first ++ second) more)
  | dropped (more : Content) : Alike (.text [] more) more
  | text (run : Text) {more more' : Content} (h : Alike more more') : Alike (.text run more) (.text run more')
  | element (name : Text) (attributes : List Attribute) {inner inner' more more' : Content}
      (hnothing : inner.isNothing = inner'.isNothing) (hinner : Alike inner inner') (hmore : Alike more more') :
      Alike (.element name attributes inner more) (.element name attributes inner' more')

/-- Elements that differ at most in where the texts inside them are cut. -/
structure Element.Alike (e f : Element) : Prop where
  name : e.name = f.name
  attributes : e.attributes = f.attributes
  nothing : e.content.isNothing = f.content.isNothing
  content : e.content.Alike f.content

theorem Content.Alike.render_eq {c d : Content} (h : c.Alike d) : c.render = d.render := by
  induction h with
  | refl c => rfl
  | symm _ ih => exact ih.symm
  | trans _ _ ih ih' => exact ih.trans ih'
  | joined first second more =>
    rw [Content.render, Content.render, Content.render, escape_append, List.append_assoc]
  | dropped more => rfl
  | text run _ ih => rw [Content.render, Content.render, ih]
  | element name attributes hnothing _ _ ihInner ihMore =>
    rw [Content.render, Content.render, hnothing, ihInner, ihMore]

namespace Element

theorem Alike.symm {e f : Element} (h : e.Alike f) : f.Alike e :=
  ⟨h.name.symm, h.attributes.symm, h.nothing.symm, h.content.symm⟩

theorem Alike.trans {e f g : Element} (h : e.Alike f) (h' : f.Alike g) : e.Alike g :=
  ⟨h.name.trans h'.name, h.attributes.trans h'.attributes, h.nothing.trans h'.nothing, h.content.trans h'.content⟩

theorem Alike.document_eq {e f : Element} (h : e.Alike f) : e.document = f.document := by
  have hcontent : e.toContent.Alike f.toContent := by
    rw [Element.toContent, Element.toContent, h.name, h.attributes]
    exact .element f.name f.attributes h.nothing h.content (.refl .nothing)
  rw [Element.document, Element.document, Element.render, Element.render, hcontent.render_eq]

end Element

/-! ### The normal form -/

/-- Content with a run of text before it: joined to its first text, and dropped if it is empty. -/
def Content.withRun (run : Text) : Content → Content
  | .text next more => .text (run ++ next) more
  | c => if run = [] then c else .text run c

/-- Content with an empty text in it, if there is nothing in it. -/
def Content.filled : Content → Content
  | .nothing => .text [] .nothing
  | c => c

/-- What stands inside an element in normal form, from what was given and its normal form. -/
def Content.inside (given normal : Content) : Content := if given.isNothing then .nothing else normal.filled

/-- The normal form of some content, with content in normal form after it. -/
def Content.before : Content → Content → Content
  | .nothing, after => after
  | .text run more, after => (more.before after).withRun run
  | .element name attributes inner more, after =>
    .element name attributes (inner.inside (inner.before .nothing)) (more.before after)

/-- An element with adjacent texts joined and empty ones dropped. -/
def Element.normal (e : Element) : Element := { e with content := e.content.inside (e.content.before .nothing) }

theorem Content.withRun_nil (c : Content) : c.withRun [] = c := by
  cases c <;> rfl

theorem Content.withRun_append (first second : Text) (c : Content) :
    c.withRun (first ++ second) = (c.withRun second).withRun first := by
  by_cases hsecond : second = []
  · rw [hsecond, List.append_nil, withRun_nil]
  · cases c with
    | text run more => simp [withRun]
    | nothing => simp [withRun, hsecond]
    | element name attributes inner more => simp [withRun, hsecond]

theorem Content.alike_withRun (run : Text) (c : Content) : (Content.text run c).Alike (c.withRun run) := by
  by_cases hrun : run = []
  · rw [hrun, withRun_nil]
    exact .dropped c
  · cases c with
    | text next more => exact .joined run next more
    | nothing =>
      show Content.Alike _ (if run = [] then _ else _)
      rw [if_neg hrun]
      exact .refl _
    | element name attributes inner more =>
      show Content.Alike _ (if run = [] then _ else _)
      rw [if_neg hrun]
      exact .refl _

theorem Content.alike_filled (c : Content) : c.Alike c.filled := by
  cases c with
  | nothing => exact .symm (.dropped .nothing)
  | text run more => exact .refl _
  | element name attributes inner more => exact .refl _

theorem Content.isNothing_filled (c : Content) : c.filled.isNothing = false := by
  cases c <;> rfl

theorem Content.isNothing_inside (given normal : Content) : (given.inside normal).isNothing = given.isNothing := by
  rw [inside]
  cases h : given.isNothing with
  | true => rfl
  | false => exact isNothing_filled normal

theorem Content.alike_inside {given normal : Content} (h : given.Alike normal) : given.Alike (given.inside normal) := by
  cases given with
  | nothing => exact .refl .nothing
  | text run more => exact h.trans (alike_filled normal)
  | element name attributes inner more => exact h.trans (alike_filled normal)

theorem Content.alike_before (c : Content) : c.Alike (c.before .nothing) := by
  induction c with
  | nothing => exact .refl .nothing
  | text run more ih => exact (Content.Alike.text run ih).trans (alike_withRun run _)
  | element name attributes inner more ihInner ihMore =>
    exact .element name attributes (isNothing_inside inner _).symm (alike_inside ihInner) ihMore

/-- Content that is alike has one normal form. -/
theorem Content.Alike.before_eq {c d : Content} (h : c.Alike d) (after : Content) : c.before after = d.before after := by
  induction h generalizing after with
  | refl c => rfl
  | symm _ ih => exact (ih after).symm
  | trans _ _ ih ih' => exact (ih after).trans (ih' after)
  | joined first second more => exact (withRun_append first second _).symm
  | dropped more => exact withRun_nil _
  | text run _ ih => rw [before, before, ih]
  | element name attributes hnothing _ _ ihInner ihMore =>
    rw [before, before, inside, inside, hnothing, ihInner, ihMore]

theorem Element.alike_normal (e : Element) : e.Alike e.normal where
  name := rfl
  attributes := rfl
  nothing := (Content.isNothing_inside e.content _).symm
  content := Content.alike_inside (Content.alike_before e.content)

/-- **Elements are alike exactly if they have one normal form.** -/
theorem Element.alike_iff {e f : Element} : e.Alike f ↔ e.normal = f.normal := by
  constructor
  · intro h
    have hcontent : e.content.inside (e.content.before .nothing) = f.content.inside (f.content.before .nothing) := by
      rw [Content.inside, Content.inside, h.nothing, h.content.before_eq]
    rw [Element.normal, Element.normal, hcontent, h.name, h.attributes]
  · intro h
    have hlike : e.normal.Alike f := h ▸ f.alike_normal.symm
    exact e.alike_normal.trans hlike

instance (e f : Element) : Decidable (e.Alike f) := decidable_of_iff _ Element.alike_iff.symm

/-! ### Tags -/

/-- What can stand between a `<` and a `>`, the declaration aside. -/
inductive Tag where
  | opening (name : Text) (attributes : List Attribute)
  | closed (name : Text) (attributes : List Attribute)
  | closing (name : Text)
deriving DecidableEq, Repr

namespace Tag

/-- How a tag is written between `<` and `>`. -/
def text : Tag → Text
  | .opening name attributes => name ++ attributes.flatMap attributeText
  | .closed name attributes => name ++ (attributes.flatMap attributeText ++ ['/'])
  | .closing name => '/' :: name

/-- Whether a tag has a name, and so has each of its attributes. -/
def isNamed : Tag → Bool
  | .opening name attributes => isName name && attributes.all fun a => isName a.1
  | .closed name attributes => isName name && attributes.all fun a => isName a.1
  | .closing name => isName name

/-- The attributes in the cells between quotes, and what follows the last one. -/
def attributes? : List Text → Option (List Attribute × Text)
  | [] => none
  | [ending] => some ([], ending)
  | key :: value :: more => do
    let (name, _) ← Text.cut? ['='] (← Text.after? [' '] key)
    let (attributes, ending) ← attributes? more
    some ((name, unescape value) :: attributes, ending)

/-- The tag that is written between `<` and `>`. -/
def read? : Text → Option Tag
  | '/' :: name => some (.closing name)
  | s => do
    let name := s.takeWhile isNameChar
    let (attributes, ending) ← attributes? (Text.cells '"' (s.dropWhile isNameChar))
    if ending = [] then some (.opening name attributes)
    else if ending = ['/'] then some (.closed name attributes)
    else none

theorem attributes?_cells {attributes : List Attribute} (h : ∀ a ∈ attributes, isName a.1 = true) {ending : Text}
    (hending : '"' ∉ ending) :
    attributes? (Text.cells '"' (attributes.flatMap attributeText ++ ending)) = some (attributes, ending) := by
  induction attributes with
  | nil =>
    show attributes? (Text.cells '"' ending) = some ([], ending)
    rw [Text.cells_of_not_mem hending]
    rfl
  | cons a more ih =>
    have hname : isName a.1 = true := h a List.mem_cons_self
    have hkey : '"' ∉ ' ' :: (a.1 ++ ['=']) := by
      have hquote : '"' ∉ a.1 := not_mem_of_isName hname (by decide)
      simp [hquote]
    have hvalue : '"' ∉ escape a.2 := not_mem_escape (by decide) a.2
    have hwritten : (a :: more).flatMap attributeText ++ ending
        = (' ' :: (a.1 ++ ['='])) ++ '"' :: (escape a.2 ++ '"' :: (more.flatMap attributeText ++ ending)) := by
      simp [attributeText]
    have hequals : Text.cut? ['='] (a.1 ++ ['=']) = some (a.1, []) :=
      (Text.skips_of_not_mem (not_mem_of_isName hname (by decide))).cut?_eq []
    have hmore := ih fun b hb => h b (List.mem_cons_of_mem a hb)
    rw [hwritten, Text.cells_append hkey, Text.cells_append hvalue]
    simp [attributes?, Text.after?, hequals, hmore, unescape_escape]

/-- A name ends where its attributes or the ending of the tag begin. -/
theorem isNameChar_head {attributes : List Attribute} {ending : Text} (hending : ending = [] ∨ ending = ['/'])
    {c : Char} (hc : (attributes.flatMap attributeText ++ ending).head? = some c) : isNameChar c = false := by
  cases attributes with
  | nil =>
    rcases hending with rfl | rfl
    · exact nomatch hc
    · cases hc
      decide
  | cons a more =>
    cases hc
    decide

theorem read?_of_name {name ending : Text} {attributes : List Attribute} (hname : isName name = true)
    (hattributes : ∀ a ∈ attributes, isName a.1 = true) (hending : ending = [] ∨ ending = ['/']) :
    read? (name ++ (attributes.flatMap attributeText ++ ending))
      = if ending = [] then some (.opening name attributes) else some (.closed name attributes) := by
  have hhead : ∀ c, (attributes.flatMap attributeText ++ ending).head? = some c → isNameChar c = false :=
    fun c => isNameChar_head hending
  have hquote : '"' ∉ ending := by rcases hending with rfl | rfl <;> decide
  have hread := attributes?_cells hattributes hquote
  have hall := (isName_iff.1 hname).2
  rw [read?]
  · simp only [Text.takeWhile_run hall hhead, Text.dropWhile_run hall hhead, hread]
    rcases hending with rfl | rfl
    · rfl
    · rfl
  · intro t hsame
    -- a name is not empty and has no slash, so this is no closing tag
    cases name with
    | nil => exact absurd hname (by decide)
    | cons c name =>
      have hslash := List.all_eq_true.1 hall c List.mem_cons_self
      rw [(List.cons.inj hsame).1] at hslash
      exact absurd hslash (by decide)

/-- **A written tag is read back.** -/
theorem read?_text {tag : Tag} (h : tag.isNamed = true) : read? tag.text = some tag := by
  cases tag with
  | opening name attributes =>
    rw [isNamed, Bool.and_eq_true, List.all_eq_true] at h
    have := read?_of_name h.1 h.2 (Or.inl rfl)
    rwa [List.append_nil] at this
  | closed name attributes =>
    rw [isNamed, Bool.and_eq_true, List.all_eq_true] at h
    exact read?_of_name h.1 h.2 (Or.inr rfl)
  | closing name => rfl

/-- No tag holds the ends of a tag. -/
theorem not_mem_text {tag : Tag} (h : tag.isNamed = true) {d : Char} (hd : d ∈ ['<', '>']) : d ∉ tag.text := by
  have hends : d = '<' ∨ d = '>' := by simpa using hd
  have hkind : isNameChar d = false ∧ d ≠ '/' := by rcases hends with rfl | rfl <;> decide
  obtain ⟨hchar, hslash⟩ := hkind
  cases tag with
  | opening name attributes =>
    rw [isNamed, Bool.and_eq_true, List.all_eq_true] at h
    rw [text, List.mem_append, not_or]
    exact ⟨not_mem_of_isName h.1 hchar, not_mem_attributes hd h.2⟩
  | closed name attributes =>
    rw [isNamed, Bool.and_eq_true, List.all_eq_true] at h
    rw [text, List.mem_append, List.mem_append, List.mem_singleton, not_or, not_or]
    exact ⟨not_mem_of_isName h.1 hchar, not_mem_attributes hd h.2, hslash⟩
  | closing name =>
    rw [text, List.mem_cons, not_or]
    exact ⟨hslash, not_mem_of_isName h hchar⟩

end Tag

/-! ### Reading from the end -/

/-- What a document says from some point to its end: the content up to where a level ends, and for each level that
ends after it the name in its closing tag and the content that follows, up to where the next one ends. -/
structure Tail where
  content : Content
  outer : List (Text × Content)
deriving DecidableEq, Repr

namespace Tail

/-- Nothing more. -/
def nil : Tail := ⟨.nothing, []⟩

def withRun (run : Text) (t : Tail) : Tail := { t with content := t.content.withRun run }

/-- A tag before a tail: a closing tag opens one more level, an opening tag needs the level with its name. -/
def withTag? : Tag → Tail → Option Tail
  | .closing name, t => some ⟨.nothing, (name, t.content) :: t.outer⟩
  | .closed name attributes, t => some ⟨.element name attributes .nothing t.content, t.outer⟩
  | .opening name attributes, ⟨content, (closing, after) :: outer⟩ =>
    if closing = name then some ⟨.element name attributes content.filled after, outer⟩ else none
  | .opening _ _, ⟨_, []⟩ => none

/-- The tail that begins with the cells between one `<` and the next; each is a tag and a run of text. -/
def ofCells? : List Text → Option Tail
  | [] => some nil
  | cell :: more => do
    let (inside, run) ← Text.cut? ['>'] cell
    let tag ← Tag.read? inside
    let t ← ofCells? more
    (t.withRun (unescape run)).withTag? tag

/-- The tail that a text says. -/
def read? (s : Text) : Option Tail :=
  match Text.cells '<' s with
  | [] => none
  | run :: more => (ofCells? more).map (withRun (unescape run))

theorem withRun_nil (t : Tail) : t.withRun [] = t := by
  rw [withRun, Content.withRun_nil]

theorem read?_nil : read? [] = some nil := rfl

theorem read?_eq {s run : Text} {more : List Text} (h : Text.cells '<' s = run :: more) :
    read? s = (ofCells? more).map (withRun (unescape run)) := by
  rw [read?, h]

theorem read?_escape (run : Text) {s : Text} {t : Tail} (h : read? s = some t) :
    read? (escape run ++ s) = some (t.withRun run) := by
  obtain ⟨first, more, hcells⟩ := Text.exists_cells '<' s
  obtain ⟨u, hu, rfl⟩ := Option.map_eq_some_iff.1 ((read?_eq hcells).symm.trans h)
  rw [read?_eq (Text.cells_append_left (not_mem_escape (by decide) run) hcells), hu, unescape_escape_append]
  simp only [Option.map_some, withRun, Content.withRun_append]

theorem read?_tag {tag : Tag} (htag : tag.isNamed = true) {s : Text} {t : Tail} (h : read? s = some t) :
    read? ('<' :: (tag.text ++ '>' :: s)) = t.withTag? tag := by
  have hlt : '<' ∉ tag.text ++ ['>'] := by
    rw [List.mem_append, not_or]
    exact ⟨Tag.not_mem_text htag (by decide), by decide⟩
  obtain ⟨first, more, hcells⟩ := Text.exists_cells '<' s
  obtain ⟨u, hu, rfl⟩ := Option.map_eq_some_iff.1 ((read?_eq hcells).symm.trans h)
  -- the tag and its end stay in front of the run that what follows begins with
  have hwhole : Text.cells '<' (tag.text ++ '>' :: s) = (tag.text ++ '>' :: first) :: more := by
    have := Text.cells_append_left hlt hcells
    rwa [List.append_assoc, List.append_assoc] at this
  have hcut : Text.cut? ['>'] (tag.text ++ '>' :: first) = some (tag.text, first) :=
    (Text.skips_of_not_mem (Tag.not_mem_text htag (by decide))).cut?_eq first
  rw [read?_eq (Text.cells_cons_self _), hwhole, ofCells?, hcut]
  have hempty : withRun (unescape []) = id := funext withRun_nil
  rw [hempty, Option.map_id]
  show ((Tag.read? tag.text).bind fun found => (ofCells? more).bind fun u =>
    (u.withRun (unescape first)).withTag? found) = _
  rw [Tag.read?_text htag, hu, Option.bind_some, Option.bind_some]

/-- **What is written before a point that was read joins what was read there.** -/
theorem read?_render {c : Content} (hc : c.isNamed = true) {s : Text} {t : Tail} (h : read? s = some t) :
    read? (c.render ++ s) = some { t with content := c.before t.content } := by
  induction c generalizing s t with
  | nothing => exact h
  | text run more ih =>
    rw [Content.render, List.append_assoc]
    exact read?_escape run (ih hc h)
  | element name attributes inner more ihInner ihMore =>
    obtain ⟨hname, hattributes, hinner, hmore⟩ := Content.isNamed_element hc
    have hafter := ihMore hmore h
    have hall : attributes.all (fun a => isName a.1) = true := List.all_eq_true.2 hattributes
    cases hnothing : inner.isNothing with
    | true =>
      have htag : (Tag.closed name attributes).isNamed = true := by rw [Tag.isNamed, hname, hall]; rfl
      have hstep := read?_tag htag hafter
      have hwritten : (Content.element name attributes inner more).render ++ s
          = '<' :: ((Tag.closed name attributes).text ++ '>' :: (more.render ++ s)) := by
        simp [Content.render, hnothing, tagHead, Tag.text]
      rw [hwritten, hstep, Content.before, Content.inside, hnothing]
      rfl
    | false =>
      have hclosing : (Tag.closing name).isNamed = true := hname
      have hopening : (Tag.opening name attributes).isNamed = true := by rw [Tag.isNamed, hname, hall]; rfl
      -- from the end: the closing tag opens a level, the content fills it, the opening tag closes it
      have hlevel := ihInner hinner (read?_tag hclosing hafter)
      have hstep := read?_tag hopening hlevel
      have hwritten : (Content.element name attributes inner more).render ++ s
          = '<' :: ((Tag.opening name attributes).text
            ++ '>' :: (inner.render ++ '<' :: ((Tag.closing name).text ++ '>' :: (more.render ++ s)))) := by
        simp [Content.render, hnothing, tagHead, Tag.text, closeTag]
      rw [hwritten, hstep, withTag?, if_pos rfl, Content.before, Content.inside, hnothing]
      rfl

end Tail

/-- The element that a document says: a tail of one level, with that element alone. -/
def Element.read? (doc : Text) : Option Element := do
  match ← Tail.read? (← Text.after? declaration doc) with
  | ⟨.element name attributes content .nothing, []⟩ => some { name, attributes, content }
  | _ => none

/-- **A written element is read in its normal form.** -/
theorem Element.read?_document {e : Element} (he : e.isNamed = true) : Element.read? e.document = some e.normal := by
  have hafter : Text.after? declaration e.document = some e.render := Text.after?_eq_some.2 rfl
  have hread : Tail.read? e.render = some ⟨e.toContent.before .nothing, []⟩ := by
    have := Tail.read?_render he Tail.read?_nil
    rwa [List.append_nil] at this
  rw [Element.read?, hafter]
  show (Tail.read? e.render).bind _ = _
  rw [hread]
  rfl

/-! ### Main statement -/

/-- **Writing loses nothing but the seams of texts.**  For elements whose names are names, whatever their texts and
attribute values hold: the documents are the same exactly if the elements are alike, that is if they have the same
names, attributes in the same order, nesting and runs of text; and what is read from a document is an element like
the one that was written. -/
theorem Element.document_eq_document_iff {e f : Element} (he : e.isNamed = true) (hf : f.isNamed = true) :
    (e.document = f.document ↔ e.Alike f) ∧ Element.read? e.document = some e.normal ∧ e.Alike e.normal := by
  refine ⟨⟨fun hsame => ?_, Element.Alike.document_eq⟩, Element.read?_document he, e.alike_normal⟩
  have hread := Element.read?_document he
  rw [hsame, Element.read?_document hf] at hread
  exact Element.alike_iff.2 (Option.some.inj hread).symm

/-- An element whose text is torn in three, one part of it empty. -/
def torn : Element :=
  (((({ name := ['a'] } : Element).attr ['x'] "\">".toList).text "<b".toList).text []).text "/>".toList
    |>.child { name := ['c'] }

/-- The same element with its text in one. -/
def mended : Element :=
  ((({ name := ['a'] } : Element).attr ['x'] "\">".toList).text "<b/>".toList).child { name := ['c'] }

/-- The torn element is read as the mended one; with nothing inside and with an empty text inside, two elements
stay apart. -/
theorem document_torn :
    torn.isNamed = true ∧ mended.isNamed = true ∧ torn.Alike mended ∧ Element.read? torn.document = some mended
      ∧ ¬ ({ name := ['a'] } : Element).Alike (Element.leaf ['a'] []) := by
  have htorn : torn.isNamed = true := by decide
  have hmended : mended.isNamed = true := by decide
  obtain ⟨hiff, hread, -⟩ := Element.document_eq_document_iff htorn hmended
  have hnormal : torn.normal = mended := by decide
  have hsame : torn.document = mended.document := by decide
  refine ⟨htorn, hmended, hiff.1 hsame, hnormal ▸ hread, fun hlike => ?_⟩
  exact absurd hlike.document_eq (by decide)

end Markup

end Multiples
