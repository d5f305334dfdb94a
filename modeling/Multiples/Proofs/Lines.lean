import Multiples.Proofs.Answers
import Multiples.Proofs.Entities
import Multiples.Proofs.Occurrences
import Multiples.Proofs.Quotation

/-!
# Answers of one line

A token that is no number comes back in the message of its fault, and the message goes into a document and into a
log.  Whatever characters the token holds, the message and the document are one line of characters that documents may
hold: what could end a line or is not allowed has no printed form, so the quoted token has its code point instead.

* `Text.unfit` — the characters that must not come back; `Text.isFit_of_showsAsIs` — none of them shows itself, and so
  `Text.all_quoted` — **there is none in a quoted text**;
* `Text.isFit_iff` — the characters that are left end no line and are allowed in a document;
* `Markup.Element.all_document` — a document has the characters of its markup and of its parts, and no others;
* `Service.answerBytes_fit` — the answer to any bytes, and its message, have fit characters only.
-/

namespace Multiples

open Markup (Content Element)

/-! ### Tables -/

namespace CharTable

/-- Whether each range of a table lies in a range of another one. -/
def within (inner outer : CharTable) : Bool :=
  inner.all fun range => outer.any fun wide => decide (wide.1 ≤ range.1) && decide (range.2 ≤ wide.2)

/-- Whether no two ranges of two tables meet. -/
def apart (table other : CharTable) : Bool :=
  table.all fun range => other.all fun far => decide (range.2 < far.1) || decide (far.2 < range.1)

variable {table other : CharTable} {c : Char}

theorem has_nil : CharTable.has [] c = true ↔ False := iff_of_false Bool.false_ne_true id

theorem has_cons {range : Nat × Nat} :
    CharTable.has (range :: table) c = true ↔ range.1 ≤ c.toNat ∧ c.toNat ≤ range.2 ∨ table.has c = true := by
  rw [has, List.any_cons, Bool.or_eq_true, Bool.and_eq_true, decide_eq_true_eq, decide_eq_true_eq]
  rfl

theorem has_of_within (h : table.within other = true) (hc : table.has c = true) : other.has c = true := by
  obtain ⟨range, hrange, hlow, hhigh⟩ := has_iff.1 hc
  obtain ⟨wide, hwide, hbounds⟩ := List.any_eq_true.1 (List.all_eq_true.1 h range hrange)
  rw [Bool.and_eq_true, decide_eq_true_eq, decide_eq_true_eq] at hbounds
  exact has_iff.2 ⟨wide, hwide, Nat.le_trans hbounds.1 hlow, Nat.le_trans hhigh hbounds.2⟩

theorem not_has_of_apart (h : table.apart other = true) (hc : table.has c = true) : other.has c = false := by
  rw [← Bool.not_eq_true]
  intro hother
  obtain ⟨range, hrange, hlow, hhigh⟩ := has_iff.1 hc
  obtain ⟨far, hfar, hfarLow, hfarHigh⟩ := has_iff.1 hother
  have hsides := List.all_eq_true.1 (List.all_eq_true.1 h range hrange) far hfar
  rw [Bool.or_eq_true, decide_eq_true_eq, decide_eq_true_eq] at hsides
  omega

end CharTable

namespace Text

/-! ### Fit characters -/

/-- The characters that must not come back: the controls, the separators of lines and paragraphs, and the two
noncharacters that are not allowed in documents. -/
def unfit : CharTable := [(0x00, 0x1f), (0x7f, 0x9f), (0x2028, 0x2029), (0xfffe, 0xffff)]

/-- The characters that end a line: line feed, vertical tabulation, form feed, carriage return, next line, and the
separators of lines and paragraphs. -/
def lineEnds : CharTable := [(0x0a, 0x0d), (0x85, 0x85), (0x2028, 0x2029)]

/-- The characters that XML 1.0 allows. -/
def documentChars : CharTable :=
  [(0x09, 0x09), (0x0a, 0x0a), (0x0d, 0x0d), (0x20, 0xd7ff), (0xe000, 0xfffd), (0x10000, 0x10ffff)]

def isFit (c : Char) : Bool := !unfit.has c

variable {c : Char}

theorem isFit_iff_not : isFit c = true ↔ ¬ unfit.has c = true := by
  rw [isFit, Bool.not_eq_true', Bool.not_eq_true]

/-- Fit characters end no line, and all of them are allowed in documents: what is not allowed is unfit, or is no
character. -/
theorem isFit_iff : isFit c = true ↔ unfit.has c = false ∧ lineEnds.has c = false ∧ documentChars.has c = true := by
  rw [isFit_iff_not, ← Bool.not_eq_true, ← Bool.not_eq_true]
  constructor
  · intro hfit
    refine ⟨hfit, fun hend => hfit (CharTable.has_of_within (by decide) hend), ?_⟩
    have hvalid : c.toNat < 0xd800 ∨ 0xdfff < c.toNat ∧ c.toNat < 0x110000 := c.valid
    simp only [unfit, documentChars, CharTable.has_cons, CharTable.has_nil, or_false] at hfit ⊢
    omega
  · intro hgiven
    exact hgiven.1

theorem isFit_of_isVisible (h : isVisible c = true) : isFit c = true := by
  rw [isVisible, Bool.and_eq_true, decide_eq_true_eq, decide_eq_true_eq] at h
  rw [isFit_iff_not]
  simp only [unfit, CharTable.has_cons, CharTable.has_nil, or_false]
  omega

/-- Every unfit character is without a printed form, so that none shows itself. -/
theorem isFit_of_showsAsIs (h : showsAsIs c = true) : isFit c = true := by
  rw [isFit_iff_not]
  intro hunfit
  rw [showsAsIs, Bool.or_eq_true] at h
  rcases h with hmark | hprinted
  · have hapart : halfwidthMarks.has c = false := CharTable.not_has_of_apart (by decide) hunfit
    exact Bool.false_ne_true (hapart.symm.trans hmark)
  · have hblank : unprintable.has c = true := CharTable.has_of_within (by decide +kernel) hunfit
    rw [hblank] at hprinted
    exact Bool.false_ne_true hprinted

/-- **A quoted text has fit characters only**, whatever the text holds. -/
theorem all_quoted (s : Text) : s.quoted.all isFit = true := by
  refine List.all_eq_true.2 fun c hc => ?_
  rcases mem_quoted hc with hvisible | hshows
  · exact isFit_of_isVisible hvisible
  · exact isFit_of_showsAsIs hshows

end Text

/-! ### Characters of a document -/

namespace Markup

/-- The characters of tags besides their names. -/
def brackets : List Char := [' ', '=', '"', '<', '/', '>']

/-- The characters of markup, of entities and of the first line of documents. -/
def marks : Text := declaration ++ (brackets ++ entities.flatMap Entity.text)

/-- The texts that content is made of: names, values of attributes, and runs. -/
def Content.parts : Content → List Text
  | .nothing => []
  | .text run more => run :: more.parts
  | .element name attributes inner more =>
    name :: (attributes.flatMap (fun a => [a.1, a.2]) ++ (inner.parts ++ more.parts))

/-- The texts that an element is made of. -/
def Element.parts (e : Element) : List Text := e.toContent.parts

section Kinds

variable {kind : Char → Bool} (hmarks : marks.all kind = true)

include hmarks

theorem kind_of_mem_marks {c : Char} (h : c ∈ marks) : kind c = true := List.all_eq_true.1 hmarks c h

theorem kind_of_mem_brackets {c : Char} (h : c ∈ brackets) : kind c = true :=
  kind_of_mem_marks hmarks (List.mem_append_right _ (List.mem_append_left _ h))

theorem all_escape {s : Text} (h : s.all kind = true) : (escape s).all kind = true := by
  refine List.all_eq_true.2 fun c hc => ?_
  obtain ⟨d, hd, hmem⟩ := List.mem_flatMap.1 hc
  by_cases hentity : ∃ e ∈ entities, e.char = d
  · obtain ⟨e, he, rfl⟩ := hentity
    rw [escapedChar_char e he] at hmem
    have hlist : c ∈ entities.flatMap Entity.text := List.mem_flatMap.2 ⟨e, he, hmem⟩
    exact kind_of_mem_marks hmarks (List.mem_append_right _ (List.mem_append_right _ hlist))
  · have hself : escapedChar d = [d] := escapedChar_eq_self fun e he hsame => hentity ⟨e, he, hsame⟩
    rw [hself, List.mem_singleton] at hmem
    rw [hmem]
    exact List.all_eq_true.1 h d hd

theorem all_attributes {attributes : List Attribute}
    (h : (attributes.flatMap fun a => [a.1, a.2]).all (·.all kind) = true) :
    (attributes.flatMap attributeText).all kind = true := by
  induction attributes with
  | nil => rfl
  | cons a more ih =>
    rw [List.flatMap_cons, List.all_append, Bool.and_eq_true, List.all_cons, List.all_cons, Bool.and_eq_true,
      Bool.and_eq_true] at h
    obtain ⟨⟨hname, hvalue, -⟩, hmore⟩ := h
    have hblank : kind ' ' = true := kind_of_mem_brackets hmarks (by decide)
    have hequals : kind '=' = true := kind_of_mem_brackets hmarks (by decide)
    have hquote : kind '"' = true := kind_of_mem_brackets hmarks (by decide)
    rw [List.flatMap_cons, List.all_append, ih hmore, Bool.and_true, attributeText]
    simp only [List.all_cons, List.all_append, List.all_nil, hblank, hname, hequals, hquote, all_escape hmarks hvalue,
      Bool.and_self]

/-- What is written of content has the characters of markup and those of the parts. -/
theorem Content.all_render {content : Content} (h : content.parts.all (·.all kind) = true) :
    content.render.all kind = true := by
  induction content with
  | nothing => rfl
  | text run more ih =>
    rw [parts, List.all_cons, Bool.and_eq_true] at h
    rw [render, List.all_append, all_escape hmarks h.1, ih h.2, Bool.and_self]
  | element name attributes inner more ihinner ihmore =>
    rw [parts, List.all_cons, List.all_append, List.all_append, Bool.and_eq_true, Bool.and_eq_true,
      Bool.and_eq_true] at h
    obtain ⟨hname, hattributes, hinner, hmore⟩ := h
    have hless : kind '<' = true := kind_of_mem_brackets hmarks (by decide)
    have hslash : kind '/' = true := kind_of_mem_brackets hmarks (by decide)
    have hgreater : kind '>' = true := kind_of_mem_brackets hmarks (by decide)
    have hhead : (tagHead name attributes).all kind = true := by
      rw [tagHead, List.all_cons, List.all_append, hless, hname, all_attributes hmarks hattributes, Bool.and_self,
        Bool.and_self]
    have hclose : (closeTag name).all kind = true := by
      simp only [closeTag, List.all_cons, List.all_append, List.all_nil, hless, hslash, hgreater, hname, Bool.and_self]
    rw [render, List.all_append, List.all_append, hhead, ihmore hmore, Bool.and_true, Bool.true_and]
    split
    · simp only [List.all_cons, List.all_nil, hslash, hgreater, Bool.and_self]
    · rw [List.all_cons, List.all_append, hgreater, ihinner hinner, hclose, Bool.and_self, Bool.and_self]

/-- **A document has the characters of markup and those of its parts.** -/
theorem Element.all_document {e : Element} (h : e.parts.all (·.all kind) = true) : e.document.all kind = true := by
  have hfirst : declaration.all kind = true :=
    List.all_eq_true.2 fun c hc => kind_of_mem_marks hmarks (List.mem_append_left _ hc)
  rw [Element.document, List.all_append, hfirst, Bool.true_and]
  exact Content.all_render hmarks h

end Kinds

end Markup

namespace Envelope

/-! ### Characters of envelopes -/

/-- The parts of every envelope. -/
def frame : List Text := [envelopeName, spaceName, nameSpace, bodyName]

theorem parts_row (fields : List (Text × Text)) : (row fields).parts = fields.flatMap fun f => [f.1, f.2] := by
  induction fields with
  | nil => rfl
  | cons f more ih =>
    rw [row, Content.parts, ih]
    rfl

theorem parts_wrapped (name : Text) (fields : List (Text × Text)) :
    (wrapped (record name fields)).parts = frame ++ name :: (row fields).parts := by
  simp [wrapped, record, frame, Element.parts, Element.toContent, Element.attr, Element.child, Content.append,
    Content.parts]

/-- A record with fit names and texts is a document with fit characters. -/
theorem all_record {name : Text} {fields : List (Text × Text)} (hname : name.all Text.isFit = true)
    (hfields : fields.all (fun f => f.1.all Text.isFit && f.2.all Text.isFit) = true) :
    (document (record name fields)).all Text.isFit = true := by
  have hmarks : Markup.marks.all Text.isFit = true := by decide +kernel
  have hframe : frame.all (·.all Text.isFit) = true := by decide +kernel
  have hrow : (row fields).parts.all (·.all Text.isFit) = true := by
    rw [parts_row, List.all_flatMap]
    refine List.all_eq_true.2 fun f hf => ?_
    have := List.all_eq_true.1 hfields f hf
    simpa using this
  rw [document_eq]
  refine Markup.Element.all_document hmarks ?_
  rw [parts_wrapped, List.all_append, hframe, List.all_cons, hname, hrow]
  rfl

end Envelope

/-! ### Characters of answers -/

theorem Decimal.all_ofInt64 (n : Int64) : (Decimal.ofInt64 n).all Text.isFit = true := by
  refine List.all_eq_true.2 fun c hc => Text.isFit_of_isVisible ?_
  rcases Decimal.mem_ofInt hc with rfl | hdigit
  · decide
  · have hrange := Decimal.toNat_of_isDigit hdigit
    rw [Text.isVisible, Bool.and_eq_true, decide_eq_true_eq, decide_eq_true_eq]
    omega

namespace Reply

theorem all_encodeResult (numbers : List Int64) : (encodeResult numbers).all Text.isFit = true := by
  have hnumbers : (Envelope.joined [',', ' '] numbers).all Text.isFit = true := by
    refine List.all_eq_true.2 fun c hc => ?_
    rcases Text.mem_glue hc with hbetween | ⟨piece, hpiece, hmem⟩
    · have hall : [',', ' '].all Text.isFit = true := by decide
      exact List.all_eq_true.1 hall c hbetween
    · obtain ⟨n, -, rfl⟩ := List.mem_map.1 hpiece
      exact List.all_eq_true.1 (Decimal.all_ofInt64 n) c hmem
  have htag : resultTag.all Text.isFit = true := by decide
  rw [encodeResult_eq]
  refine Envelope.all_record (by decide +kernel) ?_
  rw [resultRow, List.all_cons, htag, hnumbers]
  rfl

theorem all_encodeFault {code message : Text} (hcode : code.all Text.isFit = true)
    (hmessage : message.all Text.isFit = true) : (encodeFault code message).all Text.isFit = true := by
  have hcodeTag : faultCodeTag.all Text.isFit = true := by decide
  have hmessageTag : faultMessageTag.all Text.isFit = true := by decide
  rw [encodeFault_eq]
  refine Envelope.all_record (by decide) ?_
  rw [faultRow, List.all_cons, List.all_cons, hcodeTag, hmessageTag, hcode, hmessage]
  rfl

/-- The message of a fault stands in its document, written as data. -/
theorem message_infix (code : Text) {message : Text} (h : message ≠ []) :
    Markup.escape message <:+: encodeFault code message := by
  have hfield : Envelope.field? (encodeFault code message) faultMessageTag = some (Markup.escape message) := by
    rw [encodeFault_eq, Envelope.field?_record (by decide) rfl (by decide) (by decide) (by decide)]
    show (if message = [] then none else some (Markup.escape message)) = _
    rw [if_neg h]
  obtain ⟨before, after, hdoc, -⟩ := Envelope.field?_eq_some_iff_holds.1 hfield
  refine ⟨before ++ Markup.openTag faultMessageTag, Markup.closeTag faultMessageTag ++ after, ?_⟩
  rw [hdoc]
  simp only [List.append_assoc]

end Reply

/-- What is told of a token has fit characters, if the name of the field has. -/
theorem DecodeError.all_message {field : Text} (token : Text) (h : field.all Text.isFit = true) :
    (DecodeError.invalidNumber field token).message.all Text.isFit = true := by
  have hopening : "invalid integer ".toList.all Text.isFit = true := by decide +kernel
  have hbetween : " in <".toList.all Text.isFit = true := by decide +kernel
  have hend : ['>'].all Text.isFit = true := by decide
  rw [DecodeError.message_invalidNumber, List.all_append, List.all_append, List.all_append, List.all_append, hopening,
    Text.all_quoted, hbetween, h, hend]
  rfl

namespace Service

/-- A first failure is told in fit characters: its tokens are quoted, and its fields are those of requests. -/
theorem all_message_of_firstFailure {bytes : List UInt8} {f : Failure} (h : FirstFailure bytes f) :
    (faultMessage f).all Text.isFit = true := by
  have hopening : "Error processing request: ".toList.all Text.isFit = true := by decide +kernel
  have hmessage : f.message.all Text.isFit = true := by
    cases h with
    | encoding _ =>
      show "request body is not valid UTF-8".toList.all Text.isFit = true
      decide +kernel
    | number _ _ _ _ _ => exact DecodeError.all_message _ (by decide)
    | divisor _ _ _ _ => exact DecodeError.all_message _ (by decide)
    | zero _ _ _ =>
      show "division by zero: divisor must be non-zero".toList.all Text.isFit = true
      decide +kernel
  show ("Error processing request: ".toList ++ f.message).all Text.isFit = true
  rw [List.all_append, hopening, hmessage]
  rfl

theorem all_body (bytes : List UInt8) : (answerBytes bytes).body.all Text.isFit = true := by
  rcases answered_or_failed bytes with ⟨doc, r, rfl, hr, hzero⟩ | ⟨f, hf⟩
  · rw [answerBytes_eq_result hr hzero]
    exact Reply.all_encodeResult _
  · rw [answerBytes_eq_refuse hf]
    exact Reply.all_encodeFault (by decide) (all_message_of_firstFailure hf)

/-- A fault is the refusal of a first failure. -/
theorem exists_firstFailure {bytes : List UInt8} {body message : Text} (h : answerBytes bytes = .fault body message) :
    ∃ f, FirstFailure bytes f ∧ message = faultMessage f := by
  rcases answered_or_failed bytes with ⟨doc, r, rfl, hr, hzero⟩ | ⟨f, hf⟩
  · rw [answerBytes_eq_result hr hzero] at h
    cases h
  · rw [answerBytes_eq_refuse hf] at h
    cases h
    exact ⟨f, hf, rfl⟩

/-! ### Main statement -/

/-- **No request brings a line or a control character into an answer.**  Whatever the bytes are, the document that
answers them holds no control, no separator of lines or paragraphs and neither of the two noncharacters, so it is one line
of characters that XML 1.0 allows; and so is the message of a fault.  This is not for want of the token: the token that is
first found wrong is told in the message, quoted, and the message stands in the document. -/
theorem answerBytes_fit (bytes : List UInt8) :
    (∀ c ∈ (answerBytes bytes).body,
      Text.unfit.has c = false ∧ Text.lineEnds.has c = false ∧ Text.documentChars.has c = true)
    ∧ (∀ body message, answerBytes bytes = .fault body message → ∀ c ∈ message,
      Text.unfit.has c = false ∧ Text.lineEnds.has c = false ∧ Text.documentChars.has c = true)
    ∧ ∀ field token, FirstFailure bytes (.decode (.invalidNumber field token)) →
      ∃ body message, answerBytes bytes = .fault body message ∧ token.quoted <:+: message
        ∧ Markup.escape message <:+: body := by
  refine ⟨fun c hc => ?_, fun body message h c hc => ?_, fun field token hfirst => ?_⟩
  · exact Text.isFit_iff.1 (List.all_eq_true.1 (all_body bytes) c hc)
  · obtain ⟨f, hf, rfl⟩ := exists_firstFailure h
    exact Text.isFit_iff.1 (List.all_eq_true.1 (all_message_of_firstFailure hf) c hc)
  · refine ⟨_, _, answerBytes_eq_refuse hfirst, ?_, ?_⟩
    · refine ⟨"Error processing request: ".toList ++ "invalid integer ".toList, " in <".toList ++ (field ++ ['>']), ?_⟩
      show _ = "Error processing request: ".toList ++ (DecodeError.invalidNumber field token).message
      rw [DecodeError.message_invalidNumber]
      simp only [List.append_assoc]
    · have hnonempty : "Error processing request: ".toList ++ (DecodeError.invalidNumber field token).message ≠ [] :=
        List.append_ne_nil_of_left_ne_nil (by decide) _
      exact Reply.message_infix _ hnonempty

end Service

end Multiples
