import Multiples.Envelope.Reply
import Multiples.Proofs.Fields
import Multiples.Proofs.Integers

/-!
# Envelopes as records

Every envelope that is sent holds one element whose content is a row of fields, each with a text: a record.  What
a scanner finds in a written record is what a look-up finds in the row, whatever the texts are, so the encoders
and the decoders meet in one lemma about rows.

* `Envelope.record` — the element with a row of fields;
* `Envelope.field?_record`, `Envelope.hasTag_record`, `Envelope.textField?_record` — scanning a written record is
  looking up in its row;
* `Request.intListField_encode`, `Request.intField_encode` — what the two readers make of a written request;
* `Request.decode_encode_request`, `Reply.decode_encode_reply` — what is written is read back, a fault with **any**
  code and message.
-/

namespace Multiples

open Markup (Element Content isName)

namespace Envelope

/-! ### Records -/

/-- A row of fields as content. -/
def row : List (Text × Text) → Content
  | [] => .nothing
  | f :: more => .element f.1 [] (.text f.2 .nothing) (row more)

/-- The element that holds a row of fields. -/
def record (name : Text) (fields : List (Text × Text)) : Element := { name, content := row fields }

/-- The name of the element around a record. -/
def bodyName : Text := "soap:Body".toList

/-- The name of the outermost element. -/
def envelopeName : Text := "soap:Envelope".toList

/-- The name of the attribute with the name space. -/
def spaceName : Text := "xmlns:soap".toList

/-- The outermost element of an envelope, around an element. -/
def wrapped (body : Element) : Element :=
  (({ name := envelopeName } : Element).attr spaceName nameSpace).child
    (({ name := bodyName } : Element).child body)

theorem document_eq (body : Element) : document body = (wrapped body).document := rfl

section Records

variable {name tag : Text} {fields : List (Text × Text)}

theorem isNamed_row (h : fields.all (fun f => isName f.1) = true) : (row fields).isNamed = true := by
  induction fields with
  | nil => rfl
  | cons f more ih =>
    rw [List.all_cons, Bool.and_eq_true] at h
    simp [row, Content.isNamed, h.1, ih h.2]

theorem isNamed_wrapped (hname : isName name = true) (hfields : fields.all (fun f => isName f.1) = true) :
    (wrapped (record name fields)).isNamed = true := by
  have henvelope : isName envelopeName = true := by decide
  have hspace : isName spaceName = true := by decide
  have hbody : isName bodyName = true := by decide
  simp [wrapped, record, Element.isNamed, Element.toContent, Element.attr, Element.child, Content.append,
    Content.isNamed, henvelope, hspace, hbody, hname, isNamed_row hfields]

/-- The first field of a row is found by its name. -/
theorem find?_row :
    (row fields).elements.find? (Element.isField tag) = (fields.lookup tag).map (Element.leaf tag) := by
  induction fields with
  | nil => rfl
  | cons f more ih =>
    rw [row, Content.elements]
    by_cases h : f.1 = tag
    · have hfield : Element.isField tag { name := f.1, attributes := [], content := .text f.2 .nothing } = true := by
        simp [Element.isField, h]
      have hbeq : (tag == f.1) = true := by rw [h, beq_self_eq_true]
      rw [List.find?_cons_of_pos hfield, List.lookup_cons, hbeq, h]
      rfl
    · have hfield : ¬ Element.isField tag { name := f.1, attributes := [], content := .text f.2 .nothing } = true := by
        simp [Element.isField, h]
      have hbeq : (tag == f.1) = false := beq_eq_false_iff_ne.2 (Ne.symm h)
      rw [List.find?_cons_of_neg hfield, List.lookup_cons, hbeq]
      exact ih

/-- In an envelope, only the elements of the row count: the ones around it have other names. -/
theorem find?_wrapped (hname : tag ≠ name) (hbody : tag ≠ bodyName) :
    (wrapped (record name fields)).elements.find? (Element.isField tag)
      = (fields.lookup tag).map (Element.leaf tag) := by
  have hlist : (wrapped (record name fields)).elements
      = wrapped (record name fields) :: ({ name := bodyName } : Element).child (record name fields)
        :: record name fields :: (row fields).elements := by
    simp [wrapped, record, Element.elements, Element.toContent, Element.attr, Element.child, Content.append,
      Content.elements]
  have houter : ¬ Element.isField tag (wrapped (record name fields)) = true := by
    simp [Element.isField, wrapped, Element.attr, Element.child]
  have hmiddle : ¬ Element.isField tag (({ name := bodyName } : Element).child (record name fields)) = true := by
    simp [Element.isField, Element.child, Ne.symm hbody]
  have hinner : ¬ Element.isField tag (record name fields) = true := by
    simp [Element.isField, record, Ne.symm hname]
  rw [hlist, List.find?_cons_of_neg houter, List.find?_cons_of_neg hmiddle, List.find?_cons_of_neg hinner]
  exact find?_row

variable (hname : isName name = true) (hfields : fields.all (fun f => isName f.1) = true) (ht : isName tag = true)
  (hne : tag ≠ name) (hbody : tag ≠ bodyName)

include hname hfields ht hne hbody

/-- **Finding a field in a written record is looking it up in the row**; an empty text counts as absent. -/
theorem field?_record :
    field? (document (record name fields)) tag
      = (fields.lookup tag).bind fun w => if w = [] then none else some (Markup.escape w) := by
  have hnamed := isNamed_wrapped hname hfields
  have hfind : (wrapped (record name fields)).elements.find? (Element.isField tag)
      = (fields.lookup tag).map (Element.leaf tag) := find?_wrapped hne hbody
  rw [document_eq]
  cases hlook : fields.lookup tag with
  | none =>
    rw [hlook, Option.map_none, List.find?_eq_none] at hfind
    rw [Markup.field?_document_eq_none ht hnamed fun y hy => Bool.eq_false_iff.2 (hfind y hy)]
    rfl
  | some w =>
    rw [hlook, Option.map_some] at hfind
    have hrun : (Element.leaf tag w).content.run? = some w := by simp [Element.leaf, Content.run?]
    rw [Markup.field?_document ht hnamed hfind hrun]
    rfl

theorem hasTag_record : hasTag (document (record name fields)) tag = (fields.lookup tag).isSome := by
  have hnamed := isNamed_wrapped hname hfields
  rw [document_eq, Bool.eq_iff_iff, Markup.hasTag_document_iff ht hnamed, ← List.find?_isSome,
    find?_wrapped hne hbody, Option.isSome_map]

/-- The text of a field is the text that was written, whatever it is; where there is none, it is empty. -/
theorem textField?_record :
    (textField? (document (record name fields)) tag).getD [] = (fields.lookup tag).getD [] := by
  rw [textField?, field?_record hname hfields ht hne hbody]
  cases fields.lookup tag with
  | none => rfl
  | some w =>
    show (Option.map Markup.unescape (if w = [] then none else some (Markup.escape w))).getD [] = w
    by_cases hw : w = []
    · rw [if_pos hw, hw]
      rfl
    · rw [if_neg hw, Option.map_some, Option.getD_some, Markup.unescape_escape]

/-- A field with a written list of integers is read back; the empty list travels as an absent field. -/
theorem intListField_record {pad : Text} (hpad : ∀ c ∈ pad, Text.isBlank c = true) {ns : List Int64}
    (hlook : fields.lookup tag = some (joined (',' :: pad) ns)) :
    intListField (document (record name fields)) tag [] = .ok ns := by
  have hfield := field?_record hname hfields ht hne hbody
  rw [hlook, Option.bind_some] at hfield
  cases ns with
  | nil =>
    rw [if_pos (joined_eq_nil.2 rfl)] at hfield
    exact intListField_of_absent hfield []
  | cons n ns =>
    have hwritten : joined (',' :: pad) (n :: ns) ≠ [] := fun h => List.cons_ne_nil n ns (joined_eq_nil.1 h)
    rw [if_neg hwritten] at hfield
    rw [intListField_of_field? hfield, Markup.unescape_escape, readInts_cells_joined hpad]

/-- A field with a written integer is read back. -/
theorem intField_record {missing n : Int64} (hlook : fields.lookup tag = some (Decimal.ofInt64 n)) :
    intField (document (record name fields)) tag missing = .ok n := by
  have hwritten : Decimal.ofInt64 n ≠ [] := Decimal.ofInt_ne_nil n.toInt
  rw [intField, field?_record hname hfields ht hne hbody, hlook, Option.bind_some, if_neg hwritten]
  show readInt tag (Markup.unescape (Markup.escape (Decimal.ofInt64 n))) = _
  rw [Markup.unescape_escape, readInt_ofInt64]

end Records

end Envelope

/-! ### Requests -/

namespace Request

open Envelope (record joined)

/-- The fields of a request. -/
def row (r : Request) : List (Text × Text) :=
  [(numbersTag, joined [','] r.numbers), (divisorTag, Decimal.ofInt64 r.divisor)]

theorem encode_eq (r : Request) : r.encode = Envelope.document (record Envelope.operation r.row) := rfl

/-- The numbers of a written request are read back. -/
theorem intListField_encode (r : Request) : Envelope.intListField r.encode numbersTag [] = .ok r.numbers := by
  have hlook : r.row.lookup numbersTag = some (joined [','] r.numbers) := rfl
  rw [encode_eq]
  exact Envelope.intListField_record (by decide) rfl (by decide) (by decide) (by decide) (by simp) hlook

/-- The divisor of a written request is read back. -/
theorem intField_encode (r : Request) : Envelope.intField r.encode divisorTag 1 = .ok r.divisor := by
  have hlook : r.row.lookup divisorTag = some (Decimal.ofInt64 r.divisor) := rfl
  rw [encode_eq]
  exact Envelope.intField_record (by decide) rfl (by decide) (by decide) (by decide) hlook

/-- A request is read if both of its fields are. -/
theorem decode_eq_ok_iff {doc : Text} {r : Request} :
    decode doc = .ok r ↔ Envelope.intListField doc numbersTag [] = .ok r.numbers
      ∧ Envelope.intField doc divisorTag 1 = .ok r.divisor := by
  simp only [decode, Stages.bind_eq_ok_iff]
  constructor
  · intro hgiven
    obtain ⟨ns, hns, n, hn, h⟩ := hgiven
    cases h
    exact ⟨hns, hn⟩
  · intro hgiven
    obtain ⟨hns, hn⟩ := hgiven
    exact ⟨r.numbers, hns, r.divisor, hn, rfl⟩

/-- A request cannot be read for its numbers, or else for its divisor. -/
theorem decode_eq_error_iff {doc : Text} {e : DecodeError} :
    decode doc = .error e ↔ Envelope.intListField doc numbersTag [] = .error e
      ∨ ∃ ns, Envelope.intListField doc numbersTag [] = .ok ns ∧ Envelope.intField doc divisorTag 1 = .error e := by
  simp only [decode, Stages.bind_eq_error_iff]
  refine or_congr_right (exists_congr fun ns => and_congr_right fun _ => ?_)
  constructor
  · intro hcases
    rcases hcases with h | ⟨n, -, h⟩
    · exact h
    · exact nomatch h
  · exact Or.inl

/-- **Every written request is read back**: an empty list of numbers through the default of an absent field, and
every integer of 64 bits as itself. -/
theorem decode_encode_request (r : Request) : decode r.encode = .ok r := by
  have hnumbers : Envelope.intListField r.encode numbersTag [] = .ok r.numbers := intListField_encode r
  have hdivisor : Envelope.intField r.encode divisorTag 1 = .ok r.divisor := intField_encode r
  exact decode_eq_ok_iff.2 ⟨hnumbers, hdivisor⟩

end Request

/-! ### Replies -/

namespace Reply

open Envelope (record joined)

/-- The name of the element around a result. -/
def resultName : Text := "findFactorsResponse".toList

/-- The name of the element around a fault. -/
def faultName : Text := "soap:Fault".toList

/-- The one field of a result. -/
def resultRow (ns : List Int64) : List (Text × Text) := [(resultTag, joined [',', ' '] ns)]

/-- The fields of a fault. -/
def faultRow (code message : Text) : List (Text × Text) := [(faultCodeTag, code), (faultMessageTag, message)]

theorem encodeResult_eq (ns : List Int64) :
    encodeResult ns = Envelope.document (record resultName (resultRow ns)) := rfl

theorem encodeFault_eq (code message : Text) :
    encodeFault code message = Envelope.document (record faultName (faultRow code message)) := rfl

/-- A written result is read back. -/
theorem decode_encodeResult (ns : List Int64) : decode (encodeResult ns) = .ok (.result ns) := by
  have hfault : Envelope.hasTag (encodeResult ns) faultMessageTag = false := by
    rw [encodeResult_eq, Envelope.hasTag_record (by decide) rfl (by decide) (by decide) (by decide)]
    rfl
  have hresult : Envelope.hasTag (encodeResult ns) resultTag = true := by
    rw [encodeResult_eq, Envelope.hasTag_record (by decide) rfl (by decide) (by decide) (by decide)]
    rfl
  have hpad : ∀ c ∈ [' '], Text.isBlank c = true := by
    intro c hc
    rw [List.mem_singleton.1 hc]
    decide
  have hread : Envelope.intListField (encodeResult ns) resultTag [] = .ok ns := by
    rw [encodeResult_eq]
    exact Envelope.intListField_record (by decide) rfl (by decide) (by decide) (by decide) hpad rfl
  rw [decode, hfault, if_neg Bool.false_ne_true, hresult, if_pos rfl, hread]
  rfl

/-- **A written fault is read back**, whatever its code and its message hold. -/
theorem decode_encodeFault (code message : Text) :
    decode (encodeFault code message) = .ok (.fault code message) := by
  have hfault : Envelope.hasTag (encodeFault code message) faultMessageTag = true := by
    rw [encodeFault_eq, Envelope.hasTag_record (by decide) rfl (by decide) (by decide) (by decide)]
    rfl
  have hcode : (Envelope.textField? (encodeFault code message) faultCodeTag).getD [] = code := by
    rw [encodeFault_eq, Envelope.textField?_record (by decide) rfl (by decide) (by decide) (by decide)]
    rfl
  have hmessage : (Envelope.textField? (encodeFault code message) faultMessageTag).getD [] = message := by
    rw [encodeFault_eq, Envelope.textField?_record (by decide) rfl (by decide) (by decide) (by decide)]
    rfl
  rw [decode, hfault, if_pos rfl, hcode, hmessage]

/-- **Every written reply is read back.**  The code and the message of a fault may hold the very tags and entities
that the decoder looks for. -/
theorem decode_encode_reply (reply : Reply) : decode reply.encode = .ok reply := by
  cases reply with
  | result numbers => exact decode_encodeResult numbers
  | fault code message => exact decode_encodeFault code message

end Reply

end Multiples
