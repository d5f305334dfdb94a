import Multiples.Envelope.Descriptor
import Multiples.Proofs.Cutoff

/-!
# Kinds of documents

Four kinds of documents are written: requests, results, faults and the descriptor.  What they carry is free, and the
decoders look for tags wherever they stand; still no document passes for one of another kind.

* `Document` — a document of one of the kinds with what it carries, and `Document.text` as it is written;
* `Kind.fields` — the names of the fields of a kind; the descriptor, which tells of all of them, has none itself;
* `Document.hasTag_text` — **a tag of the protocol is found in a document exactly if its kind has that field**;
* `Document.kinds_apart` — so a decoder that is given a document of another kind finds nothing: a request is no reply,
  and a reply asks for nothing.
-/

namespace Multiples

open Markup (Element isName)

namespace Markup

/-- The names of an element and of all elements in it. -/
def Element.names (e : Element) : List Text := e.elements.map Element.name

theorem Content.elements_append (a b : Content) : (a.append b).elements = a.elements ++ b.elements := by
  induction a with
  | nothing => rfl
  | text run more ih => exact ih
  | element name attributes inner more _ ih =>
    rw [Content.append, Content.elements, Content.elements, ih, List.cons_append, List.append_assoc]

theorem Element.names_child (e inner : Element) : (e.child inner).names = e.names ++ inner.names := by
  have helements (f : Element) : f.elements = f :: f.content.elements := by
    show f :: (f.content.elements ++ []) = _
    rw [List.append_nil]
  have hinner : inner.toContent.elements = inner.elements := rfl
  simp only [Element.names, helements, Element.child, Content.elements_append, hinner, List.map_cons, List.map_append,
    List.cons_append]

theorem Element.names_attr (e : Element) (name value : Text) : (e.attr name value).names = e.names := rfl

theorem Content.isNamed_append (a b : Content) : (a.append b).isNamed = (a.isNamed && b.isNamed) := by
  induction a with
  | nothing => rfl
  | text run more ih => exact ih
  | element name attributes inner more _ ih =>
    rw [Content.append, Content.isNamed, Content.isNamed, ih, Bool.and_assoc _ _ b.isNamed]

theorem Element.isNamed_eq (e : Element) :
    e.isNamed = (isName e.name && (e.attributes.all (fun a => isName a.1) && e.content.isNamed)) := by
  rw [Element.isNamed, Element.toContent, Content.isNamed, Content.isNamed, Bool.and_true, Bool.and_assoc]

theorem Element.isNamed_child (e inner : Element) : (e.child inner).isNamed = (e.isNamed && inner.isNamed) := by
  have hinner : inner.toContent.isNamed = inner.isNamed := rfl
  rw [Element.isNamed_eq, Element.isNamed_eq e, Element.child, Content.isNamed_append, hinner]
  simp only [Bool.and_assoc]

/-- The value of an attribute has no part in whether an element is named. -/
theorem Element.isNamed_attr (e : Element) (name value : Text) :
    (e.attr name value).isNamed = (e.isNamed && isName name) := by
  rw [Element.isNamed_eq, Element.isNamed_eq e, Element.attr, List.all_append, List.all_cons, List.all_nil,
    Bool.and_true]
  simp only [Bool.and_assoc, Bool.and_comm (isName name)]

/-- A tag is not found where no element has its name. -/
theorem hasTag_document_of_not_mem {tag : Text} {e : Element} (ht : isName tag = true) (he : e.isNamed = true)
    (h : tag ∉ e.names) : Envelope.hasTag e.document tag = false := by
  rw [Bool.eq_false_iff, ne_eq, hasTag_document_iff ht he]
  rintro ⟨y, hy, hfield⟩
  have hname : y.name = tag := (of_decide_eq_true hfield).1
  exact h (hname ▸ List.mem_map_of_mem hy)

end Markup

namespace Descriptor

/-- The descriptor as an element. -/
def element (location : Text) : Element :=
  (((messages.foldl Element.child root).child portType).child binding).child (service location)

theorem document_eq (location : Text) : document location = (element location).document := rfl

theorem names_bare (name : String) : (bare name).names = [name.toList] := rfl

theorem names_tagged (name : String) (attributes : List (String × String)) :
    (tagged name attributes).names = [name.toList] := rfl

/-- Wherever the service is reached, its descriptor is made of elements with these names. -/
theorem names_element (location : Text) : (element location).names
    = ["definitions", "message", "part", "part", "message", "part", "portType", "operation", "input", "output",
        "binding", "soap:binding", "operation", "soap:operation", "input", "soap:body", "output", "soap:body",
        "service", "port", "soap:address"].map String.toList := by
  simp only [element, messages, root, portType, binding, service, part, literalBody, List.foldl_cons, List.foldl_nil,
    Element.names_child, Element.names_attr, names_tagged, names_bare]
  rfl

theorem isNamed_element (location : Text) : (element location).isNamed = true := by
  simp only [element, service, Element.isNamed_child, Element.isNamed_attr]
  decide +kernel

end Descriptor

/-- The kinds of documents. -/
inductive Kind where
  | request
  | result
  | fault
  | descriptor
deriving DecidableEq, Repr

/-- A document with what it carries. -/
inductive Document where
  | request (r : Request)
  | result (numbers : List Int64)
  | fault (code message : Text)
  | descriptor (location : Text)
deriving DecidableEq, Repr

open Envelope (hasTag record)
open Request (numbersTag divisorTag)
open Reply (resultTag faultCodeTag faultMessageTag)

/-- The names of the fields that documents of a kind have. -/
def Kind.fields : Kind → List Text
  | .request => [numbersTag, divisorTag]
  | .result => [resultTag]
  | .fault => [faultCodeTag, faultMessageTag]
  | .descriptor => []

namespace Document

def kind : Document → Kind
  | .request _ => .request
  | .result _ => .result
  | .fault _ _ => .fault
  | .descriptor _ => .descriptor

/-- A document as it is written. -/
def text : Document → Text
  | .request r => r.encode
  | .result numbers => Reply.encodeResult numbers
  | .fault code message => Reply.encodeFault code message
  | .descriptor location => Descriptor.document location

/-- All names of fields that a decoder looks for. -/
def tags : List Text := [numbersTag, divisorTag, resultTag, faultCodeTag, faultMessageTag]

/-! ### Tags -/

section Tags

variable {tag : Text}

theorem isName_of_mem_tags : ∀ tag ∈ tags, isName tag = true := by decide

/-- A tag is found in a record exactly if the record has such a field. -/
theorem hasTag_record_iff {name : Text} (row : List (Text × Text)) (hname : isName name = true)
    (hrow : row.all (fun f => isName f.1) = true) (hapart : name ∉ tags) (ht : tag ∈ tags) :
    hasTag (Envelope.document (record name row)) tag = true ↔ tag ∈ row.map Prod.fst := by
  have hne : tag ≠ name := fun h => hapart (h ▸ ht)
  have hbody : tag ≠ Envelope.bodyName := by
    rintro rfl
    exact absurd ht (by decide)
  rw [Envelope.hasTag_record hname hrow (isName_of_mem_tags tag ht) hne hbody, List.lookup_isSome_iff, List.mem_map]
  refine exists_congr fun f => and_congr_right fun _ => ?_
  rw [beq_iff_eq, eq_comm]

/-- The descriptor has elements of other names only; what it says of fields, and where the service is reached, stands in
attributes. -/
theorem hasTag_descriptor (location : Text) (ht : tag ∈ tags) : hasTag (Descriptor.document location) tag = false := by
  have hapart : ∀ name ∈ (Descriptor.element location).names, name ∉ tags := by
    rw [Descriptor.names_element]
    decide
  rw [Descriptor.document_eq]
  refine Markup.hasTag_document_of_not_mem (isName_of_mem_tags tag ht) (Descriptor.isNamed_element location) ?_
  exact fun hmem => hapart tag hmem ht

/-- **A tag of the protocol is found in a document exactly if its kind has that field**, whatever the document carries. -/
theorem hasTag_text (d : Document) (ht : tag ∈ tags) : hasTag d.text tag = true ↔ tag ∈ d.kind.fields := by
  cases d with
  | request r =>
    have hname : isName Envelope.operation = true ∧ Envelope.operation ∉ tags := by decide
    exact hasTag_record_iff r.row hname.1 rfl hname.2 ht
  | result numbers =>
    have hname : isName Reply.resultName = true ∧ Reply.resultName ∉ tags := by decide
    exact hasTag_record_iff (Reply.resultRow numbers) hname.1 rfl hname.2 ht
  | fault code message =>
    have hname : isName Reply.faultName = true ∧ Reply.faultName ∉ tags := by decide
    exact hasTag_record_iff (Reply.faultRow code message) hname.1 rfl hname.2 ht
  | descriptor location =>
    show hasTag (Descriptor.document location) tag = true ↔ tag ∈ []
    rw [hasTag_descriptor location ht]
    simp

theorem filter_tags (d : Document) : tags.filter (hasTag d.text) = d.kind.fields := by
  have hfilter : tags.filter (hasTag d.text) = tags.filter (fun tag => decide (tag ∈ d.kind.fields)) := by
    refine List.filter_congr fun tag ht => ?_
    rw [Bool.eq_iff_iff, hasTag_text d ht, decide_eq_true_iff]
  rw [hfilter]
  cases d.kind with
  | request => decide
  | result => decide
  | fault => decide
  | descriptor => decide

end Tags

/-! ### Decoders given another kind -/

section Decoders

variable {d : Document} {tag : Text}

theorem hasTag_of_not_mem (ht : tag ∈ tags) (h : tag ∉ d.kind.fields) : hasTag d.text tag = false := by
  rw [Bool.eq_false_iff, ne_eq, hasTag_text d ht]
  exact h

theorem field?_of_not_mem (ht : tag ∈ tags) (h : tag ∉ d.kind.fields) : Envelope.field? d.text tag = none := by
  refine Envelope.field?_of_open ?_
  rw [Bool.eq_false_iff]
  intro hclosed
  have hfound := Envelope.hasTag_of_isClosed hclosed
  rw [hasTag_of_not_mem ht h] at hfound
  exact Bool.noConfusion hfound

/-- What is no request is read as the empty request. -/
theorem decode_request (h : d.kind ≠ .request) : Request.decode d.text = .ok { numbers := [], divisor := 1 } := by
  have hfields : numbersTag ∉ d.kind.fields ∧ divisorTag ∉ d.kind.fields := by
    cases hkind : d.kind with
    | request => exact absurd hkind h
    | result => decide
    | fault => decide
    | descriptor => decide
  have hnumbers := field?_of_not_mem (by decide) hfields.1
  have hdivisor := field?_of_not_mem (by decide) hfields.2
  refine Request.decode_eq_ok_iff.2 ⟨Envelope.intListField_of_absent hnumbers [], ?_⟩
  rw [Envelope.intField, hdivisor]

/-- What is neither a result nor a fault is no reply. -/
theorem decode_reply (hresult : d.kind ≠ .result) (hfault : d.kind ≠ .fault) :
    Reply.decode d.text = .error .missingResult := by
  have hfields : resultTag ∉ d.kind.fields ∧ faultMessageTag ∉ d.kind.fields := by
    cases hkind : d.kind with
    | request => decide
    | result => exact absurd hkind hresult
    | fault => exact absurd hkind hfault
    | descriptor => decide
  rw [Reply.decode_of_no_fault (hasTag_of_not_mem (by decide) hfields.2), hasTag_of_not_mem (by decide) hfields.1,
    if_neg Bool.false_ne_true]

end Decoders

/-! ### Main statement -/

/-- **The kinds of documents are never confused**, whatever they carry.  A request and the descriptor are no replies; a
result, a fault and the descriptor ask for nothing; and of all tags that the decoders look for, a document has those of
its own kind and no other. -/
theorem kinds_apart (r : Request) (numbers : List Int64) (code message location : Text) :
    Reply.decode r.encode = .error .missingResult
    ∧ Reply.decode (Descriptor.document location) = .error .missingResult
    ∧ Request.decode (Reply.encodeResult numbers) = .ok { numbers := [], divisor := 1 }
    ∧ Request.decode (Reply.encodeFault code message) = .ok { numbers := [], divisor := 1 }
    ∧ Request.decode (Descriptor.document location) = .ok { numbers := [], divisor := 1 }
    ∧ ∀ d : Document, tags.filter (hasTag d.text) = d.kind.fields := by
  refine ⟨?_, ?_, ?_, ?_, ?_, filter_tags⟩
  · exact decode_reply (d := .request r) nofun nofun
  · exact decode_reply (d := .descriptor location) nofun nofun
  · exact decode_request (d := .result numbers) nofun
  · exact decode_request (d := .fault code message) nofun
  · exact decode_request (d := .descriptor location) nofun

end Document

end Multiples
