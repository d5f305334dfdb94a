import Multiples.Markup.Entity

/-!
# Elements

An element has a name, attributes in order, and content: runs of text and further elements, in order.

* `Element.child`, `Element.text`, `Element.attr` and `Element.leaf` build elements;
* `Content.render` writes content, with texts and attribute values as data; an element without content closes
  itself, and one that holds a text, even an empty one, does not;
* `Element.document` is an element as a document of its own.
-/

namespace Multiples

namespace Markup

/-- An attribute: its name and its value. -/
abbrev Attribute := Text × Text

/-- What stands between the two tags of an element. -/
inductive Content where
  | nothing
  | text (run : Text) (more : Content)
  | element (name : Text) (attributes : List Attribute) (inner more : Content)
deriving DecidableEq, Repr

/-- A named element. -/
structure Element where
  name : Text
  attributes : List Attribute := []
  content : Content := .nothing
deriving DecidableEq, Repr

/-! ### Building -/

namespace Content

/-- One content after another. -/
def append : Content → Content → Content
  | .nothing, after => after
  | .text run more, after => .text run (more.append after)
  | .element name attributes inner more, after => .element name attributes inner (more.append after)

/-- Whether content has neither a text nor an element, as opposed to having empty ones. -/
def isNothing : Content → Bool
  | .nothing => true
  | _ => false

end Content

namespace Element

/-- An element as the content of another one. -/
def toContent (e : Element) : Content := .element e.name e.attributes e.content .nothing

/-- One more attribute after the others. -/
def attr (e : Element) (name value : Text) : Element :=
  { e with attributes := e.attributes ++ [(name, value)] }

/-- One more element at the end of the content. -/
def child (e inner : Element) : Element := { e with content := e.content.append inner.toContent }

/-- A text at the end of the content. -/
def text (e : Element) (run : Text) : Element := { e with content := e.content.append (.text run .nothing) }

/-- An element that holds one text. -/
def leaf (name run : Text) : Element := { name, content := .text run .nothing }

end Element

/-! ### Tags -/

/-- The tag that opens a field without attributes. -/
def openTag (name : Text) : Text := '<' :: (name ++ ['>'])

/-- The tag that closes a field. -/
def closeTag (name : Text) : Text := '<' :: '/' :: (name ++ ['>'])

/-- How an attribute is written inside a tag. -/
def attributeText (a : Attribute) : Text := ' ' :: (a.1 ++ '=' :: '"' :: (escape a.2 ++ ['"']))

/-- The beginning of a tag, up to where it ends or closes itself. -/
def tagHead (name : Text) (attributes : List Attribute) : Text :=
  '<' :: (name ++ attributes.flatMap attributeText)

/-! ### Writing -/

/-- Content as it is written. -/
def Content.render : Content → Text
  | .nothing => []
  | .text run more => escape run ++ more.render
  | .element name attributes inner more =>
    tagHead name attributes
      ++ (if inner.isNothing then ['/', '>'] else '>' :: (inner.render ++ closeTag name))
      ++ more.render

/-- An element as it is written. -/
def Element.render (e : Element) : Text := e.toContent.render

/-- The first line of every document. -/
def declaration : Text := "<?xml version=\"1.0\" encoding=\"UTF-8\"?>".toList

/-- An element as a document. -/
def Element.document (e : Element) : Text := declaration ++ e.render

end Markup

end Multiples
