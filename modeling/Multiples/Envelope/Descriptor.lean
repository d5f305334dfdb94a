import Multiples.Envelope.Request

/-!
# The descriptor

The document that describes the service to its callers: the messages of its one operation, how they travel, and
the address at which it is reached.
-/

namespace Multiples

namespace Descriptor

open Markup (Element)

/-- An element without attributes and content. -/
def bare (name : String) : Element := { name := name.toList }

/-- An element with attributes. -/
def tagged (name : String) (attributes : List (String × String)) : Element :=
  { name := name.toList, attributes := attributes.map fun a => (a.1.toList, a.2.toList) }

/-- The name space of the service. -/
def targetSpace : String := "http://example.com/factorservice"

/-- One part of a message, with its type. -/
def part (name type : String) : Element := tagged "part" [("name", name), ("type", type)]

/-- One direction of the operation, whose body travels as it is. -/
def literalBody (direction : String) : Element :=
  (bare direction).child (tagged "soap:body" [("use", "literal")])

/-- The messages of the operation. -/
def messages : List Element :=
  [((tagged "message" [("name", "findFactorsRequest")]).child (part "numbers" "xsd:string")).child
     (part "divisor" "xsd:int"),
   (tagged "message" [("name", "findFactorsResponse")]).child (part "result" "xsd:string")]

/-- The operation with its two messages. -/
def portType : Element :=
  (tagged "portType" [("name", "FactorServicePortType")]).child
    (((tagged "operation" [("name", "findFactors")]).child
        (tagged "input" [("message", "tns:findFactorsRequest")])).child
      (tagged "output" [("message", "tns:findFactorsResponse")]))

/-- How the messages travel. -/
def binding : Element :=
  ((tagged "binding" [("name", "FactorServiceBinding"), ("type", "tns:FactorServicePortType")]).child
      (tagged "soap:binding" [("style", "rpc"), ("transport", "http://schemas.xmlsoap.org/soap/http")])).child
    ((((tagged "operation" [("name", "findFactors")]).child
          (tagged "soap:operation" [("soapAction", "findFactors")])).child
        (literalBody "input")).child
      (literalBody "output"))

/-- The service at its address. -/
def service (location : Text) : Element :=
  (tagged "service" [("name", "FactorService")]).child
    ((tagged "port" [("name", "FactorServicePort"), ("binding", "tns:FactorServiceBinding")]).child
      ((bare "soap:address").attr "location".toList location))

/-- The name spaces of the descriptor. -/
def root : Element :=
  tagged "definitions"
    [("name", "FactorService"), ("targetNamespace", targetSpace),
     ("xmlns", "http://schemas.xmlsoap.org/wsdl/"), ("xmlns:soap", "http://schemas.xmlsoap.org/wsdl/soap/"),
     ("xmlns:tns", targetSpace), ("xmlns:xsd", "http://www.w3.org/2001/XMLSchema")]

/-- The descriptor of a service that is reached at a location. -/
def document (location : Text) : Text :=
  ((((messages.foldl Element.child root).child portType).child binding).child (service location)).document

end Descriptor

end Multiples
