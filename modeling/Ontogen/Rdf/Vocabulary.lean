import Ontogen.Uri.Name

/-!
# Vocabulary

The URIs by which an ontology says what is a class, what is a property and how
they are related, and those of some datatypes.
-/

namespace Ontogen.Rdf.Vocabulary

def rdf : String := "http://www.w3.org/1999/02/22-rdf-syntax-ns#"
def rdfs : String := "http://www.w3.org/2000/01/rdf-schema#"
def owl : String := "http://www.w3.org/2002/07/owl#"
def xsd : String := "http://www.w3.org/2001/XMLSchema#"

def rdfType : Uri := rdf ++ "type"
def rdfXmlLiteral : Uri := rdf ++ "XMLLiteral"
def rdfsClass : Uri := rdfs ++ "Class"
def rdfsComment : Uri := rdfs ++ "comment"
def rdfsDomain : Uri := rdfs ++ "domain"
def rdfsLiteral : Uri := rdfs ++ "Literal"
def rdfsRange : Uri := rdfs ++ "range"
def rdfsResource : Uri := rdfs ++ "Resource"
def rdfsSubClassOf : Uri := rdfs ++ "subClassOf"
def owlClass : Uri := owl ++ "Class"
def owlDatatypeProperty : Uri := owl ++ "DatatypeProperty"
def owlObjectProperty : Uri := owl ++ "ObjectProperty"
def owlThing : Uri := owl ++ "Thing"
def xsdBoolean : Uri := xsd ++ "boolean"
def xsdDecimal : Uri := xsd ++ "decimal"
def xsdDouble : Uri := xsd ++ "double"
def xsdInteger : Uri := xsd ++ "integer"

end Ontogen.Rdf.Vocabulary
