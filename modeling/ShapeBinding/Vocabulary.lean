/-!
# The vocabularies

The IRIs that the library reads and writes, one namespace per vocabulary: RDF, RDF Schema, SHACL (the part a shape is
read from) and XML Schema datatypes.  `defaultNamespaces` binds the customary name to each of the four.
-/
namespace ShapeBinding

/-! ## RDF -/

namespace Rdf

def base : String := "http://www.w3.org/1999/02/22-rdf-syntax-ns#"

def type : String := "http://www.w3.org/1999/02/22-rdf-syntax-ns#type"

/-- The datatype of every literal that carries a language. -/
def langString : String := "http://www.w3.org/1999/02/22-rdf-syntax-ns#langString"

end Rdf

namespace Rdfs

def base : String := "http://www.w3.org/2000/01/rdf-schema#"

end Rdfs

/-! ## SHACL -/

namespace Sh

def base : String := "http://www.w3.org/ns/shacl#"

def shape : String := "http://www.w3.org/ns/shacl#Shape"

def nodeShape : String := "http://www.w3.org/ns/shacl#NodeShape"

def targetClass : String := "http://www.w3.org/ns/shacl#targetClass"

def property : String := "http://www.w3.org/ns/shacl#property"

def name : String := "http://www.w3.org/ns/shacl#name"

def path : String := "http://www.w3.org/ns/shacl#path"

def datatype : String := "http://www.w3.org/ns/shacl#datatype"

def node : String := "http://www.w3.org/ns/shacl#node"

def maxCount : String := "http://www.w3.org/ns/shacl#maxCount"

end Sh

/-! ## XML Schema datatypes -/

namespace Xsd

def base : String := "http://www.w3.org/2001/XMLSchema#"

def string : String := "http://www.w3.org/2001/XMLSchema#string"

def normalizedString : String := "http://www.w3.org/2001/XMLSchema#normalizedString"

def token : String := "http://www.w3.org/2001/XMLSchema#token"

def anyURI : String := "http://www.w3.org/2001/XMLSchema#anyURI"

def boolean : String := "http://www.w3.org/2001/XMLSchema#boolean"

def integer : String := "http://www.w3.org/2001/XMLSchema#integer"

def int : String := "http://www.w3.org/2001/XMLSchema#int"

def long : String := "http://www.w3.org/2001/XMLSchema#long"

def short : String := "http://www.w3.org/2001/XMLSchema#short"

def nonNegativeInteger : String := "http://www.w3.org/2001/XMLSchema#nonNegativeInteger"

def positiveInteger : String := "http://www.w3.org/2001/XMLSchema#positiveInteger"

def decimal : String := "http://www.w3.org/2001/XMLSchema#decimal"

def double : String := "http://www.w3.org/2001/XMLSchema#double"

def float : String := "http://www.w3.org/2001/XMLSchema#float"

def date : String := "http://www.w3.org/2001/XMLSchema#date"

def time : String := "http://www.w3.org/2001/XMLSchema#time"

def dateTime : String := "http://www.w3.org/2001/XMLSchema#dateTime"

end Xsd

/-- The names that need no declaration, with the namespaces they stand for. -/
def defaultNamespaces : List (String × String) :=
  [("rdf", Rdf.base), ("rdfs", Rdfs.base), ("sh", Sh.base), ("xsd", Xsd.base)]

end ShapeBinding
