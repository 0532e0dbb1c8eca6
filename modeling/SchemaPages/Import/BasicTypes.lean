import SchemaPages.Schema.Basic
/-!
# The schema of basic types

The types that schemas import under the name `linkml:types`.
-/

namespace SchemaPages.Import

/-- A basic type. -/
def basicType (name uri base : String) (repr : Option String) (description : String) : DataType :=
  { name, uri, base, repr, description }

/-- The schema that defines the basic types. -/
def basicTypes : Schema :=
  Schema.stamp
    { id := "https://w3id.org/linkml/types"
      name := "types"
      title := "Core LinkML metamodel types"
      description := "Shared type definitions for the core LinkML mode and metamodel"
      version := "2.0.0"
      license := "https://creativecommons.org/publicdomain/zero/1.0/"
      prefixes := [("linkml", "https://w3id.org/linkml/"), ("schema", "http://schema.org/"),
        ("shex", "http://www.w3.org/ns/shex#"), ("xsd", "http://www.w3.org/2001/XMLSchema#")]
      defaultPrefix := "linkml"
      defaultRange := "string"
      types := [
        basicType "string" "xsd:string" "str" none "A character string",
        basicType "integer" "xsd:integer" "int" none "An integer",
        basicType "boolean" "xsd:boolean" "Bool" "bool" "A binary (true or false) value",
        basicType "float" "xsd:float" "float" none
          "A real number that conforms to the xsd:float specification",
        basicType "double" "xsd:double" "float" none
          "A real number that conforms to the xsd:double specification",
        basicType "decimal" "xsd:decimal" "Decimal" none
          "A real number with arbitrary precision that conforms to the xsd:decimal specification",
        basicType "time" "xsd:time" "XSDTime" "str"
          "A time object represents a (local) time of day, independent of any particular day",
        basicType "date" "xsd:date" "XSDDate" "str"
          "a date (year, month and day) in an idealized calendar",
        basicType "datetime" "xsd:dateTime" "XSDDateTime" "str"
          "The combination of a date and time",
        basicType "date_or_datetime" "linkml:DateOrDatetime" "str" "str"
          "Either a date or a datetime",
        basicType "uriorcurie" "xsd:anyURI" "URIorCURIE" "str" "a URI or a CURIE",
        basicType "curie" "xsd:string" "Curie" "str" "a compact URI",
        basicType "uri" "xsd:anyURI" "URI" "str" "a complete URI",
        basicType "ncname" "xsd:string" "NCName" "str" "Prefix part of CURIE",
        basicType "objectidentifier" "shex:iri" "ElementIdentifier" "str"
          "A URI or CURIE that represents an object in the model.",
        basicType "nodeidentifier" "shex:nonLiteral" "NodeIdentifier" "str"
          "A URI, CURIE or BNODE that represents a node in a model.",
        basicType "jsonpointer" "xsd:string" "str" "str" "A string encoding a JSON Pointer.",
        basicType "jsonpath" "xsd:string" "str" "str" "A string encoding a JSON Path.",
        basicType "sparqlpath" "xsd:string" "str" "str" "A string encoding a SPARQL Property Path."] }

end SchemaPages.Import
