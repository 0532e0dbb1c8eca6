import SchemaPages.View.Basic
import SchemaPages.Text.Canonical
/-!
# URIs

* `View.expandCurie`: a compact URI with its prefix replaced by the expansion;
* `View.uri`: the URI of an element, declared or minted from the prefix of its schema.
-/

namespace SchemaPages.View

/-- The expansion of a prefix; a schema's own declaration comes before those it imports. -/
def expansion? (v : View) (key : String) : Option String :=
  (v.root :: v.imported.reverse).findSome? (·.prefixes.lookup key)

/-- Expands a compact URI. A text without a known prefix, or with two slashes behind the colon,
stays as it is. -/
def expandCurie (v : View) (curie : String) : String :=
  match Text.cutAt? ':' curie with
  | none => curie
  | some (key, rest) =>
    if Text.beginsWith "//" rest then curie
    else match v.expansion? key with
      | some expansion => expansion ++ rest
      | none => curie

/-- The name of an element in its canonical form. -/
def canonicalName (e : Element) : String :=
  match e.kind with
  | .slot => Text.underscored e.name
  | _ => Text.joinedWords e.name

/-- The schema that an element belongs to, the root if it names none. -/
def owner (v : View) (e : Element) : Schema := (v.schemaOf? e).getD v.root

/-- The compact URI that an element has if it declares none. -/
def mintedCurie (v : View) (e : Element) (withKind : Bool) : String :=
  (v.owner e).mintingPrefix ++ ":" ++ (if withKind then e.kind.text ++ "/" else "") ++ canonicalName e

/-- The compact URI of an element. -/
def curie (v : View) (e : Element) (withKind : Bool) : String :=
  e.declaredUri.getD (v.mintedCurie e withKind)

/-- The identifier of a schema as the start of a URI. -/
def idAsNamespace (id : String) : String :=
  if Text.finishesWith "/" id || Text.finishesWith "#" id then id else id ++ "/"

/-- The URI of an element. An undeclared prefix that was minted stands for its schema. -/
def uri (v : View) (e : Element) (expand withKind : Bool) : String :=
  let curie := v.curie e withKind
  if !expand then curie
  else
    let expanded := v.expandCurie curie
    if expanded ≠ curie then expanded
    else match Text.cutAt? ':' curie with
      | some (key, rest) =>
        if key = (v.owner e).mintingPrefix ∧ e.declaredUri = none then
          idAsNamespace (v.owner e).id ++ rest
        else curie
      | none => curie

end SchemaPages.View
