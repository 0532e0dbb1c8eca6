import SchemaPages.Proofs.Text.Canonical
import SchemaPages.View.Uri
/-!
# Minted URIs

An element that declares no URI is given one below the prefix of its schema. Written in full, the
prefix should stand for its expansion, or for the identifier of the schema where it has none. The full
form is made from the compact one, which is cut at its first colon to find the prefix again, and an
expansion is told by its being another text. So a prefix with a colon of its own is not found, and one
that is expanded to itself and a colon counts as one without an expansion.

* `View.mintedPath`, `uri_compact`: what follows the prefix of a minted URI;
* `expandCurie_append`: expanding a compact URI is expanding what stands before its path;
* `View.writtenNamespace`, `uri_full`: what the full URI begins with;
* `View.namespaceOf`, `View.InNamespace`, `inNamespace_iff`: when that is what the prefix stands for.
-/

namespace SchemaPages.View

/-! ## 1. Compact URIs -/

/-- What follows the prefix of a minted URI: the kind, where it is wanted, and the canonical name. -/
def mintedPath (e : Element) (withKind : Bool) : String :=
  (if withKind then e.kind.text ++ "/" else "") ++ canonicalName e

theorem slash_not_mem_canonicalName (e : Element) : '/' ∉ (canonicalName e).toList := by
  unfold canonicalName
  cases e.kind with
  | slot => exact Text.slash_not_mem_underscored e.name
  | cls => exact Text.slash_not_mem_joinedWords e.name
  | enum => exact Text.slash_not_mem_joinedWords e.name
  | type => exact Text.slash_not_mem_joinedWords e.name
  | subset => exact Text.slash_not_mem_joinedWords e.name

/-- A minted path does not read as the part of a URI behind its scheme. -/
theorem beginsWith_mintedPath (e : Element) (withKind : Bool) :
    Text.beginsWith "//" (mintedPath e withKind) = false := by
  unfold mintedPath Text.beginsWith
  cases withKind with
  | true => cases e.kind <;> simp [Kind.text, List.isPrefixOf]
  | false =>
      have plain := slash_not_mem_canonicalName e
      cases name : (canonicalName e).toList with
      | nil => simp [name]
      | cons c rest =>
          rw [name, List.mem_cons, not_or] at plain
          simp [name, List.isPrefixOf, plain.1]

/-- **The compact URI of an element that declares none**: its prefix, a colon and its path. -/
theorem uri_compact {v : View} {e : Element} (h : e.declaredUri = none) (withKind : Bool) :
    v.uri e false withKind = (v.owner e).mintingPrefix ++ ":" ++ mintedPath e withKind := by
  simp [uri, curie, h, mintedCurie, mintedPath, String.append_assoc]

/-! ## 2. Expanding -/

theorem cut_plain {p : String} (h : ':' ∉ p.toList) (path : String) :
    Text.cutAt? ':' (p ++ ":" ++ path) = some (p, path) :=
  Text.cutAt?_eq_some_iff.mpr ⟨by simp, h⟩

/-- A prefix with a colon of its own is cut there. -/
theorem cut_colon {p : String} (h : ':' ∈ p.toList) : ∃ key rest, key ≠ p ∧
    ∀ path, Text.cutAt? ':' (p ++ ":" ++ path) = some (key, rest ++ ":" ++ path) := by
  obtain ⟨⟨key, rest⟩, cut⟩ := Option.ne_none_iff_exists'.mp
    fun none => absurd h (Text.cutAt?_eq_none_iff.mp none)
  obtain ⟨made, fresh⟩ := Text.cutAt?_eq_some_iff.mp cut
  exact ⟨key, rest, fun same => fresh (same ▸ h), fun path =>
    Text.cutAt?_eq_some_iff.mpr ⟨by simp [made], fresh⟩⟩

/-- What follows a colon does not decide whether the text begins with two slashes. -/
theorem beginsWith_colon (rest path : String) :
    Text.beginsWith "//" (rest ++ ":" ++ path) = Text.beginsWith "//" (rest ++ ":") := by
  unfold Text.beginsWith
  simp only [String.toList_append]
  match rest.toList with
  | [] => rfl
  | [_] => simp [List.isPrefixOf]
  | _ :: _ :: _ => simp [List.isPrefixOf]

/-- **A prefix without a colon is looked up.** -/
theorem expandCurie_plain (v : View) {p : String} (h : ':' ∉ p.toList) (path : String)
    (relative : Text.beginsWith "//" path = false) :
    v.expandCurie (p ++ ":" ++ path) = (v.expansion? p).getD (p ++ ":") ++ path := by
  unfold expandCurie
  simp only [cut_plain h, relative, Bool.false_eq_true, if_false]
  cases v.expansion? p <;> rfl

theorem expandCurie_plain_start (v : View) {p : String} (h : ':' ∉ p.toList) :
    v.expandCurie (p ++ ":") = (v.expansion? p).getD (p ++ ":") := by
  have start := expandCurie_plain v h "" rfl
  rwa [String.append_empty, String.append_empty] at start

/-- **A prefix with a colon keeps its last one**, since only what stands before its first is looked
    up. -/
theorem expandCurie_colon (v : View) {p : String} (h : ':' ∈ p.toList) :
    ∃ start, v.expandCurie (p ++ ":") = start ++ ":" ∧
      ∀ path, v.expandCurie (p ++ ":" ++ path) = start ++ ":" ++ path := by
  suffices expands : ∃ start, ∀ path, v.expandCurie (p ++ ":" ++ path) = start ++ ":" ++ path by
    obtain ⟨start, each⟩ := expands
    have short := each ""
    rw [String.append_empty, String.append_empty] at short
    exact ⟨start, short, each⟩
  obtain ⟨key, rest, _, cut⟩ := cut_colon h
  unfold expandCurie
  simp only [cut, beginsWith_colon]
  by_cases absolute : Text.beginsWith "//" (rest ++ ":") = true
  · exact ⟨p, fun path => by rw [if_pos absolute]⟩
  · simp only [if_neg absolute]
    cases v.expansion? key with
    | none => exact ⟨p, fun path => rfl⟩
    | some expansion => exact ⟨expansion ++ rest, fun path => by simp only [String.append_assoc]⟩

/-- **Expanding a minted URI is expanding its prefix.** -/
theorem expandCurie_append (v : View) (p : String) {path : String}
    (relative : Text.beginsWith "//" path = false) :
    v.expandCurie (p ++ ":" ++ path) = v.expandCurie (p ++ ":") ++ path := by
  by_cases h : ':' ∈ p.toList
  · obtain ⟨start, short, expands⟩ := expandCurie_colon v h
    rw [expands, short]
  · rw [expandCurie_plain v h path relative, expandCurie_plain_start v h]

/-! ## 3. Full URIs -/

/-- **What the minted URIs of a schema begin with in full**: what the prefix with its colon is
    expanded to; where that is no other text, the identifier of the schema, if the prefix has no colon
    of its own. -/
def writtenNamespace (v : View) (s : Schema) : String :=
  let start := s.mintingPrefix ++ ":"
  if v.expandCurie start ≠ start then v.expandCurie start
  else if ':' ∈ s.mintingPrefix.toList then start
  else idAsNamespace s.id

theorem uri_full {v : View} {e : Element} (h : e.declaredUri = none) (withKind : Bool) :
    v.uri e true withKind = v.writtenNamespace (v.owner e) ++ mintedPath e withKind := by
  have compact : v.curie e withKind = (v.owner e).mintingPrefix ++ ":" ++ mintedPath e withKind :=
    uri_compact h withKind
  unfold uri writtenNamespace
  generalize (v.owner e).mintingPrefix = p at compact ⊢
  simp only [compact, expandCurie_append v p (beginsWith_mintedPath e withKind), Bool.not_true,
    Bool.false_eq_true, if_false, h, and_true]
  by_cases same : v.expandCurie (p ++ ":") = p ++ ":"
  · simp only [same, ne_eq, not_true_eq_false, if_false]
    by_cases colon : ':' ∈ p.toList
    · obtain ⟨key, rest, other, cut⟩ := cut_colon colon
      simp [cut, other, colon]
    · simp [cut_plain colon, colon]
  · have changed : v.expandCurie (p ++ ":") ++ mintedPath e withKind ≠
        p ++ ":" ++ mintedPath e withKind := fun e => same (String.append_left_inj _ |>.mp e)
    rw [if_pos changed, if_pos same]

/-! ## 4. Prefixes that are found again -/

/-- **What the prefix of a schema stands for**: its expansion, or else the identifier of the schema. -/
def namespaceOf (v : View) (s : Schema) : String :=
  (v.expansion? s.mintingPrefix).getD (idAsNamespace s.id)

/-- **The full URI of an element is in the namespace of its schema**, and not the compact one. -/
structure InNamespace (v : View) (e : Element) (withKind : Bool) : Prop where
  full : v.uri e true withKind = v.namespaceOf (v.owner e) ++ mintedPath e withKind
  expanded : v.uri e true withKind ≠ v.uri e false withKind

/-- **A prefix is found again** behind its compact URIs: without a colon of its own, unless it is
    expanded to itself and a colon; with one, if what its first part is expanded to gives the
    expansion of the whole. -/
def FindsAgain (v : View) (p : String) : Prop :=
  if ':' ∈ p.toList then
    v.expandCurie (p ++ ":") ≠ p ++ ":" ∧ v.expansion? p = some (v.expandCurie (p ++ ":"))
  else v.expansion? p ≠ some (p ++ ":")

instance (v : View) (p : String) : Decidable (v.FindsAgain p) :=
  inferInstanceAs (Decidable (ite _ _ _))

/-- An identifier as a namespace does not end with a colon. -/
theorem idAsNamespace_ne (id start : String) : idAsNamespace id ≠ start ++ ":" := by
  intro same
  have last : (idAsNamespace id).toList.getLast? = some ':' := by rw [same]; simp
  unfold idAsNamespace at last
  split at last
  · rename_i ends
    unfold Text.finishesWith at ends
    rw [Bool.or_eq_true, List.isSuffixOf_iff_suffix, List.isSuffixOf_iff_suffix] at ends
    rcases ends with ⟨before, made⟩ | ⟨before, made⟩ <;> simp [← made] at last
  · simp at last

theorem writtenNamespace_iff (v : View) (s : Schema) :
    v.writtenNamespace s = v.namespaceOf s ∧ v.writtenNamespace s ≠ s.mintingPrefix ++ ":" ↔
      v.FindsAgain s.mintingPrefix := by
  unfold writtenNamespace namespaceOf FindsAgain
  generalize s.mintingPrefix = p
  by_cases colon : ':' ∈ p.toList
  · obtain ⟨start, short, _⟩ := expandCurie_colon v colon
    have foreign : v.expandCurie (p ++ ":") ≠ idAsNamespace s.id := by
      rw [short]
      exact (idAsNamespace_ne s.id start).symm
    simp only [colon, if_true]
    by_cases same : v.expandCurie (p ++ ":") = p ++ ":"
    · simp [same]
    · cases known : v.expansion? p with
      | none => simp [same, foreign]
      | some x => simp [same, eq_comm]
  · simp only [colon, if_false, expandCurie_plain_start v colon]
    cases known : v.expansion? p with
    | none => simp [idAsNamespace_ne]
    | some x =>
        by_cases same : x = p ++ ":"
        · simp [same, idAsNamespace_ne]
        · simp [same]

/-- **When minted URIs are in the namespace of their schema.** The full URI of an element that declares
    none always begins with the written namespace. This is what the prefix stands for, and the URI is
    expanded, exactly when the prefix is found again. -/
theorem inNamespace_iff {v : View} {e : Element} (h : e.declaredUri = none) (withKind : Bool) :
    v.uri e true withKind = v.writtenNamespace (v.owner e) ++ mintedPath e withKind ∧
      (v.InNamespace e withKind ↔ v.FindsAgain (v.owner e).mintingPrefix) := by
  have full := uri_full (v := v) h withKind
  refine ⟨full, ?_⟩
  rw [← writtenNamespace_iff]
  constructor
  · rintro ⟨wanted, expanded⟩
    rw [full] at wanted expanded
    rw [uri_compact h] at expanded
    exact ⟨(String.append_left_inj _).mp wanted, fun same => expanded (by rw [same])⟩
  · rintro ⟨wanted, expanded⟩
    refine ⟨by rw [full, wanted], fun same => ?_⟩
    rw [full, uri_compact h] at same
    exact expanded ((String.append_left_inj _).mp same)

/-- A view of one schema with one class, `A`. -/
def minting (id : String) (defaultPrefix : Option String) : View :=
  View.ofSchemas
    { id, name := "p", defaultPrefix, classes := [{ name := "A", fromSchema := some id }] } []

/-- The class. -/
def minted (id : String) : Element := .cls { name := "A", fromSchema := some id }

theorem inNamespace_iff_hash :
    (minted "p#").declaredUri = none ∧ (minting "p#" none).InNamespace (minted "p#") true ∧
      (minting "p#" none).uri (minted "p#") true true = "p#class/A" :=
  ⟨rfl, (inNamespace_iff rfl true).2.mpr (by decide), by decide⟩

/-- **A prefix that is a URI is not found again**: the full URI is the compact one. -/
theorem not_inNamespace_uri :
    minted "u://p" ∈ (minting "u://p" (some "u://p/")).all .cls true ∧
      (minted "u://p").declaredUri = none ∧
      (minting "u://p" (some "u://p/")).namespaceOf
        ((minting "u://p" (some "u://p/")).owner (minted "u://p")) = "u://p/" ∧
      (minting "u://p" (some "u://p/")).uri (minted "u://p") true false = "u://p/:A" ∧
      ¬ (minting "u://p" (some "u://p/")).InNamespace (minted "u://p") false := by
  have full : (minting "u://p" (some "u://p/")).uri (minted "u://p") true false = "u://p/:A" := by
    decide
  refine ⟨List.mem_singleton_self _, rfl, by decide, full, fun within => within.expanded ?_⟩
  rw [full]
  decide

end SchemaPages.View
