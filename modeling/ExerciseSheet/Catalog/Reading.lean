import ExerciseSheet.Catalog.Basic
import ExerciseSheet.Json.Reader
import ExerciseSheet.Files.Document

/-!
# Catalogs from mappings and files

A mapping gives each snippet's text its metadata. A label, description or symbol that is no text
stands for its shown form, an absent keyword list is empty, and a flag is set by any value that
counts as present. Every pair's metadata is checked before the entries as a whole are. A file's
object is refused or accepted whatever signs its texts are made of, but it gives entries only when
all of them are characters.
-/

namespace ExerciseSheet

namespace Entry

/-- The keywords that metadata gives: the texts of a list, or the keys of an object. -/
def keywordsOf (id : Text) (value : Option Json) : Except Fault (List Text) :=
  match value with
  | none => .ok []
  | some v =>
    if !v.truth then .ok []
    else match v with
      | .list items =>
        match items.mapM fun | .text t => some t | _ => none with
        | some ks => .ok ks
        | none => .error (.keywordsNotTexts id)
      | .object fields => .ok (fields.map (·.1))
      | .text _ => .error (.keywordsNotTexts id)
      | _ => .error (.keywordsNotCollection id)

/-- The flag under either of two keys, the first one that is there. -/
def flagOf (info : Json) (key other : String) : Bool :=
  match info.get? key.toList, info.get? other.toList with
  | some v, _ => v.truth
  | none, some v => v.truth
  | none, none => false

/-- The shown form of the value under a key, nothing when it is absent. -/
def shownOf (info : Json) (key : String) : Text :=
  match info.get? key.toList with
  | some v => v.shown
  | none => []

/-- The symbol that metadata gives. -/
def symbolOf (info : Json) : Text :=
  match info.get? "symbol".toList with
  | some v => if v.truth then v.shown else defaultSymbol
  | none => defaultSymbol

/-- The entry of a snippet and its metadata. -/
def ofMetadata (id : Text) (info : Json) : Except Fault Entry :=
  match info with
  | .object _ => do
    let keywords ← keywordsOf id (info.get? "keywords".toList)
    return {
      id := id
      label := shownOf info "label"
      description := shownOf info "description"
      symbol := symbolOf info
      keywords := keywords
      isTemplate := flagOf info "isTemplate" "is_template"
      requiresMath := flagOf info "requiresMathMode" "requires_math_mode" }
  | _ => .error (.metadataNotMapping id)

end Entry

namespace Catalog

/-- The catalog of a mapping, given as its pairs in order. -/
def ofMapping (pairs : List (Text × Json)) : Except Fault Catalog := do
  ofEntries (← pairs.mapM fun pair => Entry.ofMetadata pair.1 pair.2)

/-- Checks entries whose texts are not all of characters. They come from an object, so no two of
them have the same id, and only a label can be missing. -/
def checkLabels (es : List Entry) : Except Fault Unit :=
  match es.find? fun e => e.label.isEmpty with
  | some e => .error (.unlabelled e.id)
  | none => .ok ()

/-- The catalog of an object's fields. When their texts are not all of characters, the fields are
accepted or refused all the same, but there is no catalog of them. -/
def ofFields (fields : List (List Json.Sign × Json Json.Sign)) : Except Fault (Option Catalog) :=
  let pairs := Json.mapFields Json.Sign.toChar fields
  if Json.allFields Json.Sign.isChar fields then some <$> ofMapping pairs
  else do
    checkLabels (← pairs.mapM fun pair => Entry.ofMetadata pair.1 pair.2)
    return none

/-- The catalog in a file's octets, the file's path being known for messages. -/
def ofOctets (depth : Nat) (path : Text) (content : Octets) : Except Fault (Option Catalog) := do
  match Json.read depth (← content.document) with
  | .error .malformed => .error (.catalogUnreadable path none)
  | .error (.tooLong digits) => .error (.readTooLong digits)
  | .error .tooDeep => .error .tooDeep
  | .ok (.object fields) => ofFields fields
  | .ok _ => .error (.catalogNotObject path)

/-- The catalog in a file whose values nest at most `depth` deep. -/
def load (depth : Nat) (tree : FileTree) (cwd : List Text) (path : FilePath) :
    Except Fault (Option Catalog) :=
  if path.holdsNull then .error .nullInPath
  else match tree.readFile cwd path with
    | .error f => .error (.catalogUnreadable path.text (some f))
    | .ok content => ofOctets depth path.text content

end Catalog

end ExerciseSheet
