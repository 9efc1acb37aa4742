import RecordQuery.Descriptor.Reader
import RecordQuery.Options
import RecordQuery.Text.Pieces
import RecordQuery.Yaml.Document

/-!
# Reading options

Options are read from JSON, as an object or as an array in the order of the settings, or from a YAML
mapping.  Settings that are not given keep their defaults, and keys of no setting are skipped; a key
that is given twice is refused.
-/

namespace RecordQuery

/-- The settings. -/
inductive Setting where
  | defaultPageSize
  | maxPageSize
  | defaultVectorLanguage
  | throwOnInvalidFields
deriving DecidableEq

namespace Setting

/-- The settings in the order in which an array lists them. -/
def all : List Setting :=
  [.defaultPageSize, .maxPageSize, .defaultVectorLanguage, .throwOnInvalidFields]

/-- The key of a setting. -/
def text : Setting → String
  | .defaultPageSize => "defaultPageSize"
  | .maxPageSize => "maxPageSize"
  | .defaultVectorLanguage => "defaultVectorLanguage"
  | .throwOnInvalidFields => "throwOnInvalidFields"

/-- The setting of a key. -/
def ofText? (key : String) : Option Setting := all.find? fun s => s.text == key

end Setting

/-- How a document gives the value of a setting. -/
structure SettingReader (δ : Type) where
  size? : δ → Option UInt32
  text? : δ → Option String
  flag? : δ → Option Bool

/-- A natural number that fits 32 bits. -/
def sizeOfNat? (n : Nat) : Option UInt32 := if n < UInt32.size then some (UInt32.ofNat n) else none

namespace SettingReader

/-- Settings in JSON: sizes are whole numbers, and no value is null. -/
def json : SettingReader Document where
  size? d := match d with
    | .number l => do sizeOfNat? (← (← l.numeral?).toUInt64?).toNat
    | _ => none
  text? := Document.string?
  flag? := Document.bool?

/-- Settings in YAML: every scalar can be a text. -/
def yaml : SettingReader Yaml where
  size? node := node.natural?.bind sizeOfNat?
  text? := Yaml.text?
  flag? := Yaml.bool?

variable {δ : Type} (reader : SettingReader δ)

/-- Reads the value of a setting into options. -/
def set? (options : Options) (value : δ) : Setting → Option Options
  | .defaultPageSize => (reader.size? value).map fun n => { options with defaultPageSize := n }
  | .maxPageSize => (reader.size? value).map fun n => { options with maxPageSize := n }
  | .defaultVectorLanguage =>
    (reader.text? value).map fun s => { options with defaultVectorLanguage := s }
  | .throwOnInvalidFields =>
    (reader.flag? value).map fun b => { options with throwOnInvalidFields := b }

/-- Reads entries of a mapping; `seen` are the settings that have been given. -/
def ofEntries? (options : Options) (seen : List Setting) : List (String × δ) → Option Options
  | [] => some options
  | (key, value) :: rest =>
    match Setting.ofText? key with
    | none => ofEntries? options seen rest
    | some s =>
      if seen.contains s then none
      else (reader.set? options value s).bind fun o => ofEntries? o (s :: seen) rest

/-- Reads values listed in the order of the settings. -/
def ofList? (options : Options) : List Setting → List δ → Option Options
  | _, [] => some options
  | [], _ :: _ => none
  | s :: settings, value :: rest =>
    (reader.set? options value s).bind fun o => ofList? o settings rest

end SettingReader

namespace Options

/-- Reads options from a JSON text. -/
def ofJson? (text : String) : Option Options :=
  match Document.read text.toList with
  | (.object members, true) => do
    let entries ← members.mapM fun (key, d) => key.map fun k => (k, d)
    SettingReader.json.ofEntries? {} [] entries
  | (.array items, true) => SettingReader.json.ofList? {} Setting.all items
  | _ => none

/-- Reads options from a YAML text; a document without content gives the defaults. -/
def ofYaml? (text : String) : Option Options :=
  match Yaml.ofText? text with
  | some (.mapping entries) => do
    let entries ← entries.mapM fun (key, node) => key.text?.map fun k => (k, node)
    SettingReader.yaml.ofEntries? {} [] entries
  | some node => if node.isBlank then some {} else none
  | none => none

/-- What follows the last dot of a file name; a dot in front alone begins no extension. -/
def extension? (name : String) : Option (List Char) :=
  match (Text.pieces (· == '.') name.toList).reverse with
  | last :: before =>
    if before.isEmpty || before == [[]] then none else some last
  | [] => none

/-- Reads options from the content of a file: JSON when its extension says so in any case, and YAML
otherwise. -/
def ofFile? (name : String) (content : Option String) : Option Options :=
  content.bind fun text =>
    if ((extension? name).map Text.foldAscii) == some ['j', 's', 'o', 'n'] then ofJson? text
    else ofYaml? text

end Options

end RecordQuery
