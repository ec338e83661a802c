import IntentSpec.Config.Schema
import IntentSpec.Datum.Order
import IntentSpec.Path.Basic
import IntentSpec.Text.Numeral

/-!
# Layers above the configuration file

A configuration is laid over another one key by key.  Where both hold a mapping the two are merged;
otherwise the upper one wins.  The keys of every mapping come out in order, those that only the upper one
has after those of the lower one.

A variable of the environment stands for each field outside the section about the configuration itself,
and an override names a field by a dotted key.  Both become mappings that are laid over the
configuration.

## Main definitions

* `Config.LoadFault` — a layer of the configuration cannot be used.
* `Config.Fault` — why there is no configuration.
* `Datum.sortMappings?` — a value with the keys of its mappings in order; lists are left as they are.
* `Config.merge?` — a mapping laid over another one.
* `Config.variableName` — the variable that stands for a field.
* `Config.environmentLayer` — the layer of the environment.
* `Config.overrideLayer` — the layer of overrides.
-/

namespace IntentSpec.Config

/-! ## Why there is no configuration -/

/-- A layer of the configuration cannot be used, for a reason that the user can do something about.
Each has a wording of its own. -/
inductive LoadFault where
  | notFound (path : String)
  | malformed (path : String)
  /-- The configuration file cannot be read. -/
  | unreadable (path : String)
  /-- A variable of the environment has to be an integer. -/
  | notInteger (name key : String)
  /-- The key of an override is empty. -/
  | badKey (key : String)
  | notConfigured (key : String)
deriving DecidableEq, Repr

/-- The wording of a fault. -/
def LoadFault.message : LoadFault → String
  | notFound path => "config file not found: " ++ path
  | malformed path => "invalid TOML in " ++ path
  | unreadable path => "unable to read config file " ++ path
  | notInteger name key => name ++ " -> " ++ key ++ " must be an integer"
  | badKey key => "invalid CLI override key " ++ Text.quoted key
  | notConfigured key => "paths." ++ key ++ " is not configured"

/-- Why there is no configuration. -/
inductive Fault where
  | load (f : LoadFault)
  /-- Something is wrong with the configuration. -/
  | invalid (found : List Issue)
  /-- Keys of a mapping cannot be sorted. -/
  | unsorted
  /-- An override is to be set in what is no mapping, perhaps through another key. -/
  | notMapping (through : Bool)
  /-- There is no home directory for a tilde. -/
  | noHome
  /-- A path has a character that no path can have. -/
  | nul
  /-- The operating system reports an error for the path of the configuration file. -/
  | system (code : Int)
  /-- An integer has too many digits to be read from the configuration file, or to be written in a message. -/
  | numeral (e : Text.NumeralError)
deriving DecidableEq, Repr

end IntentSpec.Config

namespace IntentSpec

/-! ## Merging -/

namespace Datum

mutual

/-- A value with the keys of its mappings in order, if they can be sorted.  What is inside lists is left
as it is. -/
def sortMappings? : Datum → Option Datum
  | mapping entries => do return .mapping (← sortEntries? (← sortMappingValues? entries))
  | d => some d

/-- The entries of a mapping in their order, with the values sorted. -/
def sortMappingValues? : List (Datum × Datum) → Option (List (Datum × Datum))
  | [] => some []
  | (key, value) :: entries => do
    return (key, ← sortMappings? value) :: (← sortMappingValues? entries)

end

/-- The entry of a key. -/
def atKey? (key : Datum) (entries : List (Datum × Datum)) : Option Datum :=
  (entries.find? fun entry => entry.1.sameKey key).map (·.2)

end Datum

namespace Config

open Datum

mutual

/-- The entries of a mapping with others laid over them. -/
def overlay (entries : List (Datum × Datum)) : List (Datum × Datum) → List (Datum × Datum)
  | [] => entries
  | (key, value) :: upper => overlay (assign key (overlayValue (atKey? key entries) value) entries) upper

/-- A value laid over the one that was there. -/
def overlayValue (current : Option Datum) : Datum → Datum
  | mapping upper =>
    match current with
    | some (mapping lower) => mapping (overlay lower upper)
    | _ => mapping upper
  | d => d

end

/-- A mapping laid over another one, if the keys of both can be sorted. Both are sorted before they
are merged, so the result is in order as far as the upper one adds nothing. -/
def merge? (base upper : List (Datum × Datum)) : Option (List (Datum × Datum)) := do
  return overlay (← sortEntries? (← sortMappingValues? base))
    (← sortEntries? (← sortMappingValues? upper))

end Config

end IntentSpec

namespace IntentSpec.Config

open Text Datum

/-! ## Layers -/

/-- The fields of a configuration in its normal form, each with the name of its section. -/
def leaves (config : Datum) : List (String × String × Datum) :=
  match config with
  | .mapping sections => sections.flatMap fun entry =>
      match entry with
      | (.text name, .mapping fields) => fields.filterMap fun (key, d) =>
          key.text?.map fun field => (name, field, d)
      | _ => []
  | _ => []

/-- The variable that stands for a field. Section and field are joined by the sign that both may
have inside, and the names of the schema are such that no two fields share a variable. -/
def variableName (section_ field : String) : String :=
  "DIL_" ++ (section_ ++ "_" ++ field).map Char.toUpper

/-- The section that has no variables. -/
def metaSection : String := "meta"

/-- The value that a variable gives for a field: an integer if the field is one. -/
def variableValue (section_ field raw : String) : Datum → Except Fault Datum
  | .int _ =>
    match readInteger raw with
    | .ok n => .ok (.int n)
    | .error _ => .error (.load (.notInteger (variableName section_ field) (section_ ++ "." ++ field)))
  | _ => .ok (.text (String.ofList (trim raw.toList)))

/-- Sets the value that keys lead to. -/
def assignAt (value : Datum) : List String → List (Datum × Datum) → Except Fault (List (Datum × Datum))
  | [], target => .ok target
  | [key], target => .ok (assign (.text key) value target)
  | key :: keys, target =>
    match atKey? (.text key) target with
    | none => do return assign (.text key) (.mapping (← assignAt value keys [])) target
    | some (.mapping inner) => do return assign (.text key) (.mapping (← assignAt value keys inner)) target
    | some _ => .error (.notMapping (1 < keys.length))

/-- The layer of the environment for a configuration in its normal form. It has the fields whose
variables are set and no others, and each has the type that the field has below. -/
def environmentLayer (config : Datum) (vars : Variables) :
    Except Fault (List (Datum × Datum)) :=
  (leaves config).foldlM (fun layer (section_, field, current) =>
    if section_ = metaSection then .ok layer
    else
      match vars.value? (variableName section_ field) with
      | none => .ok layer
      | some raw => do assignAt (← variableValue section_ field raw current) [section_, field] layer) []

/-- The parts of a dotted key. -/
def keyParts (dotted : String) : List String :=
  ((splitAt '.' dotted.toList).filter (!·.isEmpty)).map String.ofList

/-- The layer of overrides.  One whose value is absent says nothing. -/
def overrideLayer (overrides : List (String × Datum)) : Except Fault (List (Datum × Datum)) :=
  (sortBy (fun a b => textLe a.1 b.1) overrides).foldlM (fun layer (dotted, value) =>
    match value with
    | .null => .ok layer
    | value =>
      let keys := keyParts dotted
      if keys.isEmpty then .error (.load (.badKey dotted)) else assignAt value keys layer) []

end IntentSpec.Config
