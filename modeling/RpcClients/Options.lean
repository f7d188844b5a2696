import RpcClients.Entries
import RpcClients.Failure
import RpcClients.Json.Parser
import RpcClients.Text.Blank
import RpcClients.Text.Split

/-! # Generator options

Options are read from a JSON object or from parameter text, `name=value` items between commas. -/

namespace RpcClients

/-- Options of a run. A value that a JSON object sets to null is `none`. -/
structure Options where
  pluginName : Option String := some "apiclienttwirp"
  /-- Import paths of units are made relative to it. -/
  importPathBase : Option String := none
  /-- Where the packages with a named suffix live, instead of beside the unit. -/
  namedPackages : Option (List (String × String)) := some []
  contextPath : Option String := some "context"
  httpClientPath : Option String :=
    some "github.com/bufbuild/buf/internal/pkg/transport/http/httpclient"
  twirpClientPath : Option String :=
    some "github.com/bufbuild/buf/internal/pkg/transport/twirp/twirpclient"
  zapPath : Option String := some "go.uber.org/zap"
deriving DecidableEq, Repr

namespace Options

/-! ## Parameter text -/

/-- What parameter text changes: options by name, and the named packages, with those that were there before. -/
structure Changes where
  simple : List (String × String) := []
  named : List (String × String)
deriving DecidableEq, Repr

/-- The options that take a value as it is. -/
def simpleNames : List String :=
  ["plugin_name", "go_import_path_base", "context_import_path", "httpclient_import_path",
    "twirpclient_import_path", "zap_import_path"]

/-- Notes the value of an option. An import path base loses the slashes at its end. -/
def Changes.set (changes : Changes) (name value : String) : Except Failure Changes :=
  if name ∈ simpleNames then
    let value :=
      if name = "go_import_path_base" then String.ofList (Text.withoutTrailing '/' value.toList) else value
    .ok { changes with simple := putEntry name value changes.simple }
  else .error (.option (.unknown name))

/-- The value `name=path` of a named package. -/
def namedPackage? (value : List Char) : Option (String × String) :=
  match Text.cut '=' value with
  | (_, none) => none
  | (name, some path) =>
    let name := Text.trimmed name
    let path := Text.trimmed path
    if name.isEmpty || path.isEmpty then none
    else some (String.ofList name, String.ofList (Text.withoutTrailing '/' path))

/-- Notes what one item of parameter text says. An item of blanks says nothing. -/
def Changes.add (changes : Changes) (item : List Char) : Except Failure Changes :=
  let item := Text.trimmed item
  if item.isEmpty then .ok changes
  else
    let (name, value) := Text.cut '=' item
    let name := String.ofList (Text.trimmed name)
    match value.map Text.trimmed with
    | none | some [] => .error (.option (.malformed (String.ofList item)))
    | some value =>
      if name = "named_go_package" then
        match namedPackage? value with
        | none => .error (.option (.malformedNamedPackage (String.ofList value)))
        | some (name, path) => .ok { changes with named := putEntry name path changes.named }
      else changes.set name (String.ofList value)

def replace (options : Options) (changes : Changes) : Options where
  pluginName := (changes.simple.lookup "plugin_name").or options.pluginName
  importPathBase := (changes.simple.lookup "go_import_path_base").or options.importPathBase
  namedPackages := changes.named
  contextPath := (changes.simple.lookup "context_import_path").or options.contextPath
  httpClientPath := (changes.simple.lookup "httpclient_import_path").or options.httpClientPath
  twirpClientPath := (changes.simple.lookup "twirpclient_import_path").or options.twirpClientPath
  zapPath := (changes.simple.lookup "zap_import_path").or options.zapPath

/-- Collects the changes of all items of parameter text, then makes them. -/
def withParameter (options : Options) (parameter : String) : Except Failure Options :=
  match options.namedPackages with
  | none => .error (.fault .namedPackagesNull)
  | some named => do
    let changes ← (Text.pieces ',' parameter.toList).foldlM Changes.add { named }
    return options.replace changes

/-- Applies parameter texts as if they were one. -/
def withParameters (options : Options) (parameters : List String) : Except Failure Options :=
  options.withParameter (String.intercalate "," parameters)

/-! ## JSON -/

/-- The text of an entry: the default if it is absent, `none` if it is null. -/
def textEntry (object : Json) (name : String) (default : Option String) : Option String :=
  match object.get? name with
  | none => default
  | some .null => none
  | some value => some value.asText

def namedEntries (object : Json) : Except Failure (Option (List (String × String))) :=
  match object.get? "named_go_packages" with
  | none => .ok (some [])
  | some .null => .ok none
  | some (.object entries) => .ok (some (entries.map fun (name, value) => ((Json.text name).asText, value.asText)))
  | some _ => .error (.fault .notAnObject)

/-- The options of a JSON object. Names that are no options are ignored. -/
def ofJson (json : Json) : Except Failure Options :=
  match json with
  | .object _ => do
    let defaults : Options := {}
    return {
      pluginName := textEntry json "plugin_name" defaults.pluginName
      importPathBase := textEntry json "go_import_path_base" defaults.importPathBase
      namedPackages := ← namedEntries json
      contextPath := textEntry json "context_import_path" defaults.contextPath
      httpClientPath := textEntry json "httpclient_import_path" defaults.httpClientPath
      twirpClientPath := textEntry json "twirpclient_import_path" defaults.twirpClientPath
      zapPath := textEntry json "zap_import_path" defaults.zapPath }
  | _ => .error (.fault .notAnObject)

def readJson (text : String) : Except Failure Json :=
  match Json.parse text with
  | .error .malformed => .error (.fault .notJson)
  | .error .longInteger => .error (.fault .integerTooLong)
  | .error .tooDeep => .error (.fault .nestedTooDeep)
  | .ok json => .ok json

/-- The options of a JSON text. -/
def ofJsonText (text : String) : Except Failure Options := do ofJson (← readJson text)

/-! ## Halves of surrogate pairs -/

/-- Texts with half of a surrogate pair, by the form in which they are shown. -/
abbrev HalfTexts := List (String × List Nat)

/-- The text, if a half stands in it. -/
def halfText : Json → HalfTexts
  | .text codes => if codes.any Text.isHalf then [(Text.shownCodes codes, codes)] else []
  | _ => []

/-- All texts of a JSON object that can become options and in which a half stands. -/
def halfTexts : Json → HalfTexts
  | .object entries => entries.flatMap fun (_, value) =>
      match value with
      | .object named => named.flatMap fun (name, value) => halfText (.text name) ++ halfText value
      | value => halfText value
  | _ => []

/-- The code points of an option's text. -/
def codesOf (halves : HalfTexts) (text : String) : List Nat :=
  (halves.lookup text).getD (Text.codes text)

end Options

end RpcClients
