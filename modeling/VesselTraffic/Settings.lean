import VesselTraffic.Checksum
import VesselTraffic.Text.Split

/-!
# Settings

Settings are kept in a text of sections with indented lines `key: value`. Lines
that cannot be used leave a setting as it is, so a later line decides over an
earlier one.
-/
namespace VesselTraffic

structure Settings where
  checksum : ChecksumMode := .permissive
  source : String := "default"
  listenHost : String := "0.0.0.0"
  listenPort : UInt16 := 10110
  level : String := "info"
  deriving DecidableEq, Repr

namespace Settings

def default : Settings := {}

/-- What a line of settings says: it opens a section, closes the open one, or
assigns a value inside it. Any other line says nothing. -/
inductive Line
  | blank
  | opens (name : List Char)
  | closes
  | assigns (key value : List Char)
  deriving DecidableEq, Repr

/-- Two spaces or a tab at the start. -/
def isIndented : List Char → Bool
  | ' ' :: ' ' :: _ => true
  | '\t' :: _ => true
  | _ => false

def Line.ofText (line : List Char) : Line :=
  let stripped := Text.trim line
  if stripped.isEmpty || stripped.head? = some '#' then .blank
  else match Text.cutFirst? ':' stripped with
    | none => .blank
    | some (key, value) =>
      let key := Text.trim key
      let value := Text.trim value
      if isIndented line then .assigns key value
      else if value.isEmpty then .opens key
      else .closes

/-- A text between quotes of one kind stands for what is between them. The texts
`null` and `~` and the empty text are no values. -/
def textValue? (value : List Char) : Option String :=
  if value.isEmpty || value = "null".toList || value = ['~'] then none
  else
    let quotedBy (q : Char) := 2 ≤ value.length && value.head? = some q && value.getLast? = some q
    if quotedBy '"' || quotedBy '\'' then some (String.ofList (value.drop 1).dropLast)
    else some (String.ofList value)

/-- The settings and where they stand. -/
inductive Name
  | checksum
  | source
  | listenHost
  | listenPort
  | level
  deriving DecidableEq, Repr

/-- The setting of a key in a section, if there is one. -/
def Name.of? (openSection key : List Char) : Option Name :=
  let place := (String.ofList openSection, String.ofList key)
  if place = ("decoder", "checksum") then some .checksum
  else if place = ("decoder", "source") then some .source
  else if place = ("listen", "host") then some .listenHost
  else if place = ("listen", "port") then some .listenPort
  else if place = ("log", "level") then some .level
  else none

/-- Gives a setting the value of a text. What is no value for it is ignored, with a
notice unless the setting is a text. -/
def assign (s : Settings) (name : Name) (value : List Char) : Settings × List Notice :=
  match name with
  | .checksum =>
    match ChecksumMode.ofText value with
    | .ok mode => ({ s with checksum := mode }, [])
    | .error r => (s, [.checksumSettingIgnored (String.ofList value) r])
  | .source => ({ s with source := (textValue? value).getD s.source }, [])
  | .listenHost => ({ s with listenHost := (textValue? value).getD s.listenHost }, [])
  | .listenPort =>
    match Text.unsigned16? value with
    | some n => ({ s with listenPort := n }, [])
    | none => (s, [.listenSettingIgnored (String.ofList value)])
  | .level => ({ s with level := (textValue? value).getD s.level }, [])

/-- Settings on the way through a text, with the section that is open. -/
structure Progress where
  settings : Settings
  openSection : Option (List Char)
  notices : List Notice

def readLine (r : Progress) (line : List Char) : Progress :=
  match Line.ofText line with
  | .blank => r
  | .opens name => { r with openSection := some name }
  | .closes => { r with openSection := none }
  | .assigns key value =>
    match r.openSection.bind fun name => Name.of? name key with
    | none => r
    | some name =>
      let (settings, notices) := r.settings.assign name value
      { r with settings := settings, notices := r.notices ++ notices }

/-- Reads a text over the default settings. -/
def parse (text : List Char) : Settings × List Notice :=
  let r := (Text.linesOf text).foldl readLine ⟨default, none, []⟩
  (r.settings, r.notices)

/-- Reads the bytes of a file, if there is one. Bytes that are no text count as no
settings. -/
def load (path : String) (bytes : Option (List UInt8)) : Settings × List Notice :=
  match bytes with
  | none => (default, [])
  | some bytes =>
    match Text.Utf8.decode? bytes with
    | some text => parse text
    | none => (default, [.settingsUnreadable path "stream did not contain valid UTF-8"])

/-- The text of some settings. Quotes inside a value are not escaped. -/
def render (s : Settings) : String :=
  let quoted (value : String) := "\"" ++ value ++ "\""
  "\n".intercalate
    ["# ais-decode configuration",
     "",
     "decoder:",
     "  checksum: " ++ s.checksum.name,
     "  source: " ++ quoted s.source,
     "",
     "listen:",
     "  host: " ++ quoted s.listenHost,
     "  port: " ++ toString s.listenPort.toNat,
     "",
     "log:",
     "  level: " ++ quoted s.level] ++ "\n"

def directoryName : String := ".ais-decode"

def fileName : String := "config.yaml"

/-- A path and a name with one slash between them; a path that ends in a slash, or
an empty one, adds none. -/
def join (path name : String) : String :=
  if path.isEmpty || path.toList.getLast? = some '/' then path ++ name else path ++ "/" ++ name

/-- The home directory comes from the first variable that is set. -/
def directory (home userProfile : Option String) : String :=
  join ((home.orElse fun _ => userProfile).getD ".") directoryName

def file (home userProfile : Option String) : String := join (directory home userProfile) fileName

end Settings

end VesselTraffic
