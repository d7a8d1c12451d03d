import GestureGraph.Limit
import GestureGraph.Pattern
import GestureGraph.Table
import GestureGraph.Toml.Reader

namespace GestureGraph

inductive ConfigError where
  | read (path : String)
  | parse (path : String)
  | pattern (pattern : String)
  | zeroLimit (field : String)
  deriving Repr, DecidableEq

namespace ConfigError

def message? : ConfigError → Option String
  | .read path => some ("failed to read axioms file: " ++ path)
  | .parse _ => none
  | .pattern _ => none
  | .zeroLimit field => some s!"limit `{field}` must be greater than zero"

def code : ConfigError → String
  | .read _ => "logos::config::read"
  | .parse _ => "logos::config::parse"
  | .pattern _ => "logos::config::pattern"
  | .zeroLimit _ => "logos::config::zero_limit"

def help : ConfigError → String
  | .read _ => "Ensure the file exists and is readable."
  | .parse _ =>
      "Check the TOML syntax. Known sections: [limits], [absolutism], [blind_spots], [provenance]."
  | .pattern _ => "Patterns use the `regex` crate syntax and are matched case-insensitively."
  | .zeroLimit _ =>
      "A zero ceiling would reject every evaluation. Remove the field to use the default."

end ConfigError

abbrev Texts := Table String String

def defaultPatterns : List String :=
  ["\\babsolute(ly)? truth\\b", "\\bbeyond (all|any) doubt\\b",
    "\\b(always|never) (wrong|mistaken)\\b", "\\bfinal truth\\b", "абсолютн\\w* истин\\w*"]

def defaultBlindSpots : Texts := .ofList
  [("chaos", "Fundamentally undecidable; acknowledged, not computed"),
    ("consciousness", "The inner side of experience is not modeled"),
    ("meaning", "Meaning arises in dialogue and is never stored whole")]

def defaultProvenance : Texts := .ofList
  [("protocol", "Λ-Protocol 6.0"), ("standard", "FAIR+CARE"), ("license", "CC-BY-4.0"),
    ("access_rights", "open"),
    ("collective_benefit", "knowledge returned to the participating community"),
    ("authority_to_control", "operator"),
    ("responsibility", "operator and context share attribution"),
    ("ethics", "blind spots are recorded, never resolved by force")]

structure Config where
  limits : Limits := {}
  patterns : List String := defaultPatterns
  blindSpots : Texts := defaultBlindSpots
  provenance : Texts := defaultProvenance

namespace Config

/-- The fields of a section: by name from a table, by place from an array. A moment has none of
them. -/
def field? (names : List String) (name : String) : Toml → Option (Option Toml)
  | .table _ members => some (members.lookup name)
  | .moment _ => some none
  | .array items => some ((names.idxOf? name).bind (items[·]?))
  | .tables items => some ((names.idxOf? name).bind (items[·]?))
  | _ => none

def orDefault {α : Type} (read? : Toml → Option α) (default : α) : Option Toml → Option α
  | none => some default
  | some value => read? value

def limitFields : List String := ["max_recursion_depth", "max_entities", "max_parse_depth"]

def limits? (section? : Option Toml) : Option Limits :=
  match section? with
  | none => some {}
  | some value => do
      let depth ← field? limitFields "max_recursion_depth" value
      let entities ← field? limitFields "max_entities" value
      let parseDepth ← field? limitFields "max_parse_depth" value
      let builtIn : Limits := {}
      return {
        recursionDepth := ← orDefault Toml.nat? builtIn.recursionDepth depth
        entities := ← orDefault Toml.nat? builtIn.entities entities
        parseDepth := ← orDefault Toml.nat? builtIn.parseDepth parseDepth }

def patterns? (section? : Option Toml) : Option (List String) :=
  match section? with
  | none => some defaultPatterns
  | some value => do
      let patterns ← field? ["patterns"] "patterns" value
      orDefault Toml.strings? defaultPatterns patterns

/-- The key under which a moment stands when it is read as a table. -/
def momentKey : String := "$__toml_private_datetime"

def texts? : Toml → Option Texts
  | .table _ members => do
      let pairs ← members.mapM fun (key, value) => value.str?.map (key, ·)
      return .ofList pairs
  | .moment text => some (.ofList [(momentKey, text)])
  | _ => none

/-- Sections and fields that are not known are passed over. -/
def ofMembers? (members : Toml.Members) : Option Config := do
  return {
    limits := ← limits? (members.lookup "limits")
    patterns := ← patterns? (members.lookup "absolutism")
    blindSpots := ← orDefault texts? defaultBlindSpots (members.lookup "blind_spots")
    provenance := ← orDefault texts? defaultProvenance (members.lookup "provenance") }

end Config

structure Axioms where
  limits : Limits
  banned : List Pattern
  blindSpots : Texts
  provenance : Texts

namespace Axioms

def checkLimit (field : String) (limit : Nat) : Except ConfigError Unit :=
  if limit = 0 then .error (.zeroLimit field) else .ok ()

def compile (pattern : String) : Except ConfigError Pattern :=
  match Pattern.compile? pattern with
  | some p => .ok p
  | none => .error (.pattern pattern)

/-- Limits are checked before patterns, each in the order of the document's description. -/
def ofConfig (config : Config) : Except ConfigError Axioms := do
  checkLimit "max_recursion_depth" config.limits.recursionDepth
  checkLimit "max_entities" config.limits.entities
  checkLimit "max_parse_depth" config.limits.parseDepth
  let banned ← config.patterns.mapM compile
  return ⟨config.limits, banned, config.blindSpots, config.provenance⟩

def ofText (path text : String) : Except ConfigError Axioms :=
  match (Toml.read? text).bind Config.ofMembers? with
  | some config => ofConfig config
  | none => .error (.parse path)

def builtIn : Axioms where
  limits := {}
  banned := defaultPatterns.filterMap Pattern.compile?
  blindSpots := defaultBlindSpots
  provenance := defaultProvenance

/-- A ceiling is at least one. -/
def withLimits (a : Axioms) (f : Limits → Limits) : Axioms :=
  let limits := f a.limits
  { a with limits := {
      recursionDepth := max limits.recursionDepth 1
      entities := max limits.entities 1
      parseDepth := max limits.parseDepth 1 } }

def patterns (a : Axioms) : List String := a.banned.map (·.text)

def checkPhrases (a : Axioms) (text : String) : Except LimitError Unit :=
  match a.banned.findSome? fun p => (p.phrase? text).map (·, p.text) with
  | some (phrase, pattern) => .error (.absolutism phrase pattern)
  | none => .ok ()

end Axioms

end GestureGraph
