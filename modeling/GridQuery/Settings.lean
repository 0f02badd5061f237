import GridQuery.Settings.Address
import GridQuery.Sql.Dialect

/-!
Settings by name. A setting of blanks only is absent. Settings are checked in one fixed order, so
that of several faults always the same one is reported.
-/

namespace GridQuery

open GridQuery.Number GridQuery.Sql

/-- Why the text of a setting has no value. -/
inductive ValueFault where
  | whole (e : WholeError)
  | address
deriving DecidableEq, Repr

inductive SettingsError where
  | noDatabase
  | rolloverRange (day : Nat)
  | badValue (name raw : String) (cause : ValueFault)
  | badPaging (cause : String)
  | badSwitch (name word : String)
deriving DecidableEq, Repr

namespace ValueFault

def message : ValueFault → String
  | whole .invalidDigit => "invalid digit found in string"
  | whole .tooLarge => "number too large to fit in target type"
  | address => "invalid socket address syntax"

end ValueFault

namespace SettingsError

def message : SettingsError → String
  | noDatabase => "DATABASE_URL must be set"
  | rolloverRange day => "MONTH_ROLLOVER_DAY must be between 1 and 31, got " ++ natText day
  | badValue name raw _ => s!"invalid value for {name}: '{raw}'"
  | badPaging cause => s!"invalid SQL_PAGING: {cause}"
  | badSwitch name word => s!"invalid boolean for {name}: '{word}'"

/-- The messages from the outermost to the root cause. -/
def chain (e : SettingsError) : List String :=
  match e with
  | badValue _ _ cause => [e.message, cause.message]
  | e => [e.message]

end SettingsError

structure Settings where
  databaseUrl : String
  maxConnections : Nat
  bindAddress : SocketAddress
  /-- The style of the database's own dialect, if absent. -/
  paging : Option Paging
  domainLifetimeSecs : Nat
  refreshSecs : Nat
  cacheInputFeatures : Bool
  cacheOutputFeatures : Bool
  inputFeatures : List String
  inputFeaturesTable : String
  outputFeaturesTable : String
  dashboardTable : String
  movementsSql : Option String
  featureKeyColumn : String
  monthRolloverDay : Nat
deriving DecidableEq, Repr

namespace Settings

/-- Where settings come from. -/
abbrev Lookup := String → Option String

def get? (lookup : Lookup) (name : String) : Option String :=
  (lookup name).filter fun v => !Text.allBlank v

/-- A setting that has to be read, or its default. -/
def parseOr {α : Type} (lookup : Lookup) (name : String) (parse : String → Except ValueFault α)
    (default : α) : Except SettingsError α :=
  match get? lookup name with
  | none => .ok default
  | some raw => (parse (Text.trim raw)).mapError (.badValue name raw)

/-- A number below `bound`. -/
def number (bound : Nat) (s : String) : Except ValueFault Nat :=
  (readBelow bound s).mapError .whole

def address (s : String) : Except ValueFault SocketAddress :=
  match SocketAddress.ofText? s with
  | some a => .ok a
  | none => .error .address

/-- The words of a switch. -/
def switchWords : List (String × Bool) :=
  [("1", true), ("true", true), ("yes", true), ("on", true),
    ("0", false), ("false", false), ("no", false), ("off", false)]

def switch (lookup : Lookup) (name : String) : Except SettingsError Bool :=
  match get? lookup name with
  | none => .ok false
  | some raw =>
    let word := Text.lower (Text.trim raw)
    match switchWords.lookup word with
    | some b => .ok b
    | none => .error (.badSwitch name word)

/-- The only setting without a default. -/
def requiredUrl (lookup : Lookup) : Except SettingsError String :=
  match get? lookup "DATABASE_URL" with
  | some url => .ok url
  | none => .error .noDatabase

def rolloverDay (lookup : Lookup) : Except SettingsError Nat := do
  let day ← parseOr lookup "MONTH_ROLLOVER_DAY" (number (twoTo 32)) 14
  if 1 ≤ day ∧ day ≤ 31 then return day else .error (.rolloverRange day)

def pagingStyle (lookup : Lookup) : Except SettingsError (Option Paging) :=
  match get? lookup "SQL_PAGING" with
  | none => .ok none
  | some raw => ((Paging.ofSetting raw).map some).mapError .badPaging

/-- The pieces between commas. -/
def splitCommas : List Char → List (List Char)
  | [] => [[]]
  | c :: r =>
    if c = ',' then [] :: splitCommas r
    else
      match splitCommas r with
      | [] => [[c]]
      | p :: ps => (c :: p) :: ps

/-- The names in a list with commas, trimmed; empty ones are dropped. -/
def nameList (s : String) : List String :=
  ((splitCommas s.toList).map Text.trimChars).filterMap fun p =>
    if p = [] then none else some (String.ofList p)

def defaultAddress : SocketAddress :=
  .v4 [0, 0, 0, 0] 3000

def read (lookup : Lookup) : Except SettingsError Settings := do
  let databaseUrl ← requiredUrl lookup
  let monthRolloverDay ← rolloverDay lookup
  let maxConnections ← parseOr lookup "DB_MAX_CONNECTIONS" (number (twoTo 32)) 10
  let bindAddress ← parseOr lookup "BIND_ADDR" address defaultAddress
  let paging ← pagingStyle lookup
  let domainLifetimeSecs ← parseOr lookup "PIVOT_CACHE_TTL_SECS" (number (twoTo 64)) 300
  let refreshSecs ← parseOr lookup "CACHE_REFRESH_SECS" (number (twoTo 64)) 35000
  let cacheInputFeatures ← switch lookup "CACHE_INPUT_FEATURES"
  let cacheOutputFeatures ← switch lookup "CACHE_OUTPUT_FEATURES"
  return {
    databaseUrl, maxConnections, bindAddress, paging, domainLifetimeSecs, refreshSecs,
    cacheInputFeatures, cacheOutputFeatures, monthRolloverDay
    inputFeatures := ((get? lookup "INPUT_FEATURES").map nameList).getD []
    inputFeaturesTable := (get? lookup "INPUT_FEATURES_TABLE").getD "input_features"
    outputFeaturesTable := (get? lookup "OUTPUT_FEATURES_TABLE").getD "output_features"
    dashboardTable := (get? lookup "DASHBOARD_TABLE").getD "dashboard"
    movementsSql := get? lookup "MOVEMENTS_SQL"
    featureKeyColumn := (get? lookup "FEATURE_KEY_COLUMN").getD "vehicle" }

end Settings

end GridQuery
