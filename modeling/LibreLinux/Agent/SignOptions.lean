import LibreLinux.Agent.AuthorizedReply
import Mathlib.Algebra.Order.Floor.Ring
import Mathlib.Data.Rat.Floor

/-!
# The options of a signature

`Sign` and `SignBatch` share one vocabulary of options, resolved by one function: the format
(inferred from the document when it is not named), an own time-stamp authority, the level,
the packaging, and a visible appearance for the `pades` format. Whatever is outside the
vocabulary is refused with one error name.

The vocabulary itself belongs to the agent library: its predicates and defaults are
parameters, and nothing is assumed of them here. Numbers on the wire are exact rationals. The
casts of the language are parameters as well, since a number outside the target's range has
no defined result.
-/

namespace LibreLinux.Agent

/-- The values an option may have: the types that are looked for, and any other. -/
inductive OptionValue where
  | string (text : String)
  | boolean (value : Bool)
  | double (value : ℚ)
  | int32 (value : Int32)
  | uint32 (value : UInt32)
  | int64 (value : Int64)
  | uint64 (value : UInt64)
  | dict (entries : List (String × OptionValue))
  | other

/-- A string-keyed map of options. The first entry of a key is the one that is kept. -/
abbrev OptionMap := List (String × OptionValue)

def kErrUnsupportedOnThisCard : String := "org.librescrs.Agent.Error.UnsupportedOnThisCard"
def kErrInvalidRequest : String := "org.librescrs.Agent.Error.InvalidRequest"
def kErrRateLimited : String := "org.librescrs.Agent.Error.RateLimited"
def kInternalErrName : String := "org.librescrs.Agent.Error.Internal"
def kBadParamErrName : String := "org.librescrs.Agent.Error.UnsupportedSignatureParameter"
def kInputTooLargeErrName : String := "org.librescrs.Agent.Error.InputTooLarge"

/-- A typed bus error. -/
structure BusError where
  name : String
  message : String
deriving DecidableEq, Repr

/-- Refuse an option. -/
def badParam {α : Type} (message : String) : Except BusError α := .error ⟨kBadParamErrName, message⟩

/-- A refusal has no value. -/
theorem bad_param_ne_ok {α : Type} (message : String) (value : α) :
    badParam message ≠ .ok value := by
  rintro ⟨⟩

/-- A text option, with the fallback when it is absent or mistyped. -/
def optString (options : OptionMap) (key fallback : String) : String :=
  match options.lookup key with
  | some (.string text) => text
  | _ => fallback

/-- A boolean option, with the fallback when it is absent or mistyped. -/
def optBool (options : OptionMap) (key : String) (fallback : Bool) : Bool :=
  match options.lookup key with
  | some (.boolean value) => value
  | _ => fallback

/-- A nested map. An absent one and a mistyped one are both none. -/
def optNestedMap (options : OptionMap) (key : String) : Option OptionMap :=
  match options.lookup key with
  | some (.dict entries) => some entries
  | _ => none

/-- The number of a value of one of the five numeric types. -/
def OptionValue.number : OptionValue → Option ℚ
  | .double value => some value
  | .int32 value => some (value.toInt : ℚ)
  | .uint32 value => some (value.toNat : ℚ)
  | .int64 value => some (value.toInt : ℚ)
  | .uint64 value => some (value.toNat : ℚ)
  | _ => none

/-- A numeric field of a nested map, of whichever numeric type. -/
def optNestedNumber (entries : OptionMap) (key : String) : Option ℚ :=
  (entries.lookup key).bind OptionValue.number

/-- A text field of a nested map. -/
def nestedText (entries : OptionMap) : Option String :=
  match entries.lookup "text" with
  | some (.string text) => some text
  | _ => none

/-- The vocabulary of the agent library. -/
structure SignatureParams where
  requestedFormatFrom : String → Option String
  sniffFormat : List UInt8 → Option String
  isKnownFormat : String → Bool
  isValidTsaUrl : String → Bool
  requestedLevelFrom : String → Option String
  resolveSignLevel : Option String → String → Bool → String
  isKnownLevel : String → Bool
  isImplementedSignLevel : String → Bool
  implementedSignLevelsDisplay : String
  requestedPackagingFrom : String → Option String
  defaultPackagingFor : String → String
  isKnownPackaging : String → Bool
  isValidVisualGeometry : Int → ℚ → ℚ → ℚ → ℚ → Bool

/-- The casts of a floating-point number: to the 64-bit and the 32-bit signed type, and to
single precision. -/
structure Casts where
  toInt64 : ℚ → Int
  toInt : ℚ → Int
  toFloat : ℚ → ℚ

/-- The whole part of a number, towards zero. -/
def truncated (value : ℚ) : Int := if 0 ≤ value then ⌊value⌋ else ⌈value⌉

/-- A whole part within the range of the 32-bit signed type. -/
abbrev InIntRange (value : Int) : Prop := -2 ^ 31 ≤ value ∧ value < 2 ^ 31

/-- A cast to the 32-bit signed type gives a value of that type: the whole part, if that is
one. -/
structure Casts.Lawful (casts : Casts) : Prop where
  bounded : ∀ value, InIntRange (casts.toInt value)
  truncates : ∀ value, InIntRange (truncated value) → casts.toInt value = truncated value

/-- The agent's configuration, as far as signatures read it. -/
structure SignConfig where
  tsaUrls : List String
  defaultLevel : String
  defaultReason : String
  defaultLocation : String

/-- A visible appearance. -/
structure VisualParams where
  page : Int
  x : ℚ
  y : ℚ
  width : ℚ
  height : ℚ
  text : String

/-- The options as they are resolved. -/
structure ResolvedSignOptions where
  format : String
  level : String
  packaging : String
  allowExpired : Bool
  reason : String
  location : String
  tsaUrl : String
  visual : Option VisualParams

section Resolution

variable (params : SignatureParams) (casts : Casts) (config : SignConfig) (options : OptionMap)

/-- The format as requested, or inferred from the document. -/
def requestedOrSniffed (sniffSource : List UInt8) : Except BusError String :=
  match params.requestedFormatFrom (optString options "format" "") with
  | some requested => .ok requested
  | none =>
    match params.sniffFormat sniffSource with
    | none => badParam "Could not infer the signature format"
    | some sniffed => .ok sniffed

/-- The format, if it is known. -/
def resolveFormat (sniffSource : List UInt8) : Except BusError String := do
  let format ← requestedOrSniffed params options sniffSource
  if params.isKnownFormat format then .ok format else badParam "Unsupported signature format"

/-- The time-stamp authority of this one signature; empty when none is named. -/
def resolveTsaUrl : Except BusError String :=
  match options.lookup "tsaUrl" with
  | none => .ok ""
  | some (.string tsaUrl) =>
    if params.isValidTsaUrl tsaUrl then .ok tsaUrl
    else badParam "tsaUrl must be an https URL with a non-empty host"
  | some _ => badParam "tsaUrl must be a string"

/-- The requested level; none defers to the configuration. -/
def requestedLevel : Except BusError (Option String) :=
  match options.lookup "level" with
  | none => .ok none
  | some (.string level) => .ok (params.requestedLevelFrom level)
  | some _ => badParam "level must be a string"

/-- The level in force. A time-stamp authority needs a level that has time stamps. -/
def resolveLevel (tsaUrl : String) : Except BusError String := do
  let requested ← requestedLevel params options
  let hasTsa := !config.tsaUrls.isEmpty || decide (tsaUrl ≠ "")
  let level := params.resolveSignLevel requested config.defaultLevel hasTsa
  if !params.isKnownLevel level then badParam "Unsupported signature level"
  else if !params.isImplementedSignLevel level then
    badParam ("Only the " ++ params.implementedSignLevelsDisplay ++
      " signature levels are supported in this release")
  else if tsaUrl ≠ "" ∧ level = "b-b" then
    badParam "tsaUrl is only meaningful for the timestamped/long-term family (b-t/b-lt/b-lta)"
  else .ok level

/-- The packaging: as requested, or the format's own. -/
def resolvePackaging (format : String) : Except BusError String :=
  let packaging := (params.requestedPackagingFrom (optString options "packaging" "")).getD
    (params.defaultPackagingFor format)
  if params.isKnownPackaging packaging then .ok packaging else badParam "Unsupported packaging mode"

/-- The visible appearance: all six fields together, and only for `pades`. -/
def resolveVisual (format : String) : Except BusError (Option VisualParams) :=
  match optNestedMap options "visualSignature" with
  | none => .ok none
  | some nested =>
    if format ≠ "pades" then badParam "visualSignature is only supported for the pades format"
    else
      match optNestedNumber nested "page", optNestedNumber nested "x", optNestedNumber nested "y",
        optNestedNumber nested "width", optNestedNumber nested "height", nestedText nested with
      | some page, some x, some y, some width, some height, some text =>
        if params.isValidVisualGeometry (casts.toInt64 page) x y width height then
          .ok (some
            { page := casts.toInt page, x := casts.toFloat x, y := casts.toFloat y,
              width := casts.toFloat width, height := casts.toFloat height, text })
        else
          badParam ("visualSignature requires page/x/y/width/height/text, a non-negative page, " ++
            "and a positive width/height")
      | _, _, _, _, _, _ =>
        badParam ("visualSignature requires page/x/y/width/height/text, a non-negative page, " ++
          "and a positive width/height")

/-- Resolve the options of a signature; the format is inferred from this document. -/
def resolveSignOptions (sniffSource : List UInt8) : Except BusError ResolvedSignOptions := do
  let format ← resolveFormat params options sniffSource
  let tsaUrl ← resolveTsaUrl params options
  let level ← resolveLevel params config options tsaUrl
  let packaging ← resolvePackaging params options format
  let visual ← resolveVisual params casts options format
  pure
    { format, level, packaging, tsaUrl, visual
      allowExpired := optBool options "allowExpired" false
      reason := optString options "reason" config.defaultReason
      location := optString options "location" config.defaultLocation }

/-- A step that succeeds before another. -/
theorem bind_ok_iff {α β : Type} (first : Except BusError α) (rest : α → Except BusError β)
    (result : β) :
    (first >>= rest) = .ok result ↔ ∃ value, first = .ok value ∧ rest value = .ok result := by
  cases first with
  | error error => simp [bind, Except.bind]
  | ok value => simp [bind, Except.bind]

/-- A step, or one behind it, that is refused. -/
theorem bind_error_iff {α β : Type} (first : Except BusError α) (rest : α → Except BusError β)
    (error : BusError) :
    (first >>= rest) = .error error ↔
      first = .error error ∨ ∃ value, first = .ok value ∧ rest value = .error error := by
  cases first with
  | error error => simp [bind, Except.bind]
  | ok value => simp [bind, Except.bind]

/-- The options are resolved when each of them is. -/
theorem resolved_iff (sniffSource : List UInt8) (resolved : ResolvedSignOptions) :
    resolveSignOptions params casts config options sniffSource = .ok resolved ↔
      resolveFormat params options sniffSource = .ok resolved.format ∧
      resolveTsaUrl params options = .ok resolved.tsaUrl ∧
      resolveLevel params config options resolved.tsaUrl = .ok resolved.level ∧
      resolvePackaging params options resolved.format = .ok resolved.packaging ∧
      resolveVisual params casts options resolved.format = .ok resolved.visual ∧
      resolved.allowExpired = optBool options "allowExpired" false ∧
      resolved.reason = optString options "reason" config.defaultReason ∧
      resolved.location = optString options "location" config.defaultLocation := by
  obtain ⟨format, level, packaging, allowExpired, reason, location, tsaUrl, visual⟩ := resolved
  simp only [resolveSignOptions, bind_ok_iff, pure, Except.pure, Except.ok.injEq,
    ResolvedSignOptions.mk.injEq]
  constructor
  · rintro ⟨_, first, _, second, _, third, _, fourth, _, fifth, rfl, rfl, rfl, rfl, rfl, rfl, rfl,
      rfl⟩
    exact ⟨first, second, third, fourth, fifth, rfl, rfl, rfl⟩
  · rintro ⟨first, second, third, fourth, fifth, rfl, rfl, rfl⟩
    exact ⟨_, first, _, second, _, third, _, fourth, _, fifth, rfl, rfl, rfl, rfl, rfl, rfl, rfl, rfl⟩

/-- Every refusal of an option carries the one name. -/
theorem options_refused_name (sniffSource : List UInt8) (error : BusError)
    (refused : resolveSignOptions params casts config options sniffSource = .error error) :
    error.name = kBadParamErrName := by
  have named : ∀ {α : Type} (message : String),
      (badParam message : Except BusError α) = .error error → error.name = kBadParamErrName := by
    intro α message same
    cases same
    rfl
  simp only [resolveSignOptions, bind_error_iff, pure, Except.pure, reduceCtorEq, and_false,
    exists_false, or_false] at refused
  rcases refused with format | ⟨_, -, tsaUrl | ⟨_, -, level | ⟨_, -, packaging | ⟨_, -, visual⟩⟩⟩⟩
  · simp only [resolveFormat, bind_error_iff] at format
    rcases format with inferred | ⟨_, -, unknown⟩
    · unfold requestedOrSniffed at inferred
      split at inferred
      · cases inferred
      · split at inferred
        · exact named _ inferred
        · cases inferred
    · split_ifs at unknown
      exact named _ unknown
  · unfold resolveTsaUrl at tsaUrl
    split at tsaUrl
    · cases tsaUrl
    · split_ifs at tsaUrl
      exact named _ tsaUrl
    · exact named _ tsaUrl
  · simp only [resolveLevel, bind_error_iff] at level
    rcases level with mistyped | ⟨_, -, unknown⟩
    · unfold requestedLevel at mistyped
      split at mistyped
      · cases mistyped
      · cases mistyped
      · exact named _ mistyped
    · split_ifs at unknown <;> exact named _ unknown
  · simp only [resolvePackaging] at packaging
    split_ifs at packaging
    exact named _ packaging
  · unfold resolveVisual at visual
    split at visual
    · cases visual
    · split_ifs at visual
      · exact named _ visual
      · split at visual
        · split_ifs at visual
          exact named _ visual
        · exact named _ visual

/-- Resolved options agree with each other: an own time-stamp authority with a level that has
time stamps, and an appearance with the format that can show it. -/
theorem resolved_consistent (sniffSource : List UInt8) (resolved : ResolvedSignOptions)
    (accepted : resolveSignOptions params casts config options sniffSource = .ok resolved) :
    (resolved.tsaUrl ≠ "" → resolved.level ≠ "b-b") ∧
      (resolved.visual.isSome = true → resolved.format = "pades") := by
  obtain ⟨-, -, level, -, visual, -⟩ :=
    (resolved_iff params casts config options sniffSource resolved).mp accepted
  constructor
  · intro named baseline
    simp only [resolveLevel, bind_ok_iff] at level
    obtain ⟨requested, -, checked⟩ := level
    split_ifs at checked with unknown unimplemented unstamped
    · exact bad_param_ne_ok _ _ checked
    · exact bad_param_ne_ok _ _ checked
    · exact bad_param_ne_ok _ _ checked
    · exact unstamped ⟨named, (Except.ok.inj checked).trans baseline⟩
  · intro shown
    unfold resolveVisual at visual
    split at visual
    · rw [← Except.ok.inj visual] at shown
      cases shown
    · by_contra other
      rw [if_pos other] at visual
      exact bad_param_ne_ok _ _ visual

end Resolution

/-- An absent word and the deferral sentinel name nothing. -/
def deferred (word : String) : Option String :=
  if word = "" ∨ word = "auto" then none else some word

/-- A vocabulary as this tree's tests and comments spell it: two formats told by their first
bytes, the four baseline levels, and a default of no time stamp that one lifts. -/
def documentedParams : SignatureParams where
  requestedFormatFrom := deferred
  sniffFormat bytes :=
    match bytes with
    | 0x25 :: 0x50 :: 0x44 :: 0x46 :: _ => some "pades"
    | 0x30 :: _ => some "cades"
    | _ => none
  isKnownFormat format := format == "pades" || format == "cades"
  isValidTsaUrl url := "https://".isPrefixOf url && url.length > 8
  requestedLevelFrom := deferred
  resolveSignLevel
    | some level, _, _ => level
    | none, level, hasTsa => if level = "b-b" ∧ hasTsa then "b-t" else level
  isKnownLevel level := ["b-b", "b-t", "b-lt", "b-lta"].contains level
  isImplementedSignLevel level := ["b-b", "b-t", "b-lt", "b-lta"].contains level
  implementedSignLevelsDisplay := "b-b/b-t/b-lt/b-lta"
  requestedPackagingFrom := deferred
  defaultPackagingFor _ := "detached"
  isKnownPackaging packaging := packaging == "detached"
  isValidVisualGeometry page _ _ width height :=
    decide (0 ≤ page) && decide (0 < width) && decide (0 < height)

/-- Casts that give the least number of the type for what is outside its range. -/
def documentedCasts : Casts where
  toInt64 value :=
    if -2 ^ 63 ≤ truncated value ∧ truncated value < 2 ^ 63 then truncated value else -2 ^ 63
  toInt value := if InIntRange (truncated value) then truncated value else -2 ^ 31
  toFloat value := value

theorem documented_casts_lawful : documentedCasts.Lawful where
  bounded := by
    intro value
    simp only [documentedCasts]
    split_ifs with inside
    · exact inside
    · decide
  truncates := by
    intro value inside
    simp only [documentedCasts, if_pos inside]

/-- No time-stamp authority, and no level beyond the baseline. -/
def baselineConfig : SignConfig where
  tsaUrls := []
  defaultLevel := "b-b"
  defaultReason := ""
  defaultLocation := ""

/-- The first bytes of a document in the format that can show a signature. -/
def pdfBytes : List UInt8 := [0x25, 0x50, 0x44, 0x46, 0x2D, 0x31, 0x2E, 0x37]

end LibreLinux.Agent
