import GatewaySession.Gateway.Settings

/-!
# Where settings come from

Settings begin as a JSON text, as the defaults, or as the defaults for a gateway, and are then
changed by any number of choices. They are accepted if reading the text, where there is one,
succeeds and what comes out in the end has the required fields.

The number of workers is the field that the two ways treat differently. A choice of it is raised to
at least one; what a text states is taken as it is. So the number of workers is settled here for
both at once: the last choice counts, and without one the statement of the text.

## Main definitions

* `Json.Document.stated?` — what a record states for one of its fields
* `Settings.Choice`, `Settings.choose` — the choices
* `Settings.Origin`, `Settings.IsAccepted` — settings that are accepted

## Main results

* `Settings.ofDocument?_maxWorkers` — the number of workers that a text gives
* `Settings.IsAccepted.maxWorkers` — the number of workers of accepted settings
* `Settings.IsAccepted.workerLimit_eq_zero_iff` — when no request may run
-/

namespace GatewaySession

namespace Json

/-- What is there for a field. -/
def Slot.given? : Slot → Option Document
  | given document => some document
  | missing => none
  | cutOff => none

/-- What a record states for the field of a name, by the name of a member or by its position. -/
def Document.stated? (names : List String) (name : String) (document : Document) :
    Option Document := do
  let slots ← document.slots? names
  let slot ← slots[names.idxOf name]?
  slot.given?

/-- A number that may be left out or be `null` is the one that is there. -/
theorem Slot.defaulted_uint64 {slot : Slot} {value : Option UInt64}
    (read : slot.defaulted none (nullable (·.uint64?)) = some value) :
    value = slot.given?.bind (·.uint64?) := by
  cases slot with
  | missing => cases read; rfl
  | cutOff => cases read; rfl
  | given document =>
    cases document with
    | null => cases read; rfl
    | _ =>
      simp only [defaulted, nullable, Option.map_eq_some_iff] at read
      obtain ⟨number, found, rfl⟩ := read
      exact found.symm

end Json

namespace Settings

/-! ### Choices -/

/-- What can be chosen of settings. -/
inductive Choice where
  /-- The port of the host. -/
  | port (port : UInt16)
  /-- The text before every path. -/
  | pathPrefix (text : String)
  /-- The client secret. -/
  | clientSecret (secret : String)
  /-- The scope that grants ask for. -/
  | scope (scope : String)
  /-- The redirect URI that grants carry. -/
  | redirectUri (uri : String)
  /-- Whether identity tokens are kept. -/
  | sso (enabled : Bool)
  /-- Whether registration needs a user credential. -/
  | registrationRequiresUser (required : Bool)
  /-- The path of an operation. -/
  | endpoint (endpoint : Endpoint) (path : String)
  /-- One more hash of a pinned public key. -/
  | trustedKeyHash (hash : String)
  /-- The namespace of stored records. -/
  | storagePrefix (name : String)
  /-- How many requests may run at once. -/
  | maxWorkers (workers : UInt64)
  /-- How many whole seconds a response nobody takes is kept. -/
  | responseTtl (seconds : UInt64)

/-- The settings after a choice. -/
def choose (settings : Settings) : Choice → Settings
  | .port port => { settings with port }
  | .pathPrefix text => { settings with pathPrefix := text }
  | .clientSecret secret => { settings with clientSecret := some secret }
  | .scope scope => { settings with scope }
  | .redirectUri uri => { settings with redirectUri := some uri }
  | .sso enabled => { settings with ssoEnabled := enabled }
  | .registrationRequiresUser required => { settings with registrationRequiresUser := required }
  | .endpoint endpoint path => settings.withEndpoint endpoint path
  | .trustedKeyHash hash => settings.withTrustedKeyHash hash
  | .storagePrefix name => { settings with storagePrefix := name }
  | .maxWorkers workers => settings.withMaxWorkers workers
  | .responseTtl seconds => { settings with responseTtl := seconds }

/-- The number of workers that a choice is about. -/
def Choice.workers? : Choice → Option UInt64
  | .maxWorkers workers => some workers
  | _ => none

/-- The number of workers that was chosen last. -/
def chosenWorkers? : List Choice → Option UInt64
  | [] => none
  | choice :: later => (chosenWorkers? later).or choice.workers?

theorem toNat_max_one_ne_zero (workers : UInt64) : (max workers 1).toNat ≠ 0 := by
  rw [show max workers 1 = if workers ≤ 1 then 1 else workers from rfl]
  split
  · decide
  · next more =>
    have := UInt64.lt_iff_toNat_lt.1 (UInt64.not_le.1 more)
    omega

/-- **The last choice of workers counts**, raised to at least one. -/
theorem maxWorkers_foldl_choose (settings : Settings) (choices : List Choice) :
    (choices.foldl choose settings).maxWorkers =
      ((chosenWorkers? choices).map (max · 1)).or settings.maxWorkers := by
  induction choices generalizing settings with
  | nil => rfl
  | cons choice later ih =>
    rw [List.foldl_cons, ih, chosenWorkers?]
    cases chosenWorkers? later with
    | some workers => rfl
    | none => cases choice <;> rfl

/-! ### Texts -/

/-- The number of workers is what the record states. -/
theorem ofDocument?_maxWorkers {document : Json.Document} {settings : Settings}
    (read : ofDocument? document = some settings) :
    settings.maxWorkers = (document.stated? fieldNames "max_workers").bind (·.uint64?) := by
  rw [ofDocument?] at read
  obtain ⟨slots, given, read⟩ := Option.bind_eq_some_iff.1 read
  split at read
  · next host port pathPrefix clientId clientSecret scope redirectUri ssoEnabled
      registrationRequiresUser endpoints trustedKeyHashes storagePrefix maxWorkers responseTtl =>
    have slot : document.stated? fieldNames "max_workers" = maxWorkers.given? := by
      rw [Json.Document.stated?, given]
      rfl
    -- Twelve fields are read before that of the workers, and one after it.
    iterate 12 obtain ⟨_, -, read⟩ := Option.bind_eq_some_iff.1 read
    obtain ⟨workers, found, read⟩ := Option.bind_eq_some_iff.1 read
    obtain ⟨_, -, read⟩ := Option.bind_eq_some_iff.1 read
    obtain rfl := Option.some.inj read
    rw [slot]
    exact Json.Slot.defaulted_uint64 found
  · cases read

/-! ### Accepted settings -/

/-- What settings begin as. -/
inductive Origin where
  /-- The settings of a JSON text. -/
  | text (contents : Bytes)
  /-- The defaults. -/
  | defaults
  /-- The defaults for a host and a client. -/
  | gateway (host clientId : String)

/-- The settings at the beginning. -/
def Origin.settings : Origin → Except Error Settings
  | .text contents => parse contents
  | .defaults => .ok default
  | .gateway host clientId => .ok (make host clientId)

/-- The number of workers that a text states. -/
def Origin.statedWorkers? : Origin → Option UInt64
  | .text contents => do
    let document ← Json.Document.parse? contents
    let field ← document.stated? fieldNames "max_workers"
    field.uint64?
  | _ => none

/-- Settings that were read or begun, changed by choices, and have the required fields. -/
structure IsAccepted (settings : Settings) (origin : Origin) (choices : List Choice) : Prop where
  /-- The choices were made on what the settings began as. -/
  chosen : ∃ first, origin.settings = .ok first ∧ settings = choices.foldl choose first
  /-- The required fields are there. -/
  checked : settings.check = .ok ()

theorem Origin.settings_maxWorkers {origin : Origin} {settings : Settings}
    (begun : origin.settings = .ok settings) : settings.maxWorkers = origin.statedWorkers? := by
  cases origin with
  | text contents =>
    rw [Origin.settings, parse] at begun
    split at begun
    · cases begun
    · next first read =>
      obtain ⟨document, parsed, read⟩ := Option.bind_eq_some_iff.1 read
      cases check : first.check with
      | error error => rw [check] at begun; cases begun
      | ok =>
        rw [check] at begun
        cases begun
        rw [Origin.statedWorkers?, parsed]
        exact ofDocument?_maxWorkers read
  | defaults => cases begun; rfl
  | gateway host clientId => cases begun; rfl

namespace IsAccepted

variable {settings : Settings} {origin : Origin} {choices : List Choice}

/-- **The number of workers** of accepted settings: the last choice, raised to at least one, or what
the text states, as it is. -/
theorem maxWorkers (accepted : settings.IsAccepted origin choices) :
    settings.maxWorkers = ((chosenWorkers? choices).map (max · 1)).or origin.statedWorkers? := by
  obtain ⟨first, begun, rfl⟩ := accepted.chosen
  rw [maxWorkers_foldl_choose, Origin.settings_maxWorkers begun]

/-- **No request may run** exactly if the text states zero workers and nothing else was chosen. -/
theorem workerLimit_eq_zero_iff (accepted : settings.IsAccepted origin choices) (cores : Nat) :
    settings.workerLimit cores = 0 ↔
      chosenWorkers? choices = none ∧ origin.statedWorkers? = some 0 := by
  rw [workerLimit, accepted.maxWorkers]
  cases chosenWorkers? choices with
  | some workers => simpa using toNat_max_one_ne_zero workers
  | none =>
    cases origin.statedWorkers? with
    | some workers => simp [← UInt64.toNat_inj]
    | none => simp

end IsAccepted

end Settings

end GatewaySession
