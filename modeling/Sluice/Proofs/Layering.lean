import Sluice.Config.Layers
import Sluice.Proofs.Decoding
import Sluice.Proofs.Verdicts

/-! The effective configuration, setting by setting.

`resolve` makes a configuration out of three layers, each over the one before as a whole: the
defaults, the file, the command line. Said of one setting alone (`Merged`), its flag counts, else
what the file has under its key, else its default, whatever the other settings are. There is one
configuration of which all of this holds, and it is the one that is checked
(`resolved_by_layers`). -/
namespace Sluice

/-- What is given for a field on the command line, what there is under its key in the file, and
its default: the first of these that is there decides. -/
def Config.Layered {β : Type} (flag : Option β) (value : Option Toml.Value)
    (reads : Toml.Value → β → Prop) (default b : β) : Prop :=
  match flag with
  | some given => b = given
  | none => Decided value reads default b

/-- The backends that are given; the command line gives all of them or none. -/
def Flags.pool (f : Flags) : Option (List String) :=
  if f.backends.isEmpty then none else some f.backends

/-- Flags of which none is given. -/
def Flags.silent : Flags :=
  ⟨[], none, none, false, none, none, none⟩

namespace Config
open Toml (Value)
open Results

/-! ### What a file may hold -/

/-- The sections of a file, and of each its settings in their order. -/
def schema : List (String × List (String × (Value → Prop))) :=
  [("listener", [("bind_address", Says IsString)]),
    ("balancer", [("strategy", Says IsStrategy), ("backends", Says IsStrings)]),
    ("health_check",
      [("interval_secs", Says IsNumber), ("timeout_secs", Says IsNumber), ("path", Says IsString)]),
    ("upstream", [("timeout_secs", Says IsNumber)]),
    ("observability", [("log_level", Says IsString), ("json", Says IsBoolean)])]

/-- Every section that is there is one, and every setting in it is what it has to be. -/
def Fits : Value → Prop :=
  Conforms (schema.map fun (name, settings) => (name, Conforms settings))

/-- The keys of a section. -/
def keysOf (name : String) : List String :=
  ((schema.lookup name).getD []).map (·.1)

/-- What a file sets a key of a section to. -/
def setting? (file : Option Value) (name key : String) : Option Value :=
  (file.bind (under? (schema.map (·.1)) name)).bind (under? (keysOf name) key)

/-- The configuration that the command line makes of a file, field by field. -/
structure Merged (f : Flags) (file : Option Value) (c : Config) : Prop where
  bindAddress : Layered f.bind (setting? file "listener" "bind_address") IsString
    "0.0.0.0:8080" c.listener.bindAddress
  strategy : Layered f.chosen (setting? file "balancer" "strategy") IsStrategy
    .roundRobin c.balancer.strategy
  backends : Layered f.pool (setting? file "balancer" "backends") IsStrings
    [] c.balancer.backends
  intervalSecs : Layered f.intervalSecs (setting? file "health_check" "interval_secs") IsNumber
    10 c.healthCheck.intervalSecs
  probeTimeoutSecs : Layered none (setting? file "health_check" "timeout_secs") IsNumber
    5 c.healthCheck.timeoutSecs
  probePath : Layered none (setting? file "health_check" "path") IsString
    "/health" c.healthCheck.path
  timeoutSecs : Layered none (setting? file "upstream" "timeout_secs") IsNumber
    30 c.forwarding.timeoutSecs
  logLevel : Layered f.logLevel (setting? file "observability" "log_level") IsString
    "info" c.observability.logLevel
  json : Layered none (setting? file "observability" "json") IsBoolean
    false c.observability.json

/-! ### The sections as lists of fields -/

def Listener.settings : List (Setting Listener) :=
  [field "bind_address" Decoder.string fun a b => { a with bindAddress := b }]

def Backends.settings : List (Setting Backends) :=
  [field "strategy" Decoder.strategy fun a b => { a with strategy := b },
    field "backends" Decoder.strings fun a b => { a with backends := b }]

def HealthCheck.settings : List (Setting HealthCheck) :=
  [field "interval_secs" Decoder.number fun a b => { a with intervalSecs := b },
    field "timeout_secs" Decoder.number fun a b => { a with timeoutSecs := b },
    field "path" Decoder.string fun a b => { a with path := b }]

def Forwarding.settings : List (Setting Forwarding) :=
  [field "timeout_secs" Decoder.number fun a b => { a with timeoutSecs := b }]

def Observability.settings : List (Setting Observability) :=
  [field "log_level" Decoder.string fun a b => { a with logLevel := b },
    field "json" Decoder.boolean fun a b => { a with json := b }]

def sections : List (Setting Config) :=
  [field "listener" Listener.ofValue fun a b => { a with listener := b },
    field "balancer" Backends.ofValue fun a b => { a with balancer := b },
    field "health_check" HealthCheck.ofValue fun a b => { a with healthCheck := b },
    field "upstream" Forwarding.ofValue fun a b => { a with forwarding := b },
    field "observability" Observability.ofValue fun a b => { a with observability := b }]

variable {v : Value}

theorem Listener.follows : Follows Listener.settings [("bind_address", Says IsString)] :=
  .reading string_eq_ok .nil

theorem Backends.follows : Follows Backends.settings
    [("strategy", Says IsStrategy), ("backends", Says IsStrings)] :=
  .reading strategy_eq_ok <|
  .reading strings_eq_ok .nil

theorem HealthCheck.follows : Follows HealthCheck.settings
    [("interval_secs", Says IsNumber), ("timeout_secs", Says IsNumber), ("path", Says IsString)] :=
  .reading number_eq_ok <|
  .reading number_eq_ok <|
  .reading string_eq_ok .nil

theorem Forwarding.follows : Follows Forwarding.settings [("timeout_secs", Says IsNumber)] :=
  .reading number_eq_ok .nil

theorem Observability.follows : Follows Observability.settings
    [("log_level", Says IsString), ("json", Says IsBoolean)] :=
  .reading string_eq_ok <|
  .reading boolean_eq_ok .nil

theorem sections_follow :
    Follows sections (schema.map fun (name, settings) => (name, Conforms settings)) :=
  .cons (fun _ => Listener.follows.succeeds_iff (by decide)) <|
  .cons (fun _ => Backends.follows.succeeds_iff (by decide)) <|
  .cons (fun _ => HealthCheck.follows.succeeds_iff (by decide)) <|
  .cons (fun _ => Forwarding.follows.succeeds_iff (by decide)) <|
  .cons (fun _ => Observability.follows.succeeds_iff (by decide)) .nil

/-- Data is decoded where it fits. -/
theorem fits_iff : Fits v ↔ ∃ c, ofValue v = .ok c :=
  (sections_follow.succeeds_iff (by decide)).symm

/-! ### What a file makes of each field -/

/-- A field of a section, where the section itself is a field. -/
theorem Decided.within {β γ : Type} {value : Option Value} {inner : Value → Option Value}
    {decode : Decoder γ} {reads : Value → β → Prop} {get : γ → β} {default part : γ}
    (h : Decided value (Decoder.Gives decode) default part)
    (hpart : ∀ {w x}, decode w = .ok x → Decided (inner w) reads (get default) (get x)) :
    Decided (value.bind inner) reads (get default) (get part) := by
  cases value with
  | none =>
    obtain rfl : part = default := h
    rfl
  | some w => exact hpart h

theorem Listener.decided {a : Listener} (h : Listener.ofValue v = .ok a) :
    Decided (under? (keysOf "listener") "bind_address" v) IsString "0.0.0.0:8080" a.bindAddress :=
  have hgov : Governs Listener.settings "bind_address" (·.bindAddress) IsString :=
    .here (fun _ _ => rfl) (fun _ _ => string_eq_ok.mp) (by decide) .nil
  hgov.decided (by decide) h

theorem Backends.decided {a : Backends} (h : Backends.ofValue v = .ok a) :
    Decided (under? (keysOf "balancer") "strategy" v) IsStrategy .roundRobin a.strategy ∧
    Decided (under? (keysOf "balancer") "backends" v) IsStrings [] a.backends := by
  have hstrategy : Governs Backends.settings "strategy" (·.strategy) IsStrategy :=
    .here (fun _ _ => rfl) (fun _ _ => strategy_eq_ok.mp) (by decide) <| .cons (fun _ _ => rfl) .nil
  have hbackends : Governs Backends.settings "backends" (·.backends) IsStrings :=
    .there (by decide) (fun _ _ => rfl) <|
    .here (fun _ _ => rfl) (fun _ _ => strings_eq_ok.mp) (by decide) .nil
  exact ⟨hstrategy.decided (by decide) h, hbackends.decided (by decide) h⟩

theorem HealthCheck.decided {a : HealthCheck} (h : HealthCheck.ofValue v = .ok a) :
    Decided (under? (keysOf "health_check") "interval_secs" v) IsNumber 10 a.intervalSecs ∧
    Decided (under? (keysOf "health_check") "timeout_secs" v) IsNumber 5 a.timeoutSecs ∧
    Decided (under? (keysOf "health_check") "path" v) IsString "/health" a.path := by
  have hinterval : Governs HealthCheck.settings "interval_secs" (·.intervalSecs) IsNumber :=
    .here (fun _ _ => rfl) (fun _ _ => number_eq_ok.mp) (by decide) <|
    .cons (fun _ _ => rfl) <| .cons (fun _ _ => rfl) .nil
  have htimeout : Governs HealthCheck.settings "timeout_secs" (·.timeoutSecs) IsNumber :=
    .there (by decide) (fun _ _ => rfl) <|
    .here (fun _ _ => rfl) (fun _ _ => number_eq_ok.mp) (by decide) <|
    .cons (fun _ _ => rfl) .nil
  have hpath : Governs HealthCheck.settings "path" (·.path) IsString :=
    .there (by decide) (fun _ _ => rfl) <| .there (by decide) (fun _ _ => rfl) <|
    .here (fun _ _ => rfl) (fun _ _ => string_eq_ok.mp) (by decide) .nil
  exact ⟨hinterval.decided (by decide) h, htimeout.decided (by decide) h,
    hpath.decided (by decide) h⟩

theorem Forwarding.decided {a : Forwarding} (h : Forwarding.ofValue v = .ok a) :
    Decided (under? (keysOf "upstream") "timeout_secs" v) IsNumber 30 a.timeoutSecs :=
  have hgov : Governs Forwarding.settings "timeout_secs" (·.timeoutSecs) IsNumber :=
    .here (fun _ _ => rfl) (fun _ _ => number_eq_ok.mp) (by decide) .nil
  hgov.decided (by decide) h

theorem Observability.decided {a : Observability} (h : Observability.ofValue v = .ok a) :
    Decided (under? (keysOf "observability") "log_level" v) IsString "info" a.logLevel ∧
    Decided (under? (keysOf "observability") "json" v) IsBoolean false a.json := by
  have hlevel : Governs Observability.settings "log_level" (·.logLevel) IsString :=
    .here (fun _ _ => rfl) (fun _ _ => string_eq_ok.mp) (by decide) <| .cons (fun _ _ => rfl) .nil
  have hjson : Governs Observability.settings "json" (·.json) IsBoolean :=
    .there (by decide) (fun _ _ => rfl) <|
    .here (fun _ _ => rfl) (fun _ _ => boolean_eq_ok.mp) (by decide) .nil
  exact ⟨hlevel.decided (by decide) h, hjson.decided (by decide) h⟩

/-- The same of the sections, which are the fields of the configuration. -/
theorem sections_decided {c : Config} (h : ofValue v = .ok c) :
    let names := schema.map (·.1)
    Decided (under? names "listener" v) (Decoder.Gives Listener.ofValue) {} c.listener ∧
    Decided (under? names "balancer" v) (Decoder.Gives Backends.ofValue) {} c.balancer ∧
    Decided (under? names "health_check" v) (Decoder.Gives HealthCheck.ofValue) {} c.healthCheck ∧
    Decided (under? names "upstream" v) (Decoder.Gives Forwarding.ofValue) {} c.forwarding ∧
    Decided (under? names "observability" v) (Decoder.Gives Observability.ofValue)
      {} c.observability := by
  have hlistener : Governs sections "listener" (·.listener) (Decoder.Gives Listener.ofValue) :=
    .here (fun _ _ => rfl) (fun _ _ => id) (by decide) <|
    .cons (fun _ _ => rfl) <| .cons (fun _ _ => rfl) <| .cons (fun _ _ => rfl) <|
    .cons (fun _ _ => rfl) .nil
  have hbalancer : Governs sections "balancer" (·.balancer) (Decoder.Gives Backends.ofValue) :=
    .there (by decide) (fun _ _ => rfl) <|
    .here (fun _ _ => rfl) (fun _ _ => id) (by decide) <|
    .cons (fun _ _ => rfl) <| .cons (fun _ _ => rfl) <| .cons (fun _ _ => rfl) .nil
  have hprobes : Governs sections "health_check" (·.healthCheck)
      (Decoder.Gives HealthCheck.ofValue) :=
    .there (by decide) (fun _ _ => rfl) <| .there (by decide) (fun _ _ => rfl) <|
    .here (fun _ _ => rfl) (fun _ _ => id) (by decide) <|
    .cons (fun _ _ => rfl) <| .cons (fun _ _ => rfl) .nil
  have hupstream : Governs sections "upstream" (·.forwarding) (Decoder.Gives Forwarding.ofValue) :=
    .there (by decide) (fun _ _ => rfl) <| .there (by decide) (fun _ _ => rfl) <|
    .there (by decide) (fun _ _ => rfl) <|
    .here (fun _ _ => rfl) (fun _ _ => id) (by decide) <| .cons (fun _ _ => rfl) .nil
  have hlogs : Governs sections "observability" (·.observability)
      (Decoder.Gives Observability.ofValue) :=
    .there (by decide) (fun _ _ => rfl) <| .there (by decide) (fun _ _ => rfl) <|
    .there (by decide) (fun _ _ => rfl) <| .there (by decide) (fun _ _ => rfl) <|
    .here (fun _ _ => rfl) (fun _ _ => id) (by decide) .nil
  exact ⟨hlistener.decided (by decide) h, hbalancer.decided (by decide) h,
    hprobes.decided (by decide) h, hupstream.decided (by decide) h, hlogs.decided (by decide) h⟩

/-- What is decoded is the file over the defaults, and no flags. -/
theorem Merged.of_ofValue {c : Config} (h : ofValue v = .ok c) : Merged .silent (some v) c := by
  obtain ⟨hlistener, hbalancer, hprobes, hupstream, hlogs⟩ := sections_decided h
  exact {
    bindAddress := hlistener.within Listener.decided
    strategy := hbalancer.within fun h => (Backends.decided h).1
    backends := hbalancer.within fun h => (Backends.decided h).2
    intervalSecs := hprobes.within fun h => (HealthCheck.decided h).1
    probeTimeoutSecs := hprobes.within fun h => (HealthCheck.decided h).2.1
    probePath := hprobes.within fun h => (HealthCheck.decided h).2.2
    timeoutSecs := hupstream.within Forwarding.decided
    logLevel := hlogs.within fun h => (Observability.decided h).1
    json := hlogs.within fun h => (Observability.decided h).2 }

theorem Merged.default : Merged .silent none {} := by
  constructor <;> rfl

/-! ### The command line over it -/

section Layers
variable {β : Type} {flag : Option β} {value : Option Value} {reads : Value → β → Prop}
  {default b b' : β}

theorem Layered.over (h : Layered none value reads default b) :
    Layered flag value reads default (flag.getD b) := by
  cases flag with
  | none => exact h
  | some given => rfl

/-- What a value says is one thing, since decoding it gives one. -/
theorem Layered.unique {decode : Decoder β} (hreads : ∀ {v b}, decode v = .ok b ↔ reads v b)
    (h : Layered flag value reads default b) (h' : Layered flag value reads default b') :
    b = b' := by
  cases flag with
  | some given => exact Eq.trans h (Eq.symm h')
  | none =>
    cases value with
    | some v => exact Except.ok.inj ((hreads.mpr h).symm.trans (hreads.mpr h'))
    | none => exact Eq.trans h (Eq.symm h')

end Layers

variable {f : Flags} {file : Option Value} {c c' : Config}

theorem overlay_backends : (f.overlay c).balancer.backends = f.pool.getD c.balancer.backends := by
  simp only [Flags.overlay, Flags.pool]
  split <;> rfl

theorem Merged.overlay (h : Merged .silent file c) : Merged f file (f.overlay c) where
  bindAddress := h.bindAddress.over
  strategy := h.strategy.over
  backends := by
    rw [overlay_backends]
    exact h.backends.over
  intervalSecs := h.intervalSecs.over
  probeTimeoutSecs := h.probeTimeoutSecs
  probePath := h.probePath
  timeoutSecs := h.timeoutSecs
  logLevel := h.logLevel.over
  json := h.json

/-- Each field is decided, so the whole configuration is. -/
theorem Merged.unique (h : Merged f file c) (h' : Merged f file c') : c = c' := by
  obtain ⟨⟨_⟩, ⟨_, _⟩, ⟨_, _, _⟩, ⟨_⟩, ⟨_, _⟩⟩ := c
  obtain ⟨⟨_⟩, ⟨_, _⟩, ⟨_, _, _⟩, ⟨_⟩, ⟨_, _⟩⟩ := c'
  simp only [mk.injEq, Listener.mk.injEq, Backends.mk.injEq, HealthCheck.mk.injEq,
    Forwarding.mk.injEq, Observability.mk.injEq]
  exact ⟨h.bindAddress.unique string_eq_ok h'.bindAddress,
    ⟨h.strategy.unique strategy_eq_ok h'.strategy, h.backends.unique strings_eq_ok h'.backends⟩,
    ⟨h.intervalSecs.unique number_eq_ok h'.intervalSecs,
      h.probeTimeoutSecs.unique number_eq_ok h'.probeTimeoutSecs,
      h.probePath.unique string_eq_ok h'.probePath⟩,
    h.timeoutSecs.unique number_eq_ok h'.timeoutSecs,
    h.logLevel.unique string_eq_ok h'.logLevel, h.json.unique boolean_eq_ok h'.json⟩

theorem getD_getD {β : Type} (o : Option β) (b : β) : o.getD (o.getD b) = o.getD b := by
  cases o <;> rfl

theorem overlay_overlay : f.overlay (f.overlay c) = f.overlay c := by
  simp only [Flags.overlay, getD_getD]
  split <;> rfl

/-! ### The file -/

/-- The data in a file. -/
def Holds (files : Files) (path : String) (v : Value) : Prop :=
  ∃ bytes text, files path = .ok bytes ∧ String.fromUTF8? bytes = some text ∧
    Value.ofString? text = some v

/-- The file that the command line names, with data that fits, or no file. -/
inductive Source (files : Files) (f : Flags) : Option Value → Prop
  | none : f.config = none → Source files f none
  | file {path : String} {v : Value} :
    f.config = some path → Holds files path v → Fits v → Source files f (some v)

/-- A file that is not there to be read, or is no text, or is no TOML, or does not fit. -/
inductive Unusable (files : Files) (path : String) : ConfigError → Prop
  | unread {e : ReadError} : files path = .error e → Unusable files path (.io e)
  | notText {bytes : ByteArray} :
    files path = .ok bytes → String.fromUTF8? bytes = none → Unusable files path (.io .notText)
  | notToml {bytes : ByteArray} {text : String} :
    files path = .ok bytes → String.fromUTF8? bytes = some text → Value.ofString? text = none →
    Unusable files path .syntaxError
  | unfit {v : Value} {e : DecodeError} :
    Holds files path v → ¬ Fits v → ofValue v = .error e → Unusable files path (.schema e)

variable {files : Files} {path : String}

theorem load_of_holds (h : Holds files path v) :
    load files path = (ofValue v).mapError .schema := by
  obtain ⟨bytes, text, hbytes, htext, hv⟩ := h
  simp [load, ofText, hbytes, htext, hv, Except.mapError, bind, Except.bind]

theorem load_of_unusable {e : ConfigError} (h : Unusable files path e) :
    load files path = .error e := by
  cases h with
  | unread he => simp [load, he, Except.mapError, bind, Except.bind]
  | notText hbytes htext => simp [load, hbytes, htext, Except.mapError, bind, Except.bind]
  | notToml hbytes htext hv =>
    simp [load, ofText, hbytes, htext, hv, Except.mapError, bind, Except.bind]
  | unfit hv _ he => rw [load_of_holds hv, he]; rfl

/-- A file is used or not; nothing else comes of reading one. -/
theorem source_or_unusable (files : Files) (f : Flags) :
    (∃ file, Source files f file) ∨ ∃ path e, f.config = some path ∧ Unusable files path e := by
  cases hconfig : f.config with
  | none => exact .inl ⟨none, .none hconfig⟩
  | some path =>
    cases hbytes : files path with
    | error e => exact .inr ⟨path, _, rfl, .unread hbytes⟩
    | ok bytes =>
      cases htext : String.fromUTF8? bytes with
      | none => exact .inr ⟨path, _, rfl, .notText hbytes htext⟩
      | some text =>
        cases hv : Value.ofString? text with
        | none => exact .inr ⟨path, _, rfl, .notToml hbytes htext hv⟩
        | some v =>
          have hholds : Holds files path v := ⟨bytes, text, hbytes, htext, hv⟩
          cases hc : ofValue v with
          | ok c => exact .inl ⟨some v, .file hconfig hholds (fits_iff.mpr ⟨c, hc⟩)⟩
          | error e =>
            have hunfit : ¬ Fits v := by
              rw [fits_iff, hc]
              rintro ⟨_, ⟨⟩⟩
            exact .inr ⟨path, _, rfl, .unfit hholds hunfit hc⟩

theorem base_of_unusable {e : ConfigError} (hconfig : f.config = some path)
    (h : Unusable files path e) : base files f = .error e := by
  rw [base, hconfig]
  exact load_of_unusable h

theorem base_of_source (h : Source files f file) :
    ∃ c, base files f = .ok c ∧ Merged .silent file c := by
  cases h with
  | none hconfig => exact ⟨{}, by rw [base, hconfig], .default⟩
  | @file path v hconfig hholds hfits =>
    obtain ⟨c, hc⟩ := fits_iff.mp hfits
    refine ⟨c, ?_, .of_ofValue hc⟩
    rw [base, hconfig]
    show load files path = .ok c
    rw [load_of_holds hholds, hc]
    rfl

/-! ### The effective configuration -/

theorem resolve_of_base (h : base files f = .ok c) :
    resolve files f = (validate (f.overlay c)).mapError .validation >>= fun _ =>
      .ok (f.overlay c) := by
  rw [resolve, h]
  rfl

theorem resolve_of_source (h : Source files f file) (hc : Merged f file c) :
    resolve files f = (validate c).mapError .validation >>= fun _ => .ok c := by
  obtain ⟨base, hbase, hmerged⟩ := base_of_source h
  rw [hc.unique hmerged.overlay]
  exact resolve_of_base hbase

theorem resolve_of_unusable {e : ConfigError} (hconfig : f.config = some path)
    (h : Unusable files path e) : resolve files f = .error e := by
  rw [resolve, base_of_unusable hconfig h]
  rfl

theorem resolve_eq_ok : resolve files f = .ok c ↔
    ∃ file, Source files f file ∧ Merged f file c ∧ validate c = .ok () := by
  constructor
  · intro h
    rcases source_or_unusable files f with ⟨file, hfile⟩ | ⟨path, e, hconfig, he⟩
    · obtain ⟨base, -, hmerged⟩ := base_of_source hfile
      rw [resolve_of_source hfile hmerged.overlay, bind_eq_ok] at h
      obtain ⟨⟨⟩, hvalid, hok⟩ := h
      cases hok
      exact ⟨file, hfile, hmerged.overlay, mapError_eq_ok.mp hvalid⟩
    · rw [resolve_of_unusable hconfig he] at h
      cases h
  · rintro ⟨file, hfile, hc, hvalid⟩
    rw [resolve_of_source hfile hc, hvalid]
    rfl

theorem strategy_eq_none_of_dynamic {args : List String} (h : Flags.parse args = .ok f)
    (hdynamic : f.dynamic = true) : f.strategy = none := by
  obtain ⟨p, -, h⟩ := bind_eq_ok.mp h
  dsimp only at h
  split at h
  · cases h
  case isFalse hboth =>
    cases h
    simpa [hdynamic] using hboth

/-- Two flags name the strategy, and no command line has both. -/
theorem chosen_eq_some {args : List String} (h : Flags.parse args = .ok f) {s : Strategy} :
    f.chosen = some s ↔ f.dynamic = true ∧ s = .leastResponse ∨ f.strategy = some s := by
  unfold Flags.chosen
  split
  case isTrue hdynamic => simp [hdynamic, strategy_eq_none_of_dynamic h hdynamic, eq_comm]
  case isFalse hdynamic => simp [hdynamic]

/-- **What comes of the layers.** For every command line that parses there is one configuration that
has each setting from its flag, or else from the file, or else from the defaults, the two flags for
the strategy being one setting; and it is the outcome just where it passes validation. Whatever the
flags are, a file that is of no use fails. And to overlay the same flags again changes nothing. -/
theorem resolved_by_layers {args : List String} (hparsed : Flags.parse args = .ok f)
    (files : Files) :
    (∀ s, f.chosen = some s ↔ f.dynamic = true ∧ s = .leastResponse ∨ f.strategy = some s) ∧
    (∀ c, resolve files f = .ok c ↔
      ∃ file, Source files f file ∧ Merged f file c ∧ validate c = .ok ()) ∧
    (∀ file, Source files f file → ∃! c, Merged f file c) ∧
    (∀ file c ps, Source files f file → Merged f file c → validate c = .error ps →
      resolve files f = .error (.validation ps)) ∧
    (∀ path e, f.config = some path → Unusable files path e → resolve files f = .error e) ∧
    ∀ c, f.overlay (f.overlay c) = f.overlay c := by
  refine ⟨fun s => chosen_eq_some hparsed, fun c => resolve_eq_ok, fun file h => ?_,
    fun file c ps h hc hps => ?_, fun path e hconfig h => resolve_of_unusable hconfig h,
    fun c => overlay_overlay⟩
  · obtain ⟨c, -, hc⟩ := base_of_source h
    exact ⟨f.overlay c, hc.overlay, fun c' hc' => hc'.unique hc.overlay⟩
  · rw [resolve_of_source h hc, hps]
    rfl

/-- The file has an address that is none. Under another one from the command line that does not
matter; without one it is the problem. -/
theorem resolved_by_layers_over_address :
    let files : Files := fun _ => .ok "listener.bind_address = \"nowhere\"\n".toUTF8
    let f : Flags := ⟨["http://[::1]:81"], some "a.toml", none, false, none, some "[::1]:80", none⟩
    let c : Config :=
      { listener := ⟨"[::1]:80"⟩, balancer := ⟨.roundRobin, ["http://[::1]:81"]⟩ }
    Flags.parse ["--config", "a.toml", "-b", "[::1]:80", "http://[::1]:81"] = .ok f ∧
    Flags.parse ["--config", "a.toml", "http://[::1]:81"] = .ok { f with bind := none } ∧
    (∃ v, ofValue v = .ok { listener := ⟨"nowhere"⟩ } ∧ Source files f (some v) ∧
      Merged f (some v) c) ∧
    resolve files f = .ok c ∧
    resolve files { f with bind := none } =
      .error (.validation [.invalidBindAddress "nowhere"]) := by
  intro files f c
  have hparsed : Flags.parse ["--config", "a.toml", "-b", "[::1]:80", "http://[::1]:81"] = .ok f :=
    rfl
  have hwithout : Flags.parse ["--config", "a.toml", "http://[::1]:81"] =
      .ok { f with bind := none } := rfl
  have htext : String.fromUTF8? "listener.bind_address = \"nowhere\"\n".toUTF8 =
      some "listener.bind_address = \"nowhere\"\n" := by decide +kernel
  have hread : (Value.ofString? "listener.bind_address = \"nowhere\"\n").bind
      (fun v => (ofValue v).toOption) = some { listener := ⟨"nowhere"⟩ } := by decide +kernel
  obtain ⟨v, hv, hdecoded⟩ := Option.bind_eq_some_iff.mp hread
  have hfile : ofValue v = .ok { listener := ⟨"nowhere"⟩ } := toOption_eq_some.mp hdecoded
  have hholds : Holds files "a.toml" v := ⟨_, _, rfl, htext, hv⟩
  have hfits : Fits v := fits_iff.mpr ⟨_, hfile⟩
  have hsource : Source files f (some v) := .file rfl hholds hfits
  have hmerged : Merged f (some v) c := (Merged.of_ofValue hfile).overlay
  have hvalid : validate c = .ok () := validate_eq_ok.mpr (by decide +kernel)
  have hproblems : problems { c with listener := ⟨"nowhere"⟩ } =
      [.invalidBindAddress "nowhere"] := by
    decide +kernel
  obtain ⟨_, hok, _⟩ := resolved_by_layers hparsed files
  obtain ⟨_, _, _, herror, _⟩ := resolved_by_layers hwithout files
  refine ⟨hparsed, hwithout, ⟨v, hfile, hsource, hmerged⟩,
    (hok c).mpr ⟨_, hsource, hmerged, hvalid⟩, ?_⟩
  refine herror (some v) { c with listener := ⟨"nowhere"⟩ } _ (.file rfl hholds hfits)
    (Merged.of_ofValue hfile).overlay ?_
  rw [validate_eq_error (by rw [hproblems]; nofun), hproblems]

end Config
end Sluice
